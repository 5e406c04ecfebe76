/-
# Operations on approvals

`approval.rs`: asking for an approval, rejecting it, handing it to an external wallet, signing it
with a managed key, completing what was handed off, and attaching the outcome of a transaction.

An approval is asked for pending.  The checks of its intent are made when it is asked for, and again
by the managed path before it signs.
-/
import ElastosRuntime.Wallet.Accounts

namespace ElastosRuntime.Wallet

open Contracts Text WalletCurve WalletSigner Records Streams Streams.Effect

def MAX_BROWSER_ACCOUNT_ACCESS_TTL_SECS : Nat := 12 * 60 * 60

/-! ## 1. Access to a Browser account -/

def BROWSER_ACCOUNT_ACCESS_FIELDS : List String :=
  ["schema", "permission", "principal_id", "session_id", "launch_id", "proof_binding_id", "origin",
    "page_url", "account_id", "requested_chain_namespace", "chain_namespaces", "address",
    "grant_expires_at", "requires_wallet_approval"]

def SUPPORTED_CHAIN_NAMESPACES : List String := ["eip155:20", "eip155:8453"]

/-- The closure `text`: a member that is a text and not blank. -/
def accessText (payload : Json) (field : String) : Except String String :=
  okOr ((payload.getStr field).filter fun value => trim value ≠ "")
    s!"Browser account access payload missing {field}"

/-- A page of the origin: what stands behind the origin starts a path, a query or a fragment. -/
def isPageOf (pageUrl origin : String) : Bool :=
  (stripPrefix pageUrl origin).any fun suffix =>
    suffix == "" || startsWith suffix "/" || startsWith suffix "?" || startsWith suffix "#"

def isWebUrl (value : String) : Bool := startsWith value "https://" || startsWith value "http://"

def validateBrowserAccountAccessPayload (payload : Json) (account : LinkedAccount)
    (input : SignatureRequestInput) (now : Nat) : Except String Unit := do
  let object ← okOr payload.asObject "Browser account access payload must be an object"
  failIf (object.length ≠ BROWSER_ACCOUNT_ACCESS_FIELDS.length ∨
      ¬object.all fun member => member.1 ∈ BROWSER_ACCOUNT_ACCESS_FIELDS)
    "Browser account access payload fields are invalid"
  let schema ← accessText payload "schema"
  failIf (schema ≠ "elastos.browser.account-access-request/v1")
    "Browser account access payload schema is invalid"
  let permission ← accessText payload "permission"
  failIf (permission ≠ "eth_accounts") "Browser account access permission must be eth_accounts"
  failIf (input.requestedByActor ≠ "browser") "Browser account access must be requested by Browser"
  failIf (isManagedProofType account.proofType = false ∨ account.connectorId.isSome)
    "Browser account access requires a Runtime-managed account"
  let principalId ← accessText payload "principal_id"
  failIf (principalId ≠ account.principalId)
    "Browser account access principal does not match selected account"
  let sessionId ← accessText payload "session_id"
  let launch := "Browser account access session or launch authority does not match"
  failIf (sessionId ≠ input.sessionId) launch
  let launchId ← accessText payload "launch_id"
  failIf (launchId ≠ input.launchId) launch
  let proofBindingId ← accessText payload "proof_binding_id"
  validateOpaqueId proofBindingId "proof_binding_id"
  failIf (some proofBindingId ≠ input.proofBindingId)
    "Browser account access proof binding does not match authority"
  let accountId ← accessText payload "account_id"
  failIf (accountId ≠ account.accountId)
    "Browser account access account does not match selected account"
  let requestedPayloadChain ← accessText payload "requested_chain_namespace"
  failIf (requestedPayloadChain ≠ input.chainNamespace ∨
      chainNamespacesCompatible account.chainNamespace requestedPayloadChain = false)
    "Browser account access chain does not match selected account"
  let chainNamespaces ← okOr (payload.get "chain_namespaces" >>= Json.asArray)
    "Browser account access chain_namespaces are missing"
  failIf (chainNamespaces.map Json.asStr ≠ SUPPORTED_CHAIN_NAMESPACES.map some ∨
      requestedPayloadChain ∉ SUPPORTED_CHAIN_NAMESPACES ∨
      ¬SUPPORTED_CHAIN_NAMESPACES.all (chainNamespacesCompatible account.chainNamespace))
    "Browser account access chain_namespaces do not match the supported network set"
  let address ← accessText payload "address"
  failIf (eqIgnoreAsciiCase address account.address = false)
    "Browser account access address does not match selected account"
  let origin ← accessText payload "origin"
  let pageUrl ← accessText payload "page_url"
  failIf (512 < byteLength origin ∨ 4096 < byteLength pageUrl ∨ isWebUrl origin = false ∨
      isWebUrl pageUrl = false ∨ endsWith origin "/" ∨ any origin isWhitespace ∨
      any pageUrl isWhitespace ∨ isPageOf pageUrl origin = false)
    "Browser account access page URL or origin is invalid"
  failIf (payload.getBool "requires_wallet_approval" ≠ some true)
    "Browser account access must require wallet approval"
  let grantExpiresAt ← okOr (payload.getU64 "grant_expires_at")
    "Browser account access grant expiry is missing"
  failIf (grantExpiresAt.toNat ≤ now ∨
      saturatingAdd now MAX_BROWSER_ACCOUNT_ACCESS_TTL_SECS < grantExpiresAt.toNat)
    "Browser account access grant expiry is outside the allowed window"

/-! ## 2. The outcome of a transaction -/

section

variable [Crypto]

def canonicalSignedTransactionSha256 (signedTransaction : String) : Except String String := do
  let encoded ← okOr (stripPrefix signedTransaction "0x") "signed transaction must be 0x-prefixed"
  let bytes ← okOr (hexDecode encoded) "signed transaction must be hexadecimal"
  failIf (bytes = []) "signed transaction must not be empty"
  pure ("sha256:" ++ hexEncode (Crypto.sha256 bytes).toList)

/-- A hash that the observation repeats somewhere, if it does, is the transaction's. -/
def repeatsHash (observation : Json) (member name transactionHash : String) : Bool :=
  ((observation.get member).bind fun nested => nested.getStr name).all (· == transactionHash)

def validateChainObservationBinding (outcome : ValidatedChainOutcomeV1) : Except String Unit := do
  let observation := outcome.chainObservation
  failIf observation.asObject.isNone "validated Chain observation must be an object"
  failIf (observation.getStr "network" ≠ some outcome.network)
    "validated Chain observation network mismatch"
  let outerHash ← okOr
    ((observation.get "transaction_hash" <|> observation.get "hash") >>= Json.asStr)
    "validated Chain observation is missing its transaction hash"
  failIf (outerHash ≠ outcome.transactionHash)
    "validated Chain observation transaction hash mismatch"
  failIf (repeatsHash observation "receipt" "transactionHash" outcome.transactionHash = false)
    "validated Chain receipt payload hash mismatch"
  failIf (repeatsHash observation "transaction" "hash" outcome.transactionHash = false)
    "validated Chain transaction payload hash mismatch"
  match outcome.binding with
  | .managedSigned _ => pure ()
  | .externalConnector _ originatingAddress => do
    let observedFrom ← okOr
      ((observation.get "transaction").bind fun transaction => transaction.getStr "from")
      "validated external Chain observation is missing originating account"
    failIf (eqIgnoreAsciiCase observedFrom originatingAddress = false)
      "validated external Chain observation originating account mismatch"

/-- The binding of an outcome against the approval and its signed result. -/
def validateOutcomeBinding (request : WalletApprovalRequest) (signedResult : Json) :
    ValidatedChainOutcomeBindingV1 → Except String Unit
  | .managedSigned signedTransactionSha256 => do
    failIf (isManagedProofType request.proofType = false ∨ request.connectorId.isSome ∨
        signedResult.getStr "schema" ≠ some "elastos.wallet.signed-transaction-result/v1")
      "validated managed Chain outcome requires a managed signed result"
    let signedTransaction ← okOr (signedResult.getStr "signed_transaction")
      "completed approval is missing its signed transaction"
    let digest ← canonicalSignedTransactionSha256 signedTransaction
    failIf (digest ≠ signedTransactionSha256)
      "validated Chain outcome signed transaction digest mismatch"
  | .externalConnector connectorId originatingAddress =>
    failIf (request.connectorId ≠ some connectorId ∨
        eqIgnoreAsciiCase request.address originatingAddress = false ∨
        signedResult.getStr "schema" ≠ some "elastos.wallet.external-transaction-result/v1" ∨
        (signedResult.get "signed_transaction").isSome)
      "validated external Chain outcome connector binding mismatch"

variable [SerdeJson]

def validateChainOutcomeTarget (request : WalletApprovalRequest) (authority : WalletAuthorityV2)
    (outcome : ValidatedChainOutcomeV1) : Except String Unit := do
  failIf (request.principalId ≠ authority.principalId ∨
      request.authorityBinding ≠ walletAuthorityBinding authority)
    "validated Chain outcome authority does not match the approval"
  failIf (request.requestId ≠ outcome.approvalRequestId ∨ request.accountId ≠ outcome.accountId ∨
      request.chainNamespace ≠ outcome.chainNamespace)
    "validated Chain outcome approval binding mismatch"
  failIf (request.status ≠ .completed ∨ request.intent ≠ "transaction_intent")
    "validated Chain outcome requires a completed transaction approval"
  let signedResult ← okOr (request.signedResult.filter fun result => result.asObject.isSome)
    "completed approval is missing its signed transaction result"
  failIf (signedResult.getStr "transaction_hash" ≠ some outcome.transactionHash)
    "validated Chain outcome transaction hash mismatch"
  failIf (((request.payload.get "network").bind fun network => network.getStr "id") ≠
      some outcome.network)
    "validated Chain outcome network mismatch"
  validateOutcomeBinding request signedResult outcome.binding
  failIf (signedResult.getStr "request_id" ≠ some request.requestId ∨
      signedResult.getStr "method" ≠ some "eth_sendTransaction" ∨
      signedResult.getStr "chain_namespace" ≠ some request.chainNamespace ∨
      ((signedResult.getStr "signer").any (eqIgnoreAsciiCase · request.address)) = false ∨
      signedResult.getStr "payload_hash" ≠ some request.payloadHash)
    "validated Chain outcome signed result binding mismatch"
  validateChainObservationBinding outcome

end

/-! ## 3. Asking for an approval -/

section

variable [Curves] [Crypto] [WalletSigner] [BitcoinCrate] [Custody.Aes256Gcm] [SerdeJson]

def validateBitcoinChallengeForSigning (bitcoinChallenges : List StoredBitcoinChallenge)
    (payload : Json) (account : LinkedAccount) (now : Nat) : Except String Unit := do
  validateBitcoinBip322ProofPayload payload account
  let message ← okOr (payload.getStr "message") "Bitcoin BIP-322 payload missing message"
  let challengeId ← okOr (bitcoinChallengeIdFromMessage message)
    "Bitcoin BIP-322 message missing Runtime challenge"
  let stored ← okOr
    (bitcoinChallenges.find? fun stored => stored.challenge.challengeId == challengeId)
    "Bitcoin proof challenge not found"
  failIf stored.consumedAt.isSome "Bitcoin proof challenge already consumed"
  failIf (stored.challenge.expiresAt ≤ now) "Bitcoin proof challenge expired"
  failIf (stored.challenge.address ≠ account.address)
    "Bitcoin proof challenge address does not match account"
  failIf (stored.challenge.network ≠ "bitcoin")
    "Bitcoin proof challenge network does not match account"
  failIf (stored.challenge.message ≠ message) "Bitcoin proof message does not match challenge"

def accountForSignature (store : WalletStore) (input : SignatureRequestInput) :
    Except Refusal LinkedAccount := do
  let account ← okOr (activeAccount store.accounts input.principalId input.accountId)
    ⟨"not_found", "active linked account not found"⟩
  denyIf (chainNamespacesCompatible account.chainNamespace input.chainNamespace = false)
    "invalid_request" "wallet account does not match requested chain_namespace"
  pure account

def ensureManagedAccountCanSign (storageKey : Option (Bytes 32)) (store : WalletStore)
    (account : LinkedAccount) : Except Refusal Unit :=
  if isManagedProofType account.proofType = false then .ok ()
  else
    match managedSigningKeyForAccount storageKey store.managedWallets account with
    | .ok _ => .ok ()
    | .error err =>
      .error ⟨if err = MANAGED_KEY_NOT_FOUND then "managed_key_missing"
        else "managed_key_unavailable", err⟩

def UNSUPPORTED_MANAGED_INTENT : String :=
  "managed signing is implemented only for Browser account access, personal_sign, typed data, " ++
    "transaction, and Bitcoin BIP-322 intents"

/-- What `request_approval` checks of the payload, for the intent it is of. -/
def validateRequestedPayload (store : WalletStore) (input : SignatureRequestInput)
    (account : LinkedAccount) (now : Nat) : Except Refusal Unit := do
  if input.intent = "transaction_intent" then
    refuse "invalid_transaction_intent" <|
      validateEip155TransactionIntentPayload input.payload account
  else if input.intent = "browser_personal_sign" then
    refuse "invalid_browser_personal_sign" <|
      validateBrowserPersonalSignPayload input.payload account
  else if input.intent = "browser_typed_data_sign" then
    refuse "invalid_browser_typed_data_sign" <|
      validateBrowserTypedDataSignPayload input.payload account
  else if input.intent = "browser_account_access" then
    refuse "invalid_browser_account_access" <|
      validateBrowserAccountAccessPayload input.payload account input now
  else if input.intent = PROTECTED_CONTENT_RIGHTS_SIGNATURE_INTENT then do
    let (rightsRequest, _) ← refuse "invalid_request" <|
      protectedContentRightsRequestFromPayload input.payload
    refuse "invalid_request" <|
      validateProtectedContentRightsRequestAccount rightsRequest account now
  else if input.intent = "bitcoin_bip322_proof" then do
    denyIf (account.chainNamespace ≠ BITCOIN_MAINNET_CHAIN_NAMESPACE ∨ account.proofType ∉
        [MANAGED_BTC_P2WPKH_PROOF_TYPE, BITCOIN_PROOF_BIP322_SIMPLE, BITCOIN_PROOF_SIGNED_MESSAGE])
      "invalid_request" "Bitcoin proof signing requires a supported Bitcoin account"
    refuse "invalid_bitcoin_bip322_proof" <|
      validateBitcoinChallengeForSigning store.bitcoinChallenges input.payload account now
  else pure ()

/-- The record that is stored of a request. -/
def newApprovalRequest (input : SignatureRequestInput) (account : LinkedAccount) (now : Nat) :
    WalletApprovalRequest where
  schema := "elastos.wallet.approval_request/v1"
  requestId := input.requestId
  walletRequestSha256 := input.walletRequestSha256
  authorityBinding := input.authorityBinding
  kind := "signature"
  status := .pending
  principalId := input.principalId
  accountId := account.accountId
  proofBindingId := account.proofBindingId
  chainNamespace := input.chainNamespace
  address := account.address
  proofType := account.proofType
  connectorId := account.connectorId
  intent := input.intent
  sessionId := input.sessionId
  launchId := input.launchId
  requestedByActor := input.requestedByActor
  resource := input.resource
  reason := input.reason
  payload := input.payload
  payloadHash := valueHash input.payload
  createdAt := now
  expiresAt := input.expiresAt
  resolvedAt := none
  rejectionReason := none
  approvedAt := none
  approvalReason := none
  completedAt := none
  signatureReceipt := none
  signedResult := none
  validatedChainOutcome := none

def requestApproval (storageKey : Option (Bytes 32)) (now : Nat) (input : SignatureRequestInput) :
    Operation WalletApprovalRequest := do
  ensureInitialized storageKey
  refuse "invalid_request" (input.validate now)
  updates (pruneStore · now)
  let store ← reads id
  let account ← accountForSignature store input
  ensureManagedAccountCanSign storageKey store account
  denyIf (isManagedProofType account.proofType ∧
      managedSigningIntentIsSupported input.intent = false)
    "unsupported_managed_signing_intent" UNSUPPORTED_MANAGED_INTENT
  denyIf (account.chainNamespace = BITCOIN_MAINNET_CHAIN_NAMESPACE ∧
      input.intent ≠ "bitcoin_bip322_proof")
    "invalid_request" "Bitcoin accounts only support bitcoin_bip322_proof signing"
  validateRequestedPayload store input account now
  denyIf (MAX_ACTIVE_APPROVAL_REQUESTS_PER_PRINCIPAL ≤ store.approvalRequests.countP fun request =>
      request.principalId == input.principalId && approvalAuthorityIsActive request now)
    "approval_limit_reached" "too many active wallet approval requests for this principal"
  let request := newApprovalRequest input account now
  updates fun store => { store with approvalRequests := store.approvalRequests ++ [request] }
  pure request

/-- What a rights request asks `request_approval` for. -/
def rightsSignatureInput (request : WalletProviderRequestV2) (account : LinkedAccount)
    (accountId canonicalRightsRequestHex reason : String) (expiresAt : Nat) :
    SignatureRequestInput where
  requestId := request.requestId
  walletRequestSha256 := request.requestSha256
  authorityBinding := walletAuthorityBinding request.authority
  principalId := request.authority.principalId
  sessionId := request.authority.sessionId
  launchId := request.authority.launchId
  proofBindingId := request.authority.proofBindingId
  accountId := accountId
  chainNamespace := account.chainNamespace
  intent := PROTECTED_CONTENT_RIGHTS_SIGNATURE_INTENT
  requestedByActor := request.authority.actor
  resource := PROTECTED_CONTENT_RIGHTS_SIGNATURE_RESOURCE
  reason := reason
  payload := protectedContentRightsApprovalPayload canonicalRightsRequestHex
  expiresAt := expiresAt

def requestProtectedContentRightsSignature (storageKey : Option (Bytes 32)) (clock : Nat → Nat)
    (request : WalletProviderRequestV2) (accountId canonicalRightsRequestHex reason : String) :
    Operation WalletApprovalRequest := do
  ensureInitialized storageKey
  let now := clock 0
  let (rightsRequest, _) ← refuse "invalid_request" <|
    protectedContentRightsRequestFromHex canonicalRightsRequestHex
  let store ← reads id
  let account ← okOr (activeAccount store.accounts request.authority.principalId accountId)
    (⟨"not_found", "active linked account not found"⟩ : Refusal)
  refuse "invalid_request" <|
    validateProtectedContentRightsRequestAccount rightsRequest account now
  let expiresAt :=
    min rightsRequest.expiresAt.toNat (saturatingAdd now MAX_APPROVAL_REQUEST_TTL_SECS)
  requestApproval storageKey (clock 1) <|
    rightsSignatureInput request account accountId canonicalRightsRequestHex reason expiresAt

/-! ## 4. Settling an approval -/

def isRequest (principalId requestId : String) (request : WalletApprovalRequest) : Bool :=
  request.principalId == principalId && request.requestId == requestId

/-- The approval that was found, changed in place. -/
def setApproval (request : WalletApprovalRequest) (store : WalletStore) : WalletStore :=
  { store with
    approvalRequests := modifyFirst (isRequest request.principalId request.requestId)
      (fun _ => request) store.approvalRequests }

def findApproval (store : WalletStore) (principalId requestId : String) :
    Except Refusal WalletApprovalRequest :=
  okOr (store.approvalRequests.find? (isRequest principalId requestId))
    ⟨"not_found", "wallet approval request not found"⟩

/-- `approval_requests`, which changes nothing. -/
def approvalRequests (storageKey : Option (Bytes 32)) (now : Nat) (store : WalletStore)
    (principalId : String) (includeResolved : Bool) :
    Except Refusal (List WalletApprovalRequest) := do
  ensureInitialized storageKey
  refuse "invalid_request" (validateOpaqueId principalId "principal_id")
  pure <| (pruneStore store now).approvalRequests.filter fun request =>
    request.principalId == principalId && (includeResolved || request.status == .pending)

def validateResolution (principalId sessionId actor requestId reason : String) :
    Except String Unit := do
  validateOpaqueId principalId "principal_id"
  validateOpaqueId sessionId "session_id"
  validateOpaqueId actor "actor"
  validateOpaqueId requestId "request_id"
  validateReason reason

def ANOTHER_SESSION : String := "wallet approval request belongs to a different Runtime session"
def ANOTHER_CONNECTOR : String := "wallet approval request belongs to a different connector"
def NOT_PENDING : String := "wallet approval request is not pending"

/-- An approval that is refused. -/
def WalletApprovalRequest.reject (request : WalletApprovalRequest) (now : Nat) (reason : String) :
    WalletApprovalRequest :=
  { request with
    status := .rejected
    resolvedAt := some now
    rejectionReason := some (trim reason) }

def rejectApproval (storageKey : Option (Bytes 32)) (now : Nat)
    (principalId sessionId actor requestId reason : String) : Operation WalletApprovalRequest := do
  ensureInitialized storageKey
  refuse "invalid_request" (validateResolution principalId sessionId actor requestId reason)
  updates (pruneStore · now)
  let store ← reads id
  let request ← findApproval store principalId requestId
  denyIf (request.sessionId ≠ sessionId) "invalid_request" ANOTHER_SESSION
  denyIf (startsWith actor "wallet-" ∧ request.connectorId ≠ some actor) "invalid_request"
    ANOTHER_CONNECTOR
  denyIf (request.status ≠ .pending) "invalid_request" NOT_PENDING
  let rejected := request.reject now reason
  updates (setApproval rejected)
  pure rejected

/-- An approval that is given. -/
def WalletApprovalRequest.approve (request : WalletApprovalRequest) (now : Nat) (reason : String) :
    WalletApprovalRequest :=
  { request with
    status := .approved
    approvedAt := some now
    approvalReason := some (trim reason) }

def approveConnectorHandoff (storageKey : Option (Bytes 32)) (now : Nat)
    (principalId sessionId actor requestId reason : String) :
    Operation (WalletApprovalRequest × Json) := do
  ensureInitialized storageKey
  refuse "invalid_request" (validateResolution principalId sessionId actor requestId reason)
  updates (pruneStore · now)
  let store ← reads id
  let request ← findApproval store principalId requestId
  denyIf (request.sessionId ≠ sessionId) "invalid_request" ANOTHER_SESSION
  denyIf (request.connectorId ≠ some actor ∨ isManagedProofType request.proofType)
    "invalid_request" "wallet connector handoff authority does not match the approval"
  denyIf (request.status ≠ .pending) "invalid_request" NOT_PENDING
  let approved := request.approve now reason
  updates (setApproval approved)
  let handoff ← refuse "invalid_request" (externalWalletHandoff approved)
  pure (approved, handoff)

/-- An approval with the evidence that it is completed. -/
def WalletApprovalRequest.complete (request : WalletApprovalRequest) (now : Nat)
    (receipt : WalletSignatureReceipt) (signedResult : Option Json) : WalletApprovalRequest :=
  { request with
    status := .completed
    resolvedAt := some now
    completedAt := some now
    signatureReceipt := some receipt
    signedResult := signedResult }

def receiptOf (request : WalletApprovalRequest) (signer payloadHash signatureHash : String)
    (now : Nat) : WalletSignatureReceipt where
  schema := "elastos.wallet.signature_receipt/v1"
  requestId := request.requestId
  signer := signer
  payloadHash := payloadHash
  signatureHash := signatureHash
  completedAt := now

/-- The status an approval is asked to be in, once it has been marked if its time is up. -/
def requireStatus (request : WalletApprovalRequest) (status : ApprovalStatus) (message : String) :
    Except Refusal Unit := do
  denyIf (request.status = .expired) "invalid_request" "wallet approval request expired"
  denyIf (request.status ≠ status) "invalid_request" message

/-- The checks of `sign_managed_approval` on the approval and its account, before its key is
looked up. -/
def validateManagedSigning (store : WalletStore) (request : WalletApprovalRequest)
    (principalId : String) (now : Nat) : Except Refusal LinkedAccount := do
  denyIf (valueHash request.payload ≠ request.payloadHash) "signing_error"
    "wallet approval payload no longer matches the reviewed payload hash"
  denyIf (managedSigningIntentIsSupported request.intent = false)
    "unsupported_managed_signing_intent" UNSUPPORTED_MANAGED_INTENT
  let account ← okOr (activeAccount store.accounts principalId request.accountId)
    ⟨"not_found", "active linked account not found"⟩
  denyIf (isManagedProofType account.proofType = false) "external_wallet_required"
    "approved request requires an external wallet signature handoff"
  denyIf (request.proofBindingId ≠ account.proofBindingId ∨
      request.chainNamespace ≠ account.chainNamespace ∨ request.address ≠ account.address ∨
      request.proofType ≠ account.proofType ∨ request.connectorId ≠ account.connectorId)
    "signing_error" "wallet approval authority no longer matches its managed account"
  if request.intent = "browser_personal_sign" then
    refuse "invalid_browser_personal_sign" <|
      validateBrowserPersonalSignPayload request.payload account
  else if request.intent = "browser_typed_data_sign" then
    refuse "invalid_browser_typed_data_sign" <|
      validateBrowserTypedDataSignPayload request.payload account
  else if request.intent = "transaction_intent" then
    refuse "invalid_transaction_intent" <|
      validateEip155TransactionIntentPayload request.payload account
  else if request.intent = "bitcoin_bip322_proof" then
    refuse "invalid_bitcoin_bip322_proof" <|
      validateBitcoinChallengeForSigning store.bitcoinChallenges request.payload account now
  pure account

/-- `sign_managed_approval`, of the provider: the approval completed, and the signature. -/
def signManaged (storageKey : Option (Bytes 32)) (now : Nat) (principalId requestId : String) :
    Operation (WalletApprovalRequest × WalletSignatureReceipt × ManagedSignatureOutput) := do
  ensureInitialized storageKey
  refuse "invalid_request" (validateOpaqueId principalId "principal_id")
  refuse "invalid_request" (validateOpaqueId requestId "request_id")
  updates (pruneStore · now)
  let store ← reads id
  let found ← findApproval store principalId requestId
  let request := expireApprovalIfElapsed found now
  updates (setApproval request)
  requireStatus request .approved "wallet approval request must be approved before managed signing"
  let account ← validateManagedSigning store request principalId now
  let signingKey ← refuse "managed_key_unavailable" <|
    managedSigningKeyForAccount storageKey store.managedWallets account
  let signed ← refuse "signing_error" (signManagedApproval signingKey request)
  let receipt := receiptOf request request.address request.payloadHash
    (bytesHash (utf8Bytes signed.authority)) now
  let completed := request.complete now receipt (managedSignedResult request signed)
  updates (setApproval completed)
  pure (completed, receipt, signed)

def approveAndSignManaged (storageKey : Option (Bytes 32)) (clock : Nat → Nat)
    (principalId sessionId requestId reason : String) :
    Operation (WalletApprovalRequest × WalletSignatureReceipt × ManagedSignatureOutput) := do
  ensureInitialized storageKey
  refuse "invalid_request" (validateOpaqueId principalId "principal_id")
  refuse "invalid_request" (validateOpaqueId sessionId "session_id")
  refuse "invalid_request" (validateOpaqueId requestId "request_id")
  refuse "invalid_request" (validateReason reason)
  let now := clock 0
  updates (pruneStore · now)
  let store ← reads id
  let found ← findApproval store principalId requestId
  let request := expireApprovalIfElapsed found now
  updates (setApproval request)
  requireStatus request .pending NOT_PENDING
  denyIf (request.sessionId ≠ sessionId) "invalid_request"
    "managed Wallet approval belongs to a different Runtime session"
  denyIf (isManagedProofType request.proofType = false ∨ request.connectorId.isSome)
    "external_wallet_required" "connector approvals require a typed connector handoff"
  updates (setApproval (request.approve now reason))
  signManaged storageKey (clock 1) principalId requestId

/-! ## 5. Completing what was handed off -/

structure ConnectorHandoffCompletion where
  principalId : String
  sessionId : String
  requestId : String
  connectorId : String
  payloadHash : String
  signature : Option String
  signatureType : Option String
  publicKey : Option String
  signer : String
  transactionHash : Option String

def ConnectorHandoffCompletion.validate (v : ConnectorHandoffCompletion) : Except String Unit := do
  validateOpaqueId v.principalId "principal_id"
  validateOpaqueId v.sessionId "session_id"
  validateOpaqueId v.requestId "request_id"
  validateOpaqueId v.connectorId "connector_id"
  validateHash v.payloadHash "payload_hash"
  validateOpaqueId v.signer "signer"

def SIGNER_MISMATCH : String := "wallet signature signer mismatch"

/-- The checks of the approval that a completion names. -/
def validateCompletionTarget (request : WalletApprovalRequest) (v : ConnectorHandoffCompletion) :
    Except Refusal Unit := do
  requireStatus request .approved "wallet approval request must be approved before completion"
  denyIf (request.sessionId ≠ v.sessionId) "invalid_request" ANOTHER_SESSION
  denyIf (request.connectorId ≠ some v.connectorId) "invalid_request" ANOTHER_CONNECTOR
  denyIf (request.payloadHash ≠ v.payloadHash) "invalid_request"
    "wallet approval payload hash mismatch"
  denyIf (eqIgnoreAsciiCase request.address v.signer = false ∧ request.accountId ≠ v.signer)
    "invalid_request" SIGNER_MISMATCH

/-- A signature, under the text that asks for one, with its checks. -/
def requireSignature (v : ConnectorHandoffCompletion) (missing : String) :
    Except Refusal String := do
  let signature ← okOr v.signature ⟨"invalid_request", missing⟩
  refuse "invalid_request" (validateSignature signature)
  pure signature

def SIGNATURE_REQUIRED : String := "external signature completion requires signature"

def completeTransaction (request : WalletApprovalRequest) (v : ConnectorHandoffCompletion) :
    Except Refusal (String × Option Json) := do
  denyIf v.signature.isSome "invalid_request"
    "external transaction completion must not include signature"
  let transactionHash ← okOr v.transactionHash
    ⟨"invalid_request", "external transaction completion requires transaction_hash"⟩
  refuse "invalid_request" (validateHash transactionHash "transaction_hash")
  pure (bytesHash (utf8Bytes transactionHash),
    some (externalTransactionResult request transactionHash))

def completeBitcoinProof (store : WalletStore) (request : WalletApprovalRequest)
    (v : ConnectorHandoffCompletion) (now : Nat) : Except Refusal (String × Option Json) := do
  let signature ← requireSignature v SIGNATURE_REQUIRED
  refuse "invalid_bitcoin_bip322_proof" <| validateBitcoinChallengeForSigning
    store.bitcoinChallenges request.payload request.account now
  let message ← refuse "invalid_bitcoin_bip322_proof" (externalSignatureMessage request)
  let signatureType :=
    v.signatureType.getD (bitcoinSignatureTypeForProofType request.proofType)
  let _ ← refuse "invalid_bitcoin_proof" <| verifyBitcoinProofForType request.proofType
    signatureType "bitcoin" request.address message signature v.publicKey
  pure (bytesHash (utf8Bytes signature), none)

def completeProtectedContentRights (store : WalletStore) (request : WalletApprovalRequest)
    (v : ConnectorHandoffCompletion) (now : Nat) : Except Refusal (String × Option Json) := do
  let signature ← requireSignature v
    "external protected-content rights completion requires signature"
  denyIf (v.signatureType ≠ some "personal_sign") "invalid_request"
    "protected-content rights completion requires personal_sign"
  let account ← okOr (activeAccount store.accounts request.principalId request.accountId)
    ⟨"not_found", "active linked account not found"⟩
  let (rightsRequest, canonicalBytes) ← refuse "invalid_request" <|
    protectedContentRightsRequestFromPayload request.payload
  refuse "invalid_request" <|
    validateProtectedContentRightsRequestAccount rightsRequest account now
  let hash := ethereumSignedMessageHash canonicalBytes
  let recovered ← refuse "invalid_signature" (recoverEvmAddressFromHash hash signature)
  denyIf (normalizeEvmAddress recovered ≠ normalizeEvmAddress request.address)
    "invalid_signature" SIGNER_MISMATCH
  let canonicalSignature ← refuse "invalid_signature" (canonicalizeEvmSignature signature)
  let signedRequest ← refuse "invalid_signature" <|
    (WalletSignedRightsRequestV1.new rightsRequest canonicalSignature).mapError
      fun _ => "signed rights request"
  let result ← refuse "invalid_signature" <|
    protectedContentRightsResult request.accountId recovered signedRequest
  pure (bytesHash (utf8Bytes signature), some result.toValue)

/-- Whose signature it is, over the message the intent has signed. -/
def recoverSigner (request : WalletApprovalRequest) (signature : String) :
    Except Refusal String := do
  if request.intent = "browser_typed_data_sign" then
    refuse "invalid_signature" do
      let hash ← eip712PayloadHash request.payload
      recoverEvmAddressFromHash hash signature
  else
    let message ← refuse "invalid_request" (externalSignatureMessage request)
    if request.intent = "browser_personal_sign" then
      let bytes ← refuse "invalid_request" (browserPersonalSignMessageBytes message)
      refuse "invalid_signature" <|
        recoverEvmAddressFromHash (ethereumSignedMessageHash bytes) signature
    else
      let (recovered, _) ← refuse "invalid_signature" (recoverEvmAddress message signature)
      pure recovered

def completeMessage (request : WalletApprovalRequest) (v : ConnectorHandoffCompletion) :
    Except Refusal (String × Option Json) := do
  let signature ← requireSignature v SIGNATURE_REQUIRED
  let recovered ← recoverSigner request signature
  denyIf (normalizeEvmAddress recovered ≠ normalizeEvmAddress request.address)
    "invalid_signature" SIGNER_MISMATCH
  pure (bytesHash (utf8Bytes signature),
    if request.intent = "browser_typed_data_sign" then browserTypedDataSignResult request signature
    else browserPersonalSignResult request signature)

/-- The digest that the receipt quotes, and what is stored as the result. -/
def completionEvidence (store : WalletStore) (request : WalletApprovalRequest)
    (v : ConnectorHandoffCompletion) (now : Nat) : Except Refusal (String × Option Json) :=
  if request.intent = "transaction_intent" then completeTransaction request v
  else if request.intent = "bitcoin_bip322_proof" then completeBitcoinProof store request v now
  else if request.intent = PROTECTED_CONTENT_RIGHTS_SIGNATURE_INTENT then
    completeProtectedContentRights store request v now
  else completeMessage request v

def completeConnectorHandoff (storageKey : Option (Bytes 32)) (now : Nat)
    (v : ConnectorHandoffCompletion) :
    Operation (WalletApprovalRequest × WalletSignatureReceipt) := do
  ensureInitialized storageKey
  refuse "invalid_request" v.validate
  updates (pruneStore · now)
  let store ← reads id
  let found ← findApproval store v.principalId v.requestId
  let request := expireApprovalIfElapsed found now
  updates (setApproval request)
  validateCompletionTarget request v
  let (signatureHash, signedResult) ← completionEvidence store request v now
  let receipt := receiptOf request v.signer v.payloadHash signatureHash now
  let completed := request.complete now receipt signedResult
  updates (setApproval completed)
  pure (completed, receipt)

/-! ## 6. The outcome of what was completed -/

def OUTCOME_SUBSTITUTION : String := "validated Chain outcome substitution was rejected"

def WalletApprovalRequest.attach (request : WalletApprovalRequest)
    (outcome : ValidatedChainOutcomeV1) : WalletApprovalRequest :=
  { request with validatedChainOutcome := some outcome }

def attachValidatedChainOutcome (storageKey : Option (Bytes 32)) (authority : WalletAuthorityV2)
    (outcome : ValidatedChainOutcomeV1) : Operation WalletApprovalRequest := do
  ensureInitialized storageKey
  let store ← reads id
  let request ← okOr
    (store.approvalRequests.find? fun request => request.requestId == outcome.approvalRequestId)
    (⟨"not_found", "wallet approval request not found"⟩ : Refusal)
  refuse "chain_outcome_conflict" (validateChainOutcomeTarget request authority outcome)
  match request.validatedChainOutcome with
  | some stored => do
    denyIf (stored ≠ outcome) "chain_outcome_conflict" OUTCOME_SUBSTITUTION
    pure request
  | none => do
    let attached := request.attach outcome
    updates fun store =>
      { store with
        approvalRequests := modifyFirst (fun request =>
          request.requestId == outcome.approvalRequestId) (fun _ => attached)
          store.approvalRequests }
    pure attached

end

end ElastosRuntime.Wallet
