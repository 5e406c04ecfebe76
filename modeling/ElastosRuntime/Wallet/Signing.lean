/-
# What an approval has signed

`crypto.rs` with `crypto/evm/browser.rs` and the browser checks of `crypto/evm/validation.rs`: the
bytes that stand behind each intent, what a managed key makes of them (`signManagedApproval`), what
an external wallet is handed (`externalWalletHandoff`), and what is stored of the result
(`managedSignedResult`).

A rights request is a canonical document of the protected-content contracts that travels as
hexadecimal in the payload; the result is the document the wallet has signed.
-/
import ElastosRuntime.Wallet.Contract
import ElastosRuntime.Wallet.Secrets
import ElastosRuntime.Wallet.Transaction

namespace ElastosRuntime.Wallet

open Contracts Text WalletCurve WalletSigner

/-- The approval's account as the signing functions rebuild it. -/
def WalletApprovalRequest.signingAccount (request : WalletApprovalRequest) (proofType : String) :
    LinkedAccount :=
  { request.account with
    proofType
    connectorId := none
    linkedAt := 0 }

/-! ## 1. Browser payloads -/

/-- `parse_eip712_domain_chain_id` -/
def parseEip712DomainChainId (value : Json) : Except String UInt64 :=
  let invalid := "EIP-712 domain.chainId must be an unsigned u64 integer or an exact " ++
    "decimal/0x-prefixed string"
  match value.asU64, value.asStr with
  | some chainId, _ => .ok chainId
  | none, none => .error invalid
  | none, some raw =>
    match stripPrefix raw "0x" with
    | some hex => do
      failIf (hex = "" ∨ ¬all hex isAsciiLowerHex) invalid
      let chainId ← okOr (hexDigitsValue hex.toList) invalid
      failIf (2 ^ 64 ≤ chainId) invalid
      pure (UInt64.ofNat chainId)
    | none => do
      failIf (raw = "" ∨ ¬all raw isAsciiDigit) invalid
      okOr (parseU64 raw) invalid

def validateEip712DomainChainId (typedData : Json) (requestedChainNamespace : String) :
    Except String Unit := do
  let requestedChainId ← eip155ChainId requestedChainNamespace
  match typedData.get "domain" >>= fun domain => domain.get "chainId" with
  | none => pure ()
  | some domainChainId => do
    let chainId ← parseEip712DomainChainId domainChainId
    failIf (chainId ≠ requestedChainId)
      "EIP-712 domain.chainId does not match requested chain namespace"

/-- The members both browser signatures check alike, under the label of either. -/
def validateBrowserAccount (label requires : String) (payload : Json)
    (account : LinkedAccount) : Except String String := do
  let chainNamespace ← okOr (payload.getStr "chain_namespace")
    s!"Browser {label} payload missing chain_namespace"
  failIf (chainNamespacesCompatible account.chainNamespace chainNamespace = false)
    s!"Browser {label} chain does not match account"
  failIf (startsWith account.chainNamespace "eip155:" = false ∨
      startsWith chainNamespace "eip155:" = false)
    s!"Browser {requires} an EVM account"
  let address ← okOr (payload.getStr "address") s!"Browser {label} payload missing address"
  validateEvmAddress address
  failIf (normalizeEvmAddress address ≠ normalizeEvmAddress account.address)
    s!"Browser {label} address does not match account"
  let accountId ← okOr (payload.getStr "account_id")
    s!"Browser {label} payload missing account_id"
  failIf (accountId ≠ account.accountId) s!"Browser {label} account_id does not match account"
  pure chainNamespace

def validateBrowserPage (label signature : String) (payload : Json) : Except String Unit := do
  let pageUrl ← okOr (payload.getStr "page_url") s!"Browser {label} payload missing page_url"
  failIf (startsWith pageUrl "https://" = false ∧ startsWith pageUrl "http://" = false)
    s!"Browser {label} page_url must be http or https"
  failIf (payload.getBool "requires_wallet_approval" ≠ some true)
    s!"Browser {signature} must require wallet approval"

def validateBrowserPersonalSignPayload (payload : Json) (account : LinkedAccount) :
    Except String Unit := do
  failIf (payload.getStr "schema" ≠ some "elastos.browser.wallet-signature-request/v1")
    "Browser wallet signature payload has unsupported schema"
  failIf (payload.getStr "method" ≠ some "personal_sign")
    "Browser wallet signature method must be personal_sign"
  let _ ← validateBrowserAccount "wallet signature" "personal_sign requires" payload account
  let message ← okOr (payload.getStr "message") "Browser wallet signature payload missing message"
  failIf (message = "" ∨ MAX_APPROVAL_PAYLOAD_BYTES < byteLength message)
    "Browser wallet signature message size is invalid"
  failIf (any message isControl) "Browser wallet signature message contains control characters"
  validateBrowserPage "wallet signature" "wallet signature" payload

def validateBrowserTypedDataSignPayload [SerdeJson] (payload : Json) (account : LinkedAccount) :
    Except String Unit := do
  failIf (payload.getStr "schema" ≠ some "elastos.browser.wallet-signature-request/v1")
    "Browser typed-data payload has unsupported schema"
  let method ← okOr (payload.getStr "method") "Browser typed-data payload missing method"
  failIf (method ∉ ["eth_signTypedData", "eth_signTypedData_v3", "eth_signTypedData_v4"])
    "Browser typed-data method is unsupported"
  let chainNamespace ← validateBrowserAccount "typed-data" "typed-data signatures require"
    payload account
  let canonical ← okOr (payload.getStr "typed_data_canonical")
    "Browser typed-data payload missing canonical typed data"
  failIf (canonical = "" ∨ MAX_APPROVAL_PAYLOAD_BYTES < byteLength canonical)
    "Browser typed-data payload size is invalid"
  let typedData ← (SerdeJson.fromStr canonical).mapError fun _ => "invalid typed data"
  validateEip712TypedDataShape typedData
  validateEip712DomainChainId typedData chainNamespace
  validateBrowserPage "typed-data" "typed-data signature" payload

def browserPersonalSignMessageBytes (message : String) : Except String (List UInt8) :=
  match stripPrefix message "0x" <|> stripPrefix message "0X" with
  | none => .ok (utf8Bytes message)
  | some rawHex =>
    if byteLength rawHex % 2 ≠ 0 ∨ ¬all rawHex isAsciiHexdigit then .ok (utf8Bytes message)
    else okOr (hexDecode rawHex) "invalid Browser personal_sign hex"

def browserPersonalSignResult (request : WalletApprovalRequest) (signature : String) :
    Option Json :=
  if request.intent ≠ "browser_personal_sign" then none
  else some <| .object
    [("chain_namespace", .string request.chainNamespace),
      ("method", .string "personal_sign"),
      ("origin", request.payload.getOrNull "origin"),
      ("page_url", request.payload.getOrNull "page_url"),
      ("payload_hash", .string request.payloadHash),
      ("request_id", .string request.requestId),
      ("schema", .string "elastos.browser.personal-sign-result/v1"),
      ("signature", .string signature),
      ("signer", .string request.address)]

def browserTypedDataSignResult (request : WalletApprovalRequest) (signature : String) :
    Option Json :=
  if request.intent ≠ "browser_typed_data_sign" then none
  else some <| .object
    [("chain_namespace", .string request.chainNamespace),
      ("method", (request.payload.get "method").getD (.string "eth_signTypedData_v4")),
      ("origin", request.payload.getOrNull "origin"),
      ("page_url", request.payload.getOrNull "page_url"),
      ("payload_hash", .string request.payloadHash),
      ("request_id", .string request.requestId),
      ("schema", .string "elastos.browser.typed-data-sign-result/v1"),
      ("signature", .string signature),
      ("signer", .string request.address)]

/-! ## 2. Rights requests -/

def PROTECTED_CONTENT_RIGHTS_APPROVAL_PAYLOAD_SCHEMA : String :=
  "elastos.wallet.protected-content-rights-approval/v1"
def PROTECTED_CONTENT_RIGHTS_SIGNATURE_RESULT_SCHEMA : String :=
  "elastos.wallet.protected-content-rights-signature-result/v1"

/-- What is stored of a signed rights request (`elastos-wallet-contract`). -/
structure ProtectedContentRightsSignatureResultV1 where
  schema : String
  accountId : String
  signer : String
  walletSignedRightsRequestHex : String

namespace ProtectedContentRightsSignatureResultV1

def validate (v : ProtectedContentRightsSignatureResultV1) : Except String Unit := do
  failIf (v.schema ≠ PROTECTED_CONTENT_RIGHTS_SIGNATURE_RESULT_SCHEMA)
    "unsupported protected-content rights signature result schema"
  validateRequired "protected-content rights signature result account_id" v.accountId 256
  validateAddressField "protected-content rights signature result signer" v.signer
  let _ ← decodeBoundedLowerHexField
    "protected-content rights signature result signed request" v.walletSignedRightsRequestHex
    MAX_PROTECTED_CONTENT_RIGHTS_WIRE_BYTES

def new (accountId signer walletSignedRightsRequestHex : String) :
    Except String ProtectedContentRightsSignatureResultV1 := do
  let value : ProtectedContentRightsSignatureResultV1 :=
    ⟨PROTECTED_CONTENT_RIGHTS_SIGNATURE_RESULT_SCHEMA, accountId, signer,
      walletSignedRightsRequestHex⟩
  value.validate
  pure value

/-- `serde_json::to_value` -/
def toValue (v : ProtectedContentRightsSignatureResultV1) : Json :=
  .object
    [("account_id", .string v.accountId),
      ("schema", .string v.schema),
      ("signer", .string v.signer),
      ("wallet_signed_rights_request_hex", .string v.walletSignedRightsRequestHex)]

/-- `serde_json::from_value`, which denies unknown fields. -/
def fromValue (value : Json) : Option ProtectedContentRightsSignatureResultV1 := do
  let members ← value.asObject
  if members.all fun member => member.1 ∈
      ["account_id", "schema", "signer", "wallet_signed_rights_request_hex"] then
    let schema ← value.getStr "schema"
    let accountId ← value.getStr "account_id"
    let signer ← value.getStr "signer"
    let walletSignedRightsRequestHex ← value.getStr "wallet_signed_rights_request_hex"
    some ⟨schema, accountId, signer, walletSignedRightsRequestHex⟩
  else none

end ProtectedContentRightsSignatureResultV1

section

variable [Curves]

def protectedContentRightsApprovalPayload (canonicalRightsRequestHex : String) : Json :=
  .object
    [("canonical_rights_request_hex", .string canonicalRightsRequestHex),
      ("schema", .string PROTECTED_CONTENT_RIGHTS_APPROVAL_PAYLOAD_SCHEMA)]

def protectedContentRightsRequestFromHex (canonicalRightsRequestHex : String) :
    Except String (RightsRequestV1 × List UInt8) := do
  let hex := trim canonicalRightsRequestHex
  failIf (hex = "") "protected-content rights request hex is required"
  let tooLong := "protected-content rights request exceeds the Wallet wire limit of 8192 bytes"
  failIf (MAX_PROTECTED_CONTENT_RIGHTS_WIRE_BYTES * 2 < byteLength hex) tooLong
  failIf (byteLength hex % 2 ≠ 0 ∨ ¬all hex isAsciiLowerHex)
    "protected-content rights request must be lowercase hex without a prefix"
  let canonicalBytes ← okOr (hexDecode hex) "invalid protected-content rights request hex"
  failIf (canonicalBytes = []) "protected-content rights request hex is required"
  failIf (MAX_PROTECTED_CONTENT_RIGHTS_WIRE_BYTES < canonicalBytes.length) tooLong
  let request ← (fromCanonicalBytes canonicalBytes : Except _ RightsRequestV1).mapError fun _ =>
    "invalid protected-content rights request"
  pure (request, canonicalBytes)

def protectedContentRightsRequestFromPayload (payload : Json) :
    Except String (RightsRequestV1 × List UInt8) := do
  let object ← okOr payload.asObject
    "protected-content rights approval payload must be a JSON object"
  failIf (object.length ≠ 2 ∨ (payload.get "schema").isNone ∨
      (payload.get "canonical_rights_request_hex").isNone)
    "protected-content rights approval payload has unsupported fields"
  failIf (payload.getStr "schema" ≠ some PROTECTED_CONTENT_RIGHTS_APPROVAL_PAYLOAD_SCHEMA)
    "protected-content rights approval payload has unsupported schema"
  let hex ← okOr (payload.getStr "canonical_rights_request_hex")
    "protected-content rights approval payload missing canonical_rights_request_hex"
  protectedContentRightsRequestFromHex hex

def walletAddressHex (wallet : WalletAddress) : String := "0x" ++ hexEncode wallet.toList

def validateProtectedContentRightsRequestAccount (rightsRequest : RightsRequestV1)
    (account : LinkedAccount) (now : Nat) : Except String Unit := do
  failIf (startsWith account.chainNamespace "eip155:" = false)
    "protected-content rights signing requires an EVM account"
  failIf (saturatingAdd now RIGHTS_CLOCK_SKEW_SECS.toNat < rightsRequest.issuedAt.toNat)
    "protected-content rights request is not yet valid"
  failIf (rightsRequest.expiresAt.toNat ≤ now) "protected-content rights request expired"
  let boundWallet := walletAddressHex rightsRequest.binding.wallet
  failIf (normalizeEvmAddress boundWallet ≠ normalizeEvmAddress account.address)
    "protected-content rights request Wallet does not match the selected account"

variable [Crypto] [WalletSigner]

def validateProtectedContentRightsResultForRequest
    (result : ProtectedContentRightsSignatureResultV1) (request : WalletApprovalRequest) :
    Except String Unit := do
  result.validate
  failIf (result.accountId ≠ request.accountId)
    "protected-content rights signature result account_id does not match the approval"
  failIf (eqIgnoreAsciiCase result.signer request.address = false)
    "protected-content rights signature result signer does not match the approval"
  let signedBytes ← okOr (hexDecode result.walletSignedRightsRequestHex)
    "invalid stored protected-content rights result hex"
  let signed ← (fromCanonicalBytes signedBytes : Except _ WalletSignedRightsRequestV1).mapError
    fun _ => "invalid stored protected-content signed request"
  let (expectedRequest, expectedBytes) ← protectedContentRightsRequestFromPayload request.payload
  failIf (signed.request ≠ expectedRequest)
    "protected-content rights signed request does not match the approved request"
  failIf (eqIgnoreAsciiCase result.signer (walletAddressHex signed.request.binding.wallet) = false)
    "protected-content rights signature result signer does not match the bound Wallet"
  let bytes ← (canonicalBytes signed.request).mapError fun _ => "rights request"
  failIf (bytes ≠ expectedBytes)
    "protected-content rights signed request bytes do not match the approved request"
  let _ ← (signed.verifyUnclaimed
      ⟨expectedRequest.binding, expectedRequest.action, expectedRequest.recipient,
        expectedRequest.issuedAt⟩).mapError fun _ =>
    "invalid stored protected-content signed request"

/-! ## 3. A managed key -/

variable [SerdeJson] [BitcoinCrate]

inductive ManagedSignatureKind where
  | message
  | transaction
deriving DecidableEq

structure ManagedSignatureOutput where
  kind : ManagedSignatureKind
  authority : String
  payload : Json

def managedSignatureEnvelope (request : WalletApprovalRequest) : Json :=
  .object
    [("account_id", .string request.accountId),
      ("address", .string request.address),
      ("capsule_id", .string request.requestedByActor),
      ("chain_namespace", .string request.chainNamespace),
      ("intent", .string request.intent),
      ("payload", request.payload),
      ("payload_hash", .string request.payloadHash),
      ("principal_id", .string request.principalId),
      ("reason", .string request.reason),
      ("request_id", .string request.requestId),
      ("resource", .string request.resource),
      ("schema", .string "elastos.wallet.managed_signature_payload/v1")]

def browserAccountAccessAttestation (request : WalletApprovalRequest) : Json :=
  .object
    [("account_id", .string request.accountId),
      ("address", .string request.address),
      ("chain_namespace", .string request.chainNamespace),
      ("intent", .string request.intent),
      ("payload", request.payload),
      ("payload_hash", .string request.payloadHash),
      ("principal_id", .string request.principalId),
      ("reason", .string request.reason),
      ("request_id", .string request.requestId),
      ("requested_by_actor", .string request.requestedByActor),
      ("resource", .string request.resource),
      ("schema", .string "elastos.browser.account-access-attestation/v1")]

/-- `sign_bip322_simple_p2wpkh_approval` -/
def signBip322SimpleP2wpkhApproval (signingKey : SigningKey) (request : WalletApprovalRequest) :
    Except String (String × Json) := do
  validateBitcoinBip322ProofPayload request.payload
    (request.signingAccount MANAGED_BTC_P2WPKH_PROOF_TYPE)
  let message ← okOr (request.payload.getStr "message") "Bitcoin BIP-322 payload missing message"
  let (signature, messageHash) ← signBip322SimpleP2wpkh signingKey request.address message
  pure (signature, .object
    [("account_id", .string request.accountId),
      ("address", .string request.address),
      ("capsule_id", .string request.requestedByActor),
      ("chain_namespace", .string request.chainNamespace),
      ("intent", .string request.intent),
      ("message_hash", .string ("0x" ++ hexEncode messageHash.toList)),
      ("principal_id", .string request.principalId),
      ("reason", .string request.reason),
      ("request_id", .string request.requestId),
      ("resource", .string request.resource),
      ("schema", .string "elastos.wallet.bip322_signature_payload/v1"),
      ("signature_type", .string "bip322_simple")])

def signBrowserPersonalSignApproval (signingKey : SigningKey) (request : WalletApprovalRequest) :
    Except String (String × Json) := do
  validateBrowserPersonalSignPayload request.payload
    (request.signingAccount MANAGED_EVM_PROOF_TYPE)
  let message ← okOr (request.payload.getStr "message")
    "Browser wallet signature payload missing message"
  let bytes ← browserPersonalSignMessageBytes message
  let signature ← signEvmMessage signingKey bytes
  pure (signature, (browserPersonalSignResult request signature).getD (.object []))

def signBrowserTypedDataApproval (signingKey : SigningKey) (request : WalletApprovalRequest) :
    Except String (String × Json) := do
  validateBrowserTypedDataSignPayload request.payload
    (request.signingAccount MANAGED_EVM_PROOF_TYPE)
  let hash ← eip712PayloadHash request.payload
  let signature ← signEvmPrehash signingKey hash
  pure (signature, (browserTypedDataSignResult request signature).getD (.object []))

/-- The document a wallet has signed, as what is stored of it. -/
def protectedContentRightsResult (accountId signer : String)
    (signedRequest : WalletSignedRightsRequestV1) :
    Except String ProtectedContentRightsSignatureResultV1 := do
  let bytes ← (canonicalBytes signedRequest).mapError fun _ => "signed rights request"
  ProtectedContentRightsSignatureResultV1.new accountId signer (hexEncode bytes)

def signProtectedContentRights (signingKey : SigningKey) (request : WalletApprovalRequest) :
    Except String (String × Json) := do
  let (rightsRequest, canonicalBytes) ← protectedContentRightsRequestFromPayload request.payload
  let signature ← signEvmMessage signingKey canonicalBytes
  let canonicalSignature ← (canonicalizeEvmSignature signature).mapError
    ("invalid managed rights signature: " ++ ·)
  let signedRequest ← (WalletSignedRightsRequestV1.new rightsRequest canonicalSignature).mapError
    fun _ => "signed rights request"
  let result ← protectedContentRightsResult request.accountId request.address signedRequest
  pure (signature, result.toValue)

/-- A message that is a JSON value. -/
def signJson (signingKey : SigningKey) (payload : Json) : Except String (String × Json) := do
  let signature ← signEvmMessage signingKey (SerdeJson.toVec payload)
  pure (signature, payload)

def ManagedSignatureOutput.ofMessage (signed : String × Json) : ManagedSignatureOutput :=
  ⟨.message, signed.1, signed.2⟩

def signManagedApproval (signingKey : SigningKey) (request : WalletApprovalRequest) :
    Except String ManagedSignatureOutput :=
  if request.intent = PROTECTED_CONTENT_RIGHTS_SIGNATURE_INTENT then
    return .ofMessage (← signProtectedContentRights signingKey request)
  else if request.intent = "bitcoin_bip322_proof" then
    return .ofMessage (← signBip322SimpleP2wpkhApproval signingKey request)
  else if startsWith request.chainNamespace "bip122:" then
    throw "managed Bitcoin accounts only support bitcoin_bip322_proof signing"
  else if request.intent = "browser_account_access" then
    return .ofMessage (← signJson signingKey (browserAccountAccessAttestation request))
  else if request.intent = "browser_personal_sign" then
    return .ofMessage (← signBrowserPersonalSignApproval signingKey request)
  else if request.intent = "browser_typed_data_sign" then
    return .ofMessage (← signBrowserTypedDataApproval signingKey request)
  else if request.intent = "transaction_intent" then do
    let signed ← signEip155LegacyTransaction signingKey request
    pure ⟨.transaction, signed.1, signed.2⟩
  else
    return .ofMessage (← signJson signingKey (managedSignatureEnvelope request))

def managedSignedResult (request : WalletApprovalRequest) (signed : ManagedSignatureOutput) :
    Option Json :=
  if request.intent = "browser_account_access" then
    some <| .object
      [("account_id", .string request.accountId),
        ("address", .string request.address),
        ("chain_namespaces", request.payload.getOrNull "chain_namespaces"),
        ("grant_expires_at", request.payload.getOrNull "grant_expires_at"),
        ("launch_id", request.payload.getOrNull "launch_id"),
        ("origin", request.payload.getOrNull "origin"),
        ("page_url", request.payload.getOrNull "page_url"),
        ("payload_hash", .string request.payloadHash),
        ("permission", .string "eth_accounts"),
        ("principal_id", request.payload.getOrNull "principal_id"),
        ("proof_binding_id", request.payload.getOrNull "proof_binding_id"),
        ("request_id", .string request.requestId),
        ("requested_chain_namespace", request.payload.getOrNull "requested_chain_namespace"),
        ("schema", .string "elastos.browser.account-access-result/v1"),
        ("session_id", request.payload.getOrNull "session_id")]
  else if request.intent = "browser_personal_sign" then
    browserPersonalSignResult request signed.authority
  else if request.intent = "browser_typed_data_sign" then
    browserTypedDataSignResult request signed.authority
  else if request.intent = "transaction_intent" ∧ signed.kind = .transaction then
    some <| .object
      [("chain_namespace", .string request.chainNamespace),
        ("method", .string "eth_sendTransaction"),
        ("origin", request.payload.getOrNull "origin"),
        ("page_url", request.payload.getOrNull "page_url"),
        ("payload_hash", .string request.payloadHash),
        ("request_id", .string request.requestId),
        ("schema", .string "elastos.wallet.signed-transaction-result/v1"),
        ("signed_transaction", .string signed.authority),
        ("signer", .string request.address),
        ("transaction_hash", signed.payload.getOrNull "transaction_hash")]
  else if request.intent = PROTECTED_CONTENT_RIGHTS_SIGNATURE_INTENT then some signed.payload
  else none

end

/-! ## 4. An external wallet -/

def externalSignatureMessage (request : WalletApprovalRequest) : Except String String :=
  if request.intent = "browser_personal_sign" then
    okOr (request.payload.getStr "message") "Browser wallet signature payload missing message"
  else if request.intent = "browser_typed_data_sign" then
    okOr (request.payload.getStr "typed_data_canonical")
      "Browser typed-data payload missing canonical typed data"
  else if request.intent = "bitcoin_bip322_proof" then
    okOr (request.payload.getStr "message") "Bitcoin BIP-322 payload missing message"
  else
    .ok <| "ElastOS Wallet Approval\n\nRequest: " ++ request.requestId ++ "\nIntent: " ++
      request.intent ++ "\nCapsule: " ++ request.requestedByActor ++ "\nResource: " ++
      request.resource ++ "\nReason: " ++ request.reason ++ "\nPayload SHA-256: " ++
      request.payloadHash ++ "\nAccount: " ++ request.address ++ "\nExpires At: " ++
      toString request.expiresAt

/-- The transaction that an external wallet is handed. -/
def handoffTransaction (payload : Json) : Except String Json := do
  let chainId ← payloadU64 payload "chain_id"
  let sender ← payloadStr payload "from"
  let toAddress ← payloadStr payload "to"
  let value ← payloadStr payload "value"
  let data ← payloadStr payload "data"
  let gas ← payloadStr payload "gas_limit"
  let gasPrice ← payloadStr payload "gas_price"
  let nonce ← payloadStr payload "nonce"
  pure <| .object
    [("chainId", .string ("0x" ++ hexNumber chainId)),
      ("data", .string data),
      ("from", .string sender),
      ("gas", .string gas),
      ("gasPrice", .string gasPrice),
      ("nonce", .string nonce),
      ("to", .string toAddress),
      ("value", .string value)]

/-- The chain id inside a transaction that was handed off. -/
def handoffChainId (handoff : Json) : Option Nat := do
  let transaction ← handoff.get "transaction"
  let chainId ← transaction.getStr "chainId"
  parseHexNumber chainId

theorem chainId_of_handoffTransaction {payload transaction : Json}
    (h : handoffTransaction payload = .ok transaction) :
    ∃ chainId, payloadU64 payload "chain_id" = .ok chainId ∧
      transaction.getStr "chainId" = some ("0x" ++ hexNumber chainId) := by
  simp only [handoffTransaction, Codec.bind_eq_ok, pure_eq_ok] at h
  obtain ⟨chainId, hchainId, -, -, -, -, -, -, -, -, -, -, -, -, -, -, rfl⟩ := h
  exact ⟨chainId, hchainId, rfl⟩

section

variable [Curves]

def externalWalletHandoff (request : WalletApprovalRequest) : Except String Json := do
  if request.intent = "transaction_intent" then
    let transaction ← handoffTransaction request.payload
    pure <| .object
      [("intent", .string request.intent),
        ("payload_hash", .string request.payloadHash),
        ("request_id", .string request.requestId),
        ("schema", .string "elastos.wallet.webconnect_handoff/v1"),
        ("signer", .string request.address),
        ("status", .string "awaiting_wallet_transaction"),
        ("transaction", transaction)]
  else
    let (message, signatureType) ←
      if request.intent = PROTECTED_CONTENT_RIGHTS_SIGNATURE_INTENT then do
        let (_, canonicalBytes) ← protectedContentRightsRequestFromPayload request.payload
        pure ("0x" ++ hexEncode canonicalBytes, "personal_sign")
      else do
        let message ← externalSignatureMessage request
        pure (message,
          if request.intent = "bitcoin_bip322_proof" then
            bitcoinSignatureTypeForProofType request.proofType
          else "personal_sign")
    pure <| .object
      [("intent", .string request.intent),
        ("message", .string message),
        ("payload_hash", .string request.payloadHash),
        ("request_id", .string request.requestId),
        ("schema", .string "elastos.wallet.webconnect_handoff/v1"),
        ("signature_type", .string signatureType),
        ("signer", .string request.address),
        ("status", .string "awaiting_wallet_signature")]

/-- **The chain id that is handed off is the payload's.** -/
theorem handoffChainId_of_externalWalletHandoff {request : WalletApprovalRequest} {handoff : Json}
    (hintent : request.intent = "transaction_intent")
    (h : externalWalletHandoff request = .ok handoff) :
    ∃ chainId, payloadU64 request.payload "chain_id" = .ok chainId ∧
      handoffChainId handoff = some chainId.toNat := by
  rw [externalWalletHandoff, if_pos hintent] at h
  simp only [Codec.bind_eq_ok, pure_eq_ok] at h
  obtain ⟨transaction, htransaction, rfl⟩ := h
  obtain ⟨chainId, hpayload, hmember⟩ := chainId_of_handoffTransaction htransaction
  refine ⟨chainId, hpayload, ?_⟩
  change (transaction.getStr "chainId").bind parseHexNumber = _
  rw [hmember, Option.bind_some, parseHexNumber_hexNumber]

end

end ElastosRuntime.Wallet
