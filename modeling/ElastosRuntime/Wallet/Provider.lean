/-
# The wallet provider

`main.rs`: how a decoded request is handled.  An effectful request is answered from what is stored
if it is a copy; otherwise its operation runs on the store, and when that fails the store is put
back as it was.  When it succeeds the life cycle of the request is recorded with it and both are
saved; when that fails the store is read back from the file.

What a save and a reading of the file come to is part of what a request finds (`Fate`).  The file is
replaced by a rename, so it holds the store before or the store after.
-/
import ElastosRuntime.Wallet.Approvals
import ElastosRuntime.Wallet.Challenges

namespace ElastosRuntime.Wallet

open Contracts Text WalletCurve WalletSigner Records Streams Streams.Effect

def MAX_EFFECTFUL_LIFECYCLE_HISTORY : Nat := 512

/-! ## 1. Replies -/

/-- The data of a response that is `Ok`. -/
inductive Reply where
  | accounts (accounts : List AccountSummary) (defaultAccounts : List DefaultWalletAccount)
  | account (account : LinkedAccount)
  | managedAccount (account : LinkedAccount) (created : Bool)
  | importedAccount (account : LinkedAccount)
  | importedAccounts (accounts : List LinkedAccount)
  | defaultAccount (default : DefaultWalletAccount) (account : LinkedAccount)
  | recoveryKey (recoveryKey : Json)
  | recoverySet (recoverySet : ManagedRecoverySetV1)
  | challenge (challenge : AuthChallengeV1) (message : String)
  | bitcoinChallenge (challenge : BitcoinChallengeV1) (message proofType : String)
  | proof (proof : WalletProof)
  | requested (request : WalletApprovalRequest) (requiresApproval : Bool)
  | requestedRights (request : WalletApprovalRequest) (requiresApproval : Bool)
      (signedResult : Option Json) (receipt : Option WalletSignatureReceipt)
  | approvals (requests : List WalletApprovalRequest)
  | approval (request : WalletApprovalRequest)
  | handoff (request : WalletApprovalRequest) (handoff : Json)
  | signed (request : WalletApprovalRequest) (receipt : WalletSignatureReceipt)
      (signed : ManagedSignatureOutput)
  | completed (request : WalletApprovalRequest) (receipt : WalletSignatureReceipt)

abbrev Response := Except Refusal Reply

section

variable [Curves] [Crypto] [WalletSigner] [BitcoinCrate] [Custody.Aes256Gcm] [SerdeJson]
  [DerivedSerialize] [ElastosAuth]

/-! ## 2. Dispatch -/

/-- What `RequestApproval` asks `request_approval` for. -/
def approvalInput (request : WalletProviderRequestV2)
    (accountId chainNamespace intent resource reason : String) (payload : Json)
    (expiresAt : Nat) : SignatureRequestInput where
  requestId := request.requestId
  walletRequestSha256 := request.requestSha256
  authorityBinding := walletAuthorityBinding request.authority
  principalId := request.authority.principalId
  sessionId := request.authority.sessionId
  launchId := request.authority.launchId
  proofBindingId := request.authority.proofBindingId
  accountId := accountId
  chainNamespace := chainNamespace
  intent := intent
  requestedByActor := request.authority.actor
  resource := resource
  reason := reason
  payload := payload
  expiresAt := expiresAt

/-- The completion that `CompleteConnectorHandoff` carries, by the actor of the request. -/
def completionOf (authority : WalletAuthorityV2) (requestId payloadHash : String)
    (signature signatureType publicKey : Option String) (signer : String)
    (transactionHash : Option String) : ConnectorHandoffCompletion where
  principalId := authority.principalId
  sessionId := authority.sessionId
  requestId := requestId
  connectorId := authority.actor
  payloadHash := payloadHash
  signature := signature
  signatureType := signatureType
  publicKey := publicKey
  signer := signer
  transactionHash := transactionHash

def dispatchWalletOperation (storageKey : Option (Bytes 32)) (at_ : Circumstances)
    (request : WalletProviderRequestV2) : Operation Reply := do
  let authority := request.authority
  let principalId := authority.principalId
  let sessionId := authority.sessionId
  let actor := authority.actor
  let now := at_.clock 0
  match request.operation with
  | .listAccounts includeRevoked => do
    let store ← reads id
    let (summaries, defaults) ← accounts storageKey store principalId includeRevoked
    pure (.accounts summaries defaults)
  | .createManagedAccount chainNamespace label createNew => do
    let (account, created) ← createManagedAccount storageKey at_
      ⟨principalId, chainNamespace, label, createNew⟩
    pure (.managedAccount account created)
  | .linkVerifiedAccount proofBindingId chainNamespace address proofType label => do
    let account ← linkAccount storageKey now
      ⟨principalId, proofBindingId, chainNamespace, address, proofType, some actor, label⟩
    pure (.account account)
  | .revokeAccount accountId => do
    let account ← revokeAccount storageKey now principalId accountId
    pure (.account account)
  | .renameAccount accountId label => do
    let account ← renameAccount storageKey principalId accountId label
    pure (.account account)
  | .setDefaultAccount chainNamespace intent accountId => do
    let (default, account) ← setDefaultAccount storageKey now
      ⟨principalId, chainNamespace, intent, accountId⟩
    pure (.defaultAccount default account)
  | .defaultAccount chainNamespace intent => do
    let store ← reads id
    let (default, account) ← defaultAccount storageKey store principalId chainNamespace intent
    pure (.defaultAccount default account)
  | .challenge domain uri address chainId resources => do
    let issued ← challenge storageKey at_ ⟨domain, uri, address, chainId, resources⟩
    pure (.challenge issued issued.siweMessage)
  | .bitcoinChallenge domain uri address network resources => do
    let (issued, proofType) ← bitcoinChallenge storageKey at_
      ⟨domain, uri, address, network, resources⟩
    pure (.bitcoinChallenge issued issued.message proofType)
  | .verifyProof message signature => do
    let proof ← verifyProof storageKey now message signature
    pure (.proof proof)
  | .verifyContractProof message signature evidence => do
    let proof ← verifyContractProof storageKey now message signature evidence
    pure (.proof proof)
  | .verifyBip322Proof message signature signatureType publicKey => do
    let proof ← verifyBitcoinProof storageKey now message signature signatureType publicKey
    pure (.proof proof)
  | .requestProtectedContentRightsSignature accountId canonicalRightsRequestHex reason => do
    let stored ← requestProtectedContentRightsSignature storageKey at_.clock request accountId
      canonicalRightsRequestHex reason
    pure (.requested stored true)
  | .requestApproval accountId chainNamespace intent resource reason payload expiresAt => do
    let stored ← requestApproval storageKey now <|
      approvalInput request accountId chainNamespace intent resource reason payload expiresAt
    pure (.requested stored true)
  | .attachValidatedChainOutcome outcome => do
    let stored ← attachValidatedChainOutcome storageKey authority outcome
    pure (.approval stored)
  | .listApprovals includeResolved => do
    let store ← reads id
    let listed ← approvalRequests storageKey now store principalId includeResolved
    pure (.approvals listed)
  | .rejectApproval requestId reason => do
    let rejected ← rejectApproval storageKey now principalId sessionId actor requestId reason
    pure (.approval rejected)
  | .approveAndSignManaged requestId reason => do
    let (completed, receipt, signed) ← approveAndSignManaged storageKey at_.clock principalId
      sessionId requestId reason
    pure (.signed completed receipt signed)
  | .approveConnectorHandoff requestId reason => do
    let (approved, handoff) ← approveConnectorHandoff storageKey now principalId sessionId actor
      requestId reason
    pure (.handoff approved handoff)
  | .completeConnectorHandoff requestId payloadHash signature signatureType publicKey signer
      transactionHash => do
    let (completed, receipt) ← completeConnectorHandoff storageKey now <|
      completionOf authority requestId payloadHash signature signatureType publicKey signer
        transactionHash
    pure (.completed completed receipt)
  | .exportManagedRecoveryKey accountId => do
    let store ← reads id
    let recoveryKey ← exportManagedRecoveryKey storageKey store principalId accountId
    pure (.recoveryKey recoveryKey)
  | .importManagedRecoveryKey recoveryKey label => do
    let account ← importManagedRecoveryKey storageKey (at_.nonces 0) now
      ⟨principalId, recoveryKey, label⟩
    pure (.importedAccount account)
  | .exportManagedRecoverySet => do
    let store ← reads id
    let recoverySet ← exportManagedRecoverySet storageKey store principalId
    pure (.recoverySet recoverySet)
  | .importManagedRecoverySet recoverySet => do
    let imported ← importManagedRecoverySet storageKey at_ principalId recoverySet
    pure (.importedAccounts imported)

/-! ## 3. Copies of a request -/

def approvalById (store : WalletStore) (requestId : String) : Option WalletApprovalRequest :=
  store.approvalRequests.find? fun request => request.requestId == requestId

/-- The approval that a request for one has been given, if the two agree. -/
def sameApprovalIdentity (existing : WalletApprovalRequest) (request : WalletProviderRequestV2) :
    Except Refusal Unit :=
  denyIf (existing.principalId ≠ request.authority.principalId ∨
      existing.walletRequestSha256 ≠ request.requestSha256 ∨
      existing.authorityBinding ≠ walletAuthorityBinding request.authority)
    "approval_identity_conflict"
    "Wallet approval identity was reused with substituted semantics or authority"

def replayApproval (existing : WalletApprovalRequest) (request : WalletProviderRequestV2) :
    Response := do
  sameApprovalIdentity existing request
  pure (.requested existing (existing.status == .pending))

def replayRights (existing : WalletApprovalRequest) (request : WalletProviderRequestV2) :
    Response := do
  sameApprovalIdentity existing request
  if let some stored := existing.signedResult then
    let result ← okOr (ProtectedContentRightsSignatureResultV1.fromValue stored)
      ⟨"signing_error", "stored protected-content rights result is invalid"⟩
    refuse "signing_error" (validateProtectedContentRightsResultForRequest result existing)
  pure (.requestedRights existing (existing.status == .pending) existing.signedResult
    existing.signatureReceipt)

def replayOutcome (existing : WalletApprovalRequest) (authority : WalletAuthorityV2)
    (outcome : ValidatedChainOutcomeV1) : Option Response :=
  match validateChainOutcomeTarget existing authority outcome with
  | .error err => some (.error ⟨"chain_outcome_conflict", err⟩)
  | .ok () => existing.validatedChainOutcome.map fun stored =>
    if stored ≠ outcome then .error ⟨"chain_outcome_conflict", OUTCOME_SUBSTITUTION⟩
    else .ok (.approval existing)

def idempotentTransactionEffectReplay (store : WalletStore) (request : WalletProviderRequestV2) :
    Option Response :=
  match request.operation with
  | .requestApproval .. => do
    let existing ← approvalById store request.requestId
    some (replayApproval existing request)
  | .requestProtectedContentRightsSignature .. => do
    let existing ← approvalById store request.requestId
    some (replayRights existing request)
  | .attachValidatedChainOutcome outcome => do
    let existing ← approvalById store outcome.approvalRequestId
    replayOutcome existing request.authority outcome
  | _ => none

/-! ## 4. The file -/

/-- What a save comes to: it may fail before the rename, or behind it. -/
inductive SaveFate where
  | saved
  | failedBefore (message : String)
  | failedBehind (message : String)

/-- How the file behaves for one request: when it is saved, and when it is read back after that
has failed. -/
structure Fate where
  save : SaveFate
  readable : Bool

/-- `save_store`: what it answers, and the file behind it. -/
def saveStore (fate : SaveFate) (store : WalletStore) (disk : Option WalletStore) :
    Except String Unit × Option WalletStore :=
  match fate with
  | .saved => (.ok (), some store)
  | .failedBefore message => (.error message, disk)
  | .failedBehind message => (.error message, some store)

def recoverStoreAfterSaveFailure (readable : Bool) (disk : Option WalletStore)
    (previousStore : WalletStore) : WalletStore :=
  (if readable then disk else none).getD previousStore

/-! ## 5. Handling a request -/

structure WalletProvider where
  storageKey : Option (Bytes 32)
  store : WalletStore
  disk : Option WalletStore

/-- Where an answer comes from. -/
inductive Answer where
  | invalid (message : String)
  | read (response : Response)
  | replayed (response : Response)
  | refused (refusal : Refusal)
  | failed (refusal : Refusal)
  | executed (reply : Reply)
  | unsaved (message : String)

/-- `WalletResultV2` -/
def Answer.response : Answer → Response
  | .invalid message => .error ⟨"invalid_wallet_contract", message⟩
  | .read response | .replayed response => response
  | .refused refusal | .failed refusal => .error refusal
  | .executed reply => .ok reply
  | .unsaved message => .error ⟨"storage_error", message⟩

def consumedLifecycle (request : WalletProviderRequestV2) (now : Nat) :
    ConsumedWalletLifecycle where
  lifecycleId := request.lifecycleId
  requestSha256 := request.requestSha256
  requestExpiresAt := request.expiresAt.toNat
  consumedAt := now

/-- The store that is saved when an operation has succeeded. -/
def recordLifecycle (request : WalletProviderRequestV2) (now : Nat) (store : WalletStore) :
    WalletStore :=
  pruneStore
    { store with
      consumedLifecycles := store.consumedLifecycles ++ [consumedLifecycle request now] } now

/-- The answer of a request whose operation is not carried out: a copy, one whose life cycle is
used up, or one there is no room for. -/
def answerWithoutEffect (store : WalletStore) (request : WalletProviderRequestV2) :
    Option Answer :=
  match idempotentTransactionEffectReplay store request with
  | some response => some (.replayed response)
  | none =>
    if store.consumedLifecycles.any fun record => record.lifecycleId == request.lifecycleId then
      some <| .refused ⟨"lifecycle_replay", "Wallet effectful lifecycle was already consumed"⟩
    else if MAX_EFFECTFUL_LIFECYCLE_HISTORY ≤ store.consumedLifecycles.length then
      some <| .refused ⟨"lifecycle_capacity", "Wallet effectful lifecycle capacity is full"⟩
    else none

def executeEffectfulWalletRequest (provider : WalletProvider) (at_ : Circumstances) (fate : Fate)
    (request : WalletProviderRequestV2) (now : Nat) : Answer × WalletProvider :=
  let store := pruneExpiredLifecycles provider.store now
  match answerWithoutEffect store request with
  | some answer => (answer, { provider with store })
  | none =>
    match (dispatchWalletOperation provider.storageKey at_ request).outcome store with
    -- whatever the operation has changed is put back
    | (.error refusal, _) => (.failed refusal, { provider with store })
    | (.ok reply, changed) =>
      let recorded := recordLifecycle request now changed
      match saveStore fate.save recorded provider.disk with
      | (.ok (), disk) => (.executed reply, { provider with store := recorded, disk })
      | (.error message, disk) =>
        (.unsaved message,
          { provider with
            store := recoverStoreAfterSaveFailure fate.readable disk store
            disk })

/-- What a request finds: the reading of the clock it is decoded at, and what its operation and the
file find. -/
structure Occasion where
  now : Nat
  circumstances : Circumstances
  fate : Fate

/-- `handle_wallet_contract`, of a request that has been parsed. -/
def handleWalletContract (provider : WalletProvider) (occasion : Occasion)
    (request : WalletProviderRequestV2) : Answer × WalletProvider :=
  match request.validateAt occasion.now with
  | .error err => (.invalid err, provider)
  | .ok () =>
    if request.operation.isEffectful then
      executeEffectfulWalletRequest provider occasion.circumstances occasion.fate request
        occasion.now
    else
      let (response, store) :=
        (dispatchWalletOperation provider.storageKey occasion.circumstances request).outcome
          provider.store
      (.read response, { provider with store })

/-! ## 6. Starting -/

/-- Approvals of the first version carry no authority. -/
def lacksAuthority (request : WalletApprovalRequest) : Bool :=
  request.sessionId == "" || request.launchId == "" || request.walletRequestSha256 == "" ||
    request.authorityBinding == ""

/-- `reject_pre_v2_pending_approvals`: the store, and whether any was rejected. -/
def rejectPreV2PendingApprovals (store : WalletStore) (now : Nat) : WalletStore × Bool :=
  let stale := fun request : WalletApprovalRequest =>
    request.status.isOpen && lacksAuthority request
  ({ store with
      approvalRequests := store.approvalRequests.map fun request =>
        if stale request then
          { request with
            status := .rejected
            resolvedAt := some now
            rejectionReason := some <| "pre-v2 approval preserved as history; a new " ++
              "authority-bound request is required" }
        else request },
    store.approvalRequests.any stale)

/-- A provider that was not started, over a file. -/
def WalletProvider.stopped (disk : Option WalletStore) : WalletProvider :=
  ⟨none, WalletStore.empty, disk⟩

/-- `init`: the provider starts from the file, or does not start. -/
def init (disk : Option WalletStore) (storageKey : Option (Bytes 32)) (fate : Fate) (now : Nat) :
    WalletProvider :=
  match storageKey, fate.readable with
  | some key, true =>
    let (store, rejected) :=
      rejectPreV2PendingApprovals (pruneStore (disk.getD WalletStore.empty) now) now
    if rejected then
      match saveStore fate.save store disk with
      | (.ok (), disk) => ⟨some key, store, disk⟩
      | (.error _, disk) => .stopped disk
    else ⟨some key, store, disk⟩
  | _, _ => .stopped disk

end

end ElastosRuntime.Wallet
