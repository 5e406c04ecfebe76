/-
# The wallet store

What the wallet provider keeps (`models.rs`): accounts linked to a principal, the encrypted keys of
those it manages, the challenges it has issued, the approvals it was asked for, default accounts,
and the life cycles that have been used up.

`pruneStore` (`storage.rs`) is run before most operations and after every effect.  It drops what
has expired, marks approvals whose time is up, and keeps of a principal's settled approvals only
the newest ones.
-/
import ElastosRuntime.Lib.Json
import ElastosRuntime.Lib.Text

namespace ElastosRuntime.Wallet

def MAX_RESOLVED_APPROVAL_HISTORY_PER_PRINCIPAL : Nat := 100

/-! ## 1. Records -/

structure LinkedAccount where
  accountId : String
  principalId : String
  proofBindingId : String
  chainNamespace : String
  address : String
  proofType : String
  connectorId : Option String
  label : Option String
  linkedAt : Nat
  revokedAt : Option Nat
deriving DecidableEq

structure ManagedWalletSecret where
  schema : String
  accountId : String
  principalId : String
  chainNamespace : String
  address : String
  keyAlgorithm : String
  cipher : String
  nonce : String
  ciphertext : String
  createdAt : Nat
  revokedAt : Option Nat
deriving DecidableEq

structure DefaultWalletAccount where
  schema : String
  principalId : String
  chainNamespace : String
  intent : String
  accountId : String
  setAt : Nat
deriving DecidableEq

structure AuthChallengeV1 where
  schema : String
  challengeId : String
  domain : String
  uri : String
  statement : String
  address : String
  chainId : UInt64
  nonce : String
  issuedAt : Nat
  expiresAt : Nat
  resources : List String
deriving DecidableEq

structure StoredWalletChallenge where
  challenge : AuthChallengeV1
  consumedAt : Option Nat
deriving DecidableEq

structure BitcoinChallengeV1 where
  schema : String
  challengeId : String
  domain : String
  uri : String
  network : String
  address : String
  nonce : String
  issuedAt : Nat
  expiresAt : Nat
  resources : List String
deriving DecidableEq

namespace BitcoinChallengeV1

def message (v : BitcoinChallengeV1) : String :=
  v.domain ++ " wants you to prove Bitcoin account ownership:\n" ++ v.address ++ "\n\nURI: " ++
    v.uri ++ "\nVersion: 1\nNetwork: " ++ v.network ++ "\nNonce: " ++ v.nonce ++ "\nIssued At: " ++
    toString v.issuedAt ++ "\nExpiration Time: " ++ toString v.expiresAt ++ "\nResources:\n" ++
    String.intercalate "\n" (v.resources.map fun resource => "- " ++ resource)

end BitcoinChallengeV1

structure StoredBitcoinChallenge where
  challenge : BitcoinChallengeV1
  consumedAt : Option Nat
deriving DecidableEq

/-- What a validated outcome of a transaction is bound to (`elastos-wallet-contract`). -/
inductive ValidatedChainOutcomeBindingV1 where
  | managedSigned (signedTransactionSha256 : String)
  | externalConnector (connectorId originatingAddress : String)
deriving DecidableEq

structure ValidatedChainOutcomeV1 where
  schema : String
  approvalRequestId : String
  accountId : String
  chainNamespace : String
  network : String
  binding : ValidatedChainOutcomeBindingV1
  transactionHash : String
  chainObservation : Json
  confirmedAt : Nat
deriving DecidableEq

inductive ApprovalStatus where
  | pending
  | approved
  | completed
  | rejected
  | expired
deriving DecidableEq, Repr

structure WalletSignatureReceipt where
  schema : String
  requestId : String
  signer : String
  payloadHash : String
  signatureHash : String
  completedAt : Nat
deriving DecidableEq

structure WalletApprovalRequest where
  schema : String
  requestId : String
  walletRequestSha256 : String
  authorityBinding : String
  kind : String
  status : ApprovalStatus
  principalId : String
  accountId : String
  proofBindingId : String
  chainNamespace : String
  address : String
  proofType : String
  connectorId : Option String
  intent : String
  sessionId : String
  launchId : String
  requestedByActor : String
  resource : String
  reason : String
  payload : Json
  payloadHash : String
  createdAt : Nat
  expiresAt : Nat
  resolvedAt : Option Nat
  rejectionReason : Option String
  approvedAt : Option Nat
  approvalReason : Option String
  completedAt : Option Nat
  signatureReceipt : Option WalletSignatureReceipt
  signedResult : Option Json
  validatedChainOutcome : Option ValidatedChainOutcomeV1
deriving DecidableEq

structure ConsumedWalletLifecycle where
  lifecycleId : String
  requestSha256 : String
  requestExpiresAt : Nat
  consumedAt : Nat
deriving DecidableEq

structure WalletStore where
  accounts : List LinkedAccount
  managedWallets : List ManagedWalletSecret
  challenges : List StoredWalletChallenge
  bitcoinChallenges : List StoredBitcoinChallenge
  approvalRequests : List WalletApprovalRequest
  defaultAccounts : List DefaultWalletAccount
  consumedLifecycles : List ConsumedWalletLifecycle
deriving DecidableEq

/-- `WalletStore::default` -/
def WalletStore.empty : WalletStore := ⟨[], [], [], [], [], [], []⟩

/-! ## 2. Pruning -/

/-- `matches!(request.status, Pending | Approved)` -/
def ApprovalStatus.isOpen : ApprovalStatus → Bool
  | .pending | .approved => true
  | _ => false

def expireApprovalIfElapsed (request : WalletApprovalRequest) (now : Nat) :
    WalletApprovalRequest :=
  if request.status.isOpen ∧ request.expiresAt ≤ now then
    { request with
      status := .expired
      resolvedAt := some now }
  else request

def approvalAuthorityIsActive (request : WalletApprovalRequest) (now : Nat) : Bool :=
  (request.status.isOpen && decide (now < request.expiresAt)) ||
    (request.status == .completed && request.intent == "transaction_intent" &&
      request.signedResult.isSome && request.validatedChainOutcome.isNone)

def pruneExpiredLifecycles (store : WalletStore) (now : Nat) : WalletStore :=
  { store with
    consumedLifecycles := store.consumedLifecycles.filter fun record =>
      now < record.requestExpiresAt }

/-- The `retain` over the approvals, newest first: `retained` counts the settled ones already kept
for each principal. -/
def retainHistory (now : Nat) (retained : String → Nat) :
    List WalletApprovalRequest → List WalletApprovalRequest
  | [] => []
  | request :: rest =>
    if approvalAuthorityIsActive request now then
      request :: retainHistory now retained rest
    else if MAX_RESOLVED_APPROVAL_HISTORY_PER_PRINCIPAL ≤ retained request.principalId then
      retainHistory now retained rest
    else
      request :: retainHistory now
        (Function.update retained request.principalId (retained request.principalId + 1)) rest

/-- `sort_by_key(|request| request.created_at)`, which is stable. -/
def sortByCreation (requests : List WalletApprovalRequest) : List WalletApprovalRequest :=
  requests.insertionSort fun a b => a.createdAt ≤ b.createdAt

def pruneApprovals (requests : List WalletApprovalRequest) (now : Nat) :
    List WalletApprovalRequest :=
  let requests := requests.map fun request => expireApprovalIfElapsed request now
  (retainHistory now (fun _ => 0) (sortByCreation requests).reverse).reverse

def pruneStore (store : WalletStore) (now : Nat) : WalletStore :=
  let store := pruneExpiredLifecycles store now
  { store with
    challenges := store.challenges.filter fun stored => now < stored.challenge.expiresAt
    bitcoinChallenges := store.bitcoinChallenges.filter fun stored =>
      now < stored.challenge.expiresAt
    approvalRequests := pruneApprovals store.approvalRequests now }

section

variable (store : WalletStore) (now : Nat)

@[simp] theorem pruneStore_accounts : (pruneStore store now).accounts = store.accounts := rfl

@[simp] theorem pruneStore_approvalRequests :
    (pruneStore store now).approvalRequests = pruneApprovals store.approvalRequests now := rfl

end

theorem retainHistory_sublist (now : Nat) (requests : List WalletApprovalRequest) :
    ∀ retained : String → Nat, (retainHistory now retained requests).Sublist requests := by
  induction requests with
  | nil => exact fun _ => List.Sublist.refl []
  | cons request rest ih =>
    intro retained
    rw [retainHistory]
    split
    · exact (ih _).cons_cons request
    · split
      · exact (ih _).cons request
      · exact (ih _).cons_cons request

variable {now : Nat} {request : WalletApprovalRequest} {requests : List WalletApprovalRequest}

/-- Whatever is still active is kept. -/
theorem mem_retainHistory (hactive : approvalAuthorityIsActive request now = true)
    (hmem : request ∈ requests) :
    ∀ retained : String → Nat, request ∈ retainHistory now retained requests := by
  induction requests with
  | nil => exact absurd hmem List.not_mem_nil
  | cons first rest ih =>
    intro retained
    rw [retainHistory]
    rcases List.mem_cons.mp hmem with rfl | hrest
    · rw [if_pos hactive]
      exact List.mem_cons_self
    · split
      · exact List.mem_cons_of_mem _ (ih hrest _)
      · split
        · exact ih hrest _
        · exact List.mem_cons_of_mem _ (ih hrest _)

theorem sortByCreation_perm (requests : List WalletApprovalRequest) :
    (sortByCreation requests).Perm requests := List.perm_insertionSort _ _

/-- What pruning leaves are approvals that stood there, marked if their time is up. -/
theorem pruneApprovals_subperm (requests : List WalletApprovalRequest) (now : Nat) :
    (pruneApprovals requests now).Subperm
      (requests.map fun request => expireApprovalIfElapsed request now) := by
  have hkept := retainHistory_sublist now
    (sortByCreation (requests.map fun r => expireApprovalIfElapsed r now)).reverse fun _ => 0
  have hperm := (List.reverse_perm _).trans
    (sortByCreation_perm (requests.map fun r => expireApprovalIfElapsed r now))
  exact (List.reverse_perm _).subperm.trans (hkept.subperm.trans hperm.subperm)

theorem mem_of_mem_pruneApprovals (h : request ∈ pruneApprovals requests now) :
    ∃ before ∈ requests, request = expireApprovalIfElapsed before now := by
  obtain ⟨before, hbefore, rfl⟩ := List.mem_map.mp ((pruneApprovals_subperm requests now).subset h)
  exact ⟨before, hbefore, rfl⟩

theorem mem_pruneApprovals_of_active (hmem : request ∈ requests)
    (hactive : approvalAuthorityIsActive request now = true)
    (hsame : expireApprovalIfElapsed request now = request) :
    request ∈ pruneApprovals requests now := by
  rw [pruneApprovals, List.mem_reverse]
  refine mem_retainHistory hactive (List.mem_reverse.mpr ?_) _
  exact (sortByCreation_perm _).mem_iff.mpr (List.mem_map.mpr ⟨request, hmem, hsame⟩)

/-- An approval that stands alone and has time left stays. -/
theorem pruneApprovals_singleton (hopen : request.status.isOpen = true)
    (hunexpired : now < request.expiresAt) : pruneApprovals [request] now = [request] := by
  have hsame : expireApprovalIfElapsed request now = request :=
    if_neg fun h => Nat.not_le_of_lt hunexpired h.2
  have hactive : approvalAuthorityIsActive request now = true := by
    rw [approvalAuthorityIsActive, hopen, decide_eq_true hunexpired]
    rfl
  have hkept : retainHistory now (fun _ => 0) [request] = [request] := by
    rw [retainHistory, if_pos hactive, retainHistory]
  have hsorted : sortByCreation [request] = [request] := rfl
  rw [pruneApprovals, List.map_singleton, hsame, hsorted, List.reverse_singleton, hkept,
    List.reverse_singleton]

end ElastosRuntime.Wallet
