/-
# Runs of the wallet provider

An operation that was carried out is an `Event`.  `Changes` says what it has made of one approval
and by what right, and `Accepts` which new one it has stored; `dispatch_advances` is the one lemma
about all of them.

`Run` is a run of the provider: requests of any kind, with saves that succeed or fail, and restarts
from the file.  What holds of an approval is derived from how it came about (`Lived`).
-/
import ElastosRuntime.Wallet.History

namespace ElastosRuntime.Wallet

open Contracts Text WalletCurve WalletSigner Records Streams Streams.Effect Relation

/-! ## 1. What an operation has done -/

/-- An operation that was carried out: for which request, decoded when, what it found, on which
store, and what it replied. -/
structure Event [WalletSigner] where
  storageKey : Option (Bytes 32)
  now : Nat
  circumstances : Circumstances
  request : WalletProviderRequestV2
  store : WalletStore
  reply : Reply

section

variable [WalletSigner]

/-- The request names the approval, in the approval's session. -/
structure Event.Settles (e : Event) (requestId : String) (a : WalletApprovalRequest) : Prop where
  named : isRequest e.request.authority.principalId requestId a = true
  session : a.sessionId = e.request.authority.sessionId

end

section

variable [Curves] [Crypto] [WalletSigner] [BitcoinCrate] [Custody.Aes256Gcm] [SerdeJson]

/-- What an operation has made of an approval, and by what right. -/
inductive Changes (e : Event) : WalletApprovalRequest → WalletApprovalRequest → Prop
  | rejected {a : WalletApprovalRequest} {requestId reason : String}
      (hoperation : e.request.operation = .rejectApproval requestId reason)
      (hsettles : e.Settles requestId a) (hpending : a.status = .pending) :
      Changes e a (a.reject (e.circumstances.clock 0) reason)
  | handedOff {a : WalletApprovalRequest} {requestId reason : String} {handoff : Json}
      (hoperation : e.request.operation = .approveConnectorHandoff requestId reason)
      (hsettles : e.Settles requestId a)
      (hconnector : a.connectorId = some e.request.authority.actor) (hpending : a.status = .pending)
      (hunexpired : e.circumstances.clock 0 < a.expiresAt)
      (hhandoff : externalWalletHandoff (a.approve (e.circumstances.clock 0) reason) = .ok handoff)
      (hreply : e.reply = .handoff (a.approve (e.circumstances.clock 0) reason) handoff) :
      Changes e a (a.approve (e.circumstances.clock 0) reason)
  | signed {a : WalletApprovalRequest} {requestId reason : String} {s : WalletStore}
      {signingKey : SigningKey} {signed : ManagedSignatureOutput} {receipt : WalletSignatureReceipt}
      (hoperation : e.request.operation = .approveAndSignManaged requestId reason)
      (hsettles : e.Settles requestId a) (hmanaged : isManagedProofType a.proofType = true)
      (hconnector : a.connectorId = none) (hpending : a.status = .pending)
      (hunexpired : e.circumstances.clock 0 < a.expiresAt ∧ e.circumstances.clock 1 < a.expiresAt)
      (hwallets : s.managedWallets = e.store.managedWallets)
      (hsigning : ManagedSigning e.storageKey s (e.circumstances.clock 1)
        (a.approve (e.circumstances.clock 0) reason) signingKey signed)
      (hreply : e.reply = .signed (signedBy (a.approve (e.circumstances.clock 0) reason)
        (e.circumstances.clock 1) signed) receipt signed) :
      Changes e a (signedBy (a.approve (e.circumstances.clock 0) reason)
        (e.circumstances.clock 1) signed)
  | completed {a : WalletApprovalRequest} {requestId payloadHash signer : String}
      {signature signatureType publicKey transactionHash : Option String}
      {v : ConnectorHandoffCompletion} {signatureHash : String} {signedResult : Option Json}
      (hoperation : e.request.operation = .completeConnectorHandoff requestId payloadHash signature
        signatureType publicKey signer transactionHash)
      (hcompletion : v = completionOf e.request.authority requestId payloadHash signature
        signatureType publicKey signer transactionHash)
      (hsettles : e.Settles requestId a)
      (hconnector : a.connectorId = some e.request.authority.actor)
      (hpayload : a.payloadHash = payloadHash) (happroved : a.status = .approved)
      (hunexpired : e.circumstances.clock 0 < a.expiresAt)
      (hevidence : completionEvidence (pruneStore e.store (e.circumstances.clock 0)) a v
        (e.circumstances.clock 0) = .ok (signatureHash, signedResult)) :
      Changes e a (a.complete (e.circumstances.clock 0)
        (receiptOf a signer payloadHash signatureHash (e.circumstances.clock 0)) signedResult)
  | attached {a : WalletApprovalRequest} {outcome : ValidatedChainOutcomeV1}
      (hoperation : e.request.operation = .attachValidatedChainOutcome outcome)
      (htarget : validateChainOutcomeTarget a e.request.authority outcome = .ok ())
      (hfirst : a.validatedChainOutcome = none) : Changes e a (a.attach outcome)

/-- The operation has stored a new approval. -/
inductive Accepts (e : Event) : WalletApprovalRequest → Prop
  | approval {accountId chainNamespace intent resource reason : String} {payload : Json}
      {expiresAt : Nat} {account : LinkedAccount}
      (hoperation : e.request.operation =
        .requestApproval accountId chainNamespace intent resource reason payload expiresAt)
      (haccepted : Accepted e.storageKey e.store (e.circumstances.clock 0)
        (approvalInput e.request accountId chainNamespace intent resource reason payload expiresAt)
        account) :
      Accepts e (newApprovalRequest (approvalInput e.request accountId chainNamespace intent
        resource reason payload expiresAt) account (e.circumstances.clock 0))
  | rights {accountId canonicalRightsRequestHex reason : String} {expiresAt : Nat}
      {account : LinkedAccount}
      (hoperation : e.request.operation =
        .requestProtectedContentRightsSignature accountId canonicalRightsRequestHex reason)
      (haccepted : Accepted e.storageKey e.store (e.circumstances.clock 1)
        (rightsSignatureInput e.request account accountId canonicalRightsRequestHex reason
          expiresAt) account) :
      Accepts e (newApprovalRequest (rightsSignatureInput e.request account accountId
        canonicalRightsRequestHex reason expiresAt) account (e.circumstances.clock 1))

variable {e : Event} {a b : WalletApprovalRequest}

theorem Changes.moves (h : Changes e a b) : ReflTransGen Moves a b := by
  cases h with
  | rejected _ _ hpending => exact .single (.rejected hpending)
  | handedOff _ _ _ hpending hunexpired => exact .single (.approved hpending hunexpired)
  | signed _ _ _ _ hpending hunexpired =>
    exact (ReflTransGen.single (Moves.approved hpending hunexpired.1)).tail
      (Moves.completed rfl hunexpired.2)
  | completed _ _ _ _ _ happroved hunexpired => exact .single (.completed happroved hunexpired)
  | attached _ htarget hfirst =>
    simp only [validateChainOutcomeTarget, Codec.bind_eq_ok, failIf_eq_ok, exists_unit, not_or,
      not_not] at htarget
    exact .single (.attached htarget.2.2.1.1 htarget.2.2.1.2 hfirst)

theorem Changes.requestId_eq (h : Changes e a b) : b.requestId = a.requestId :=
  congrArg (·.requestId) (asked_eq_of_moves h.moves)

theorem Accepts.status_eq (h : Accepts e b) : b.status = .pending := by
  cases h <;> rfl

theorem Accepts.asked_eq (h : Accepts e b) : b.asked = b := by
  cases h <;> rfl

theorem Accepts.requestId_eq (h : Accepts e b) : b.requestId = e.request.requestId := by
  cases h <;> rfl

/-- What an operation has made of the stored approvals. -/
structure Advances (e : Event) (before after : List WalletApprovalRequest) : Prop where
  members : ∀ b ∈ after, (∃ a ∈ before, Ages a b) ∨ (∃ a ∈ before, Changes e a b) ∨ Accepts e b
  unique : Unique WalletApprovalRequest.requestId after

variable {before after : List WalletApprovalRequest}
  (hunique : Unique WalletApprovalRequest.requestId before)

include hunique

theorem Kept.advances (h : Kept before after none) : Advances e before after := by
  refine ⟨fun b hb => ?_, h.unique hunique⟩
  rcases h.members b hb with hage | hnone
  · exact Or.inl hage
  · cases hnone

theorem Changes.advances (h : Changes e a b) (ha : a ∈ before) (hkept : Kept before after (some b)) :
    Advances e before after := by
  refine ⟨fun c hc => ?_, hkept.unique hunique⟩
  rcases hkept.members c hc with hage | hchange
  · exact Or.inl hage
  · exact Or.inr (Or.inl ⟨a, ha, Option.some.inj hchange ▸ h⟩)

theorem Accepts.advances {now : Nat} (h : Accepts e b)
    (hnew : ∀ a ∈ before, a.requestId ≠ e.request.requestId)
    (hstored : after = pruneApprovals before now ++ [b]) : Advances e before after := by
  have hkept := Kept.pruned before now
  subst hstored
  constructor
  · intro c hc
    rcases List.mem_append.mp hc with hold | hlast
    · rcases hkept.members c hold with hage | hnone
      · exact Or.inl hage
      · cases hnone
    · exact Or.inr (Or.inr (List.mem_singleton.mp hlast ▸ h))
  · refine (hkept.unique hunique).append_singleton fun c hc => ?_
    obtain ⟨a, ha, rfl⟩ := mem_of_mem_pruneApprovals hc
    rw [(ages_expireApprovalIfElapsed a now).requestId_eq, h.requestId_eq]
    exact hnew a ha

end

section

variable [Curves] [Crypto] [WalletSigner] [BitcoinCrate] [Custody.Aes256Gcm] [SerdeJson]
  [DerivedSerialize] [ElastosAuth]

variable {e : Event} {s s' : WalletStore}

/-- The event leaves this store. -/
def Event.Leaves (e : Event) (after : WalletStore) : Prop :=
  Does (dispatchWalletOperation e.storageKey e.circumstances e.request) e.store e.reply after

/-- The operation would store a new approval. -/
def asksForApproval : WalletProviderOperationV2 → Bool
  | .requestApproval .. | .requestProtectedContentRightsSignature .. => true
  | _ => false

variable {request : WalletProviderRequestV2}

omit [BitcoinCrate] [Custody.Aes256Gcm] [DerivedSerialize] [ElastosAuth] in
/-- A request for an approval that is no copy of a stored one has an id of its own. -/
theorem requestId_ne_of_replay_eq_none
    (hreplay : idempotentTransactionEffectReplay s request = none)
    (hasks : asksForApproval request.operation = true) :
    ∀ a ∈ s.approvalRequests, a.requestId ≠ request.requestId := by
  intro a ha hid
  have hfound : approvalById s request.requestId = none := by
    cases hop : request.operation <;> rw [hop] at hasks <;> try cases hasks
    all_goals
      cases hfind : approvalById s request.requestId with
      | none => rfl
      | some existing =>
        rw [idempotentTransactionEffectReplay, hop] at hreplay
        simp [hfind] at hreplay
  exact List.find?_eq_none.mp hfound a ha (beq_iff_eq.mpr hid)

omit [BitcoinCrate] [Custody.Aes256Gcm] [DerivedSerialize] [ElastosAuth] in
theorem replay_eq_none_of_answerWithoutEffect (h : answerWithoutEffect s request = none) :
    idempotentTransactionEffectReplay s request = none := by
  rw [answerWithoutEffect] at h
  cases hreplay : idempotentTransactionEffectReplay s request with
  | none => rfl
  | some response =>
    rw [hreplay] at h
    cases h

/-- The operation is about the approvals. -/
def touchesApprovals : WalletProviderOperationV2 → Bool
  | .requestProtectedContentRightsSignature .. | .requestApproval .. | .rejectApproval ..
  | .approveAndSignManaged .. | .approveConnectorHandoff .. | .completeConnectorHandoff ..
  | .attachValidatedChainOutcome .. => true
  | _ => false

section

open Spares

/-- All other operations spare the approvals and the life cycles. -/
theorem spares_dispatch {storageKey : Option (Bytes 32)} {at_ : Circumstances} {T : Nat}
    {request : WalletProviderRequestV2} (hT : at_.clock 0 ≤ T)
    (hother : touchesApprovals request.operation = false) :
    Spares Untouched T (dispatchWalletOperation storageKey at_ request) := by
  rw [dispatchWalletOperation]
  cases hop : request.operation with
  | listAccounts | defaultAccount | listApprovals | exportManagedRecoveryKey
  | exportManagedRecoverySet => exact (reading _).bind fun _ => (check _).bind fun _ => .pure _
  | createManagedAccount => exact (spares_createManagedAccount _).bind fun _ => .pure _
  | linkVerifiedAccount => exact (spares_linkAccount _).bind fun _ => .pure _
  | revokeAccount => exact (spares_revokeAccount _ _).bind fun _ => .pure _
  | renameAccount => exact (spares_renameAccount _ _ _).bind fun _ => .pure _
  | setDefaultAccount => exact (spares_setDefaultAccount _).bind fun _ => .pure _
  | challenge => exact (spares_challenge (fun _ _ => ⟨rfl, rfl⟩) hT _).bind fun _ => .pure _
  | bitcoinChallenge => exact (spares_bitcoinChallenge (fun _ _ => ⟨rfl, rfl⟩) hT _).bind fun _ => .pure _
  | verifyProof => exact (spares_verifyProof (fun _ _ => ⟨rfl, rfl⟩) _ _).bind fun _ => .pure _
  | verifyContractProof => exact (spares_verifyContractProof (fun _ _ => ⟨rfl, rfl⟩) _ _ _).bind fun _ => .pure _
  | verifyBip322Proof =>
    exact (spares_verifyBitcoinProof (fun _ _ => ⟨rfl, rfl⟩) _ _ _ _).bind fun _ => .pure _
  | importManagedRecoveryKey =>
    exact (spares_importManagedRecoveryKey _ _).bind fun _ => .pure _
  | importManagedRecoverySet =>
    exact (spares_importManagedRecoverySet _ _).bind fun _ => .pure _
  | requestProtectedContentRightsSignature | requestApproval | rejectApproval
  | approveAndSignManaged | approveConnectorHandoff | completeConnectorHandoff
  | attachValidatedChainOutcome =>
    rw [hop] at hother
    cases hother

end

/-- **What an operation does to the stored approvals.** -/
theorem Event.Leaves.advances (h : e.Leaves s')
    (hunique : Unique WalletApprovalRequest.requestId e.store.approvalRequests)
    (hreplay : idempotentTransactionEffectReplay e.store e.request = none) :
    Advances e e.store.approvalRequests s'.approvalRequests := by
  by_cases hother : touchesApprovals e.request.operation = false
  · exact ((spares_dispatch (Nat.le_refl _) hother).kept h).advances hunique
  rw [Leaves, dispatchWalletOperation] at h
  cases hop : e.request.operation with
  | listAccounts | defaultAccount | listApprovals | exportManagedRecoveryKey
  | exportManagedRecoverySet | createManagedAccount | linkVerifiedAccount | revokeAccount
  | renameAccount | setDefaultAccount | challenge | bitcoinChallenge | verifyProof
  | verifyContractProof | verifyBip322Proof | importManagedRecoveryKey
  | importManagedRecoverySet => exact absurd (by rw [hop]; rfl) hother
  | requestProtectedContentRightsSignature accountId canonicalRightsRequestHex reason =>
    simp only [hop, does_bind, does_pure] at h
    obtain ⟨b, _, hdoes, -, rfl⟩ := h
    obtain ⟨account, expiresAt, haccepted, rfl, hstored⟩ :=
      requestProtectedContentRightsSignature_effect hdoes
    refine (Accepts.rights hop haccepted).advances hunique ?_ hstored
    exact requestId_ne_of_replay_eq_none hreplay (by rw [hop]; rfl)
  | requestApproval accountId chainNamespace intent resource reason payload expiresAt =>
    simp only [hop, does_bind, does_pure] at h
    obtain ⟨b, _, hdoes, -, rfl⟩ := h
    obtain ⟨account, haccepted, rfl, hstored⟩ := requestApproval_effect hdoes
    refine (Accepts.approval hop haccepted).advances hunique ?_ hstored
    exact requestId_ne_of_replay_eq_none hreplay (by rw [hop]; rfl)
  | rejectApproval requestId reason =>
    simp only [hop, does_bind, does_pure] at h
    obtain ⟨b, _, hdoes, -, rfl⟩ := h
    obtain ⟨a, ha, hrequest, hsession, hpending, rfl, hkept⟩ := rejectApproval_effect hdoes
    exact (Changes.rejected hop ⟨hrequest, hsession⟩ hpending).advances hunique ha hkept
  | approveAndSignManaged requestId reason =>
    simp only [hop, does_bind, does_pure] at h
    obtain ⟨⟨b, receipt, signed⟩, _, hdoes, hreply, rfl⟩ := h
    obtain ⟨a, ha, hrequest, hsession, hmanaged, hconnector, hpending, hlt, hlt',
      ⟨signingKey, s₁, hwallets, hsigning⟩, rfl, hreceipt, hkept⟩ :=
      approveAndSignManaged_effect hunique hdoes
    exact (Changes.signed hop ⟨hrequest, hsession⟩ hmanaged hconnector hpending ⟨hlt, hlt'⟩
      hwallets hsigning hreply.symm).advances hunique ha hkept
  | approveConnectorHandoff requestId reason =>
    simp only [hop, does_bind, does_pure] at h
    obtain ⟨⟨b, handoff⟩, _, hdoes, hreply, rfl⟩ := h
    obtain ⟨a, ha, hrequest, hsession, hconnector, hpending, hlt, rfl, hhandoff, hkept⟩ :=
      approveConnectorHandoff_effect hdoes
    exact (Changes.handedOff hop ⟨hrequest, hsession⟩ hconnector hpending hlt hhandoff
      hreply.symm).advances hunique ha hkept
  | completeConnectorHandoff requestId payloadHash signature signatureType publicKey signer
      transactionHash =>
    simp only [hop, does_bind, does_pure] at h
    obtain ⟨⟨b, receipt⟩, _, hdoes, hreply, rfl⟩ := h
    obtain ⟨a, ha, hrequest, hsession, hconnector, hpayload, happroved, hlt,
      ⟨signatureHash, signedResult, hevidence, rfl, rfl⟩, hkept⟩ :=
      completeConnectorHandoff_effect hdoes
    exact (Changes.completed hop rfl ⟨hrequest, hsession⟩ hconnector hpayload happroved hlt
      hevidence).advances hunique ha hkept
  | attachValidatedChainOutcome outcome =>
    simp only [hop, does_bind, does_pure] at h
    obtain ⟨b, _, hdoes, -, rfl⟩ := h
    obtain ⟨a, ha, -, htarget, ⟨-, rfl, rfl⟩ | ⟨hfirst, rfl, hkept⟩⟩ :=
      attachValidatedChainOutcome_effect hdoes
    · exact (Kept.refl _).advances hunique
    · exact (Changes.attached hop htarget hfirst).advances hunique ha hkept

/-! ## 2. Handling a request -/

/-- The operation of a request, carried out on the store without the life cycles that are over. -/
def eventOf (p : WalletProvider) (occasion : Occasion) (request : WalletProviderRequestV2)
    (reply : Reply) : Event where
  storageKey := p.storageKey
  now := occasion.now
  circumstances := occasion.circumstances
  request := request
  store := pruneExpiredLifecycles p.store occasion.now
  reply := reply

/-- The request is one whose operation is carried out. -/
structure Attempted (p : WalletProvider) (occasion : Occasion)
    (request : WalletProviderRequestV2) : Prop where
  valid : request.validateAt occasion.now = .ok ()
  effectful : request.operation.isEffectful = true
  unanswered :
    answerWithoutEffect (pruneExpiredLifecycles p.store occasion.now) request = none

/-- The operations that are carried out for a request: at most one. -/
def carriedOut (p : WalletProvider) (occasion : Occasion) (request : WalletProviderRequestV2) :
    List Event :=
  match request.validateAt occasion.now, request.operation.isEffectful,
    answerWithoutEffect (pruneExpiredLifecycles p.store occasion.now) request,
    (dispatchWalletOperation p.storageKey occasion.circumstances request).outcome
      (pruneExpiredLifecycles p.store occasion.now) with
  | .ok (), true, none, (.ok reply, _) => [eventOf p occasion request reply]
  | _, _, _, _ => []

/-- What becomes of the file and of the store when what an operation has changed is saved. -/
def saved (p : WalletProvider) (occasion : Occasion) (request : WalletProviderRequestV2)
    (changed : WalletStore) : WalletProvider :=
  let recorded := recordLifecycle request occasion.now changed
  match occasion.fate.save with
  | .saved => { p with store := recorded, disk := some recorded }
  | .failedBefore _ =>
    { p with
      store := recoverStoreAfterSaveFailure occasion.fate.readable p.disk
        (pruneExpiredLifecycles p.store occasion.now) }
  | .failedBehind _ =>
    { p with
      store := recoverStoreAfterSaveFailure occasion.fate.readable (some recorded)
        (pruneExpiredLifecycles p.store occasion.now)
      disk := some recorded }

variable {p : WalletProvider} {occasion : Occasion} {request : WalletProviderRequestV2}

omit [Curves] [Crypto] [BitcoinCrate] [Custody.Aes256Gcm] [SerdeJson] [DerivedSerialize]
  [ElastosAuth] in
/-- Whatever a save comes to, the file and the store are among these. -/
theorem saved_cases (p : WalletProvider) (occasion : Occasion) (request : WalletProviderRequestV2)
    (changed : WalletStore) :
    (saved p occasion request changed).storageKey = p.storageKey ∧
    ((saved p occasion request changed).disk = p.disk ∨
      (saved p occasion request changed).disk =
        some (recordLifecycle request occasion.now changed)) ∧
    ((saved p occasion request changed).store = recordLifecycle request occasion.now changed ∨
      (saved p occasion request changed).store = pruneExpiredLifecycles p.store occasion.now ∨
      p.disk = some (saved p occasion request changed).store) := by
  rw [saved]
  rcases occasion with ⟨now, circumstances, save, readable⟩
  cases save with
  | saved => exact ⟨rfl, Or.inr rfl, Or.inl rfl⟩
  | failedBefore message =>
    refine ⟨rfl, Or.inl rfl, Or.inr ?_⟩
    cases readable with
    | false => exact Or.inl rfl
    | true =>
      cases hdisk : p.disk with
      | none => exact Or.inl rfl
      | some store => exact Or.inr rfl
  | failedBehind message =>
    refine ⟨rfl, Or.inr rfl, ?_⟩
    cases readable with
    | false => exact Or.inr (Or.inl rfl)
    | true => exact Or.inl rfl

omit [Curves] [Crypto] [WalletSigner] [BitcoinCrate] [Custody.Aes256Gcm] [SerdeJson]
  [DerivedSerialize] [ElastosAuth] in
/-- An answer that is read off the store leaves it alone. -/
theorem outcome_reading {α β γ : Type} (f : WalletStore → α) (g : α → Except Refusal β)
    (reply : β → γ) (s : WalletStore) :
    ((reads f >>= fun a => liftM (g a) >>= fun b => pure (reply b) : Operation γ).outcome s).2 =
      s := by
  have hread : ((reads f >>= fun a => liftM (g a) >>= fun b => pure (reply b) :
      Operation γ).outcome s) = (liftM (g (f s)) >>= fun b => pure (reply b) :
      Operation γ).outcome s := outcome_bind _ _ s
  rw [hread, outcome_bind, outcome_lift]
  cases g (f s) <;> rfl

/-- What is not effectful leaves the store alone. -/
theorem outcome_of_not_isEffectful {storageKey : Option (Bytes 32)} {at_ : Circumstances}
    (h : request.operation.isEffectful = false) :
    ((dispatchWalletOperation storageKey at_ request).outcome s).2 = s := by
  rw [dispatchWalletOperation]
  cases hop : request.operation <;> rw [hop] at h <;> try cases h
  · exact outcome_reading _ _ (fun listed : List AccountSummary × List DefaultWalletAccount =>
      Reply.accounts listed.1 listed.2) s
  · exact outcome_reading _ _ (fun found : DefaultWalletAccount × LinkedAccount =>
      Reply.defaultAccount found.1 found.2) s
  · exact outcome_reading _ _ Reply.approvals s

/-- **What handling a request comes to.** -/
theorem handleWalletContract_cases (p : WalletProvider) (occasion : Occasion)
    (request : WalletProviderRequestV2) :
    (carriedOut p occasion request = [] ∧
      ((handleWalletContract p occasion request).2 = p ∨
        (handleWalletContract p occasion request).2 =
          { p with store := pruneExpiredLifecycles p.store occasion.now })) ∨
    ∃ reply changed, Attempted p occasion request ∧
      carriedOut p occasion request = [eventOf p occasion request reply] ∧
      (eventOf p occasion request reply).Leaves changed ∧
      (handleWalletContract p occasion request).2 = saved p occasion request changed := by
  rw [handleWalletContract]
  cases hvalid : request.validateAt occasion.now with
  | error err => exact Or.inl ⟨by rw [carriedOut, hvalid], Or.inl rfl⟩
  | ok u =>
    cases heffect : request.operation.isEffectful with
    | false =>
      refine Or.inl ⟨by rw [carriedOut, hvalid, heffect], Or.inl ?_⟩
      dsimp only
      rw [if_neg Bool.false_ne_true, outcome_of_not_isEffectful heffect]
    | true =>
      dsimp only
      rw [if_pos rfl, executeEffectfulWalletRequest]
      cases hanswer : answerWithoutEffect (pruneExpiredLifecycles p.store occasion.now) request with
      | some answer => exact Or.inl ⟨by rw [carriedOut, hvalid, heffect, hanswer], Or.inr rfl⟩
      | none =>
        dsimp only
        rcases hdone : (dispatchWalletOperation p.storageKey occasion.circumstances
          request).outcome (pruneExpiredLifecycles p.store occasion.now) with ⟨_ | reply, changed⟩
        · exact Or.inl ⟨by rw [carriedOut, hvalid, heffect, hanswer, hdone], Or.inr rfl⟩
        · refine Or.inr ⟨reply, changed, ⟨hvalid, heffect, hanswer⟩,
            by rw [carriedOut, hvalid, heffect, hanswer, hdone], hdone, ?_⟩
          rw [saved]
          cases occasion.fate.save <;> rfl

/-- A request whose operation is carried out and whose store is saved. -/
theorem handleWalletContract_of_leaves {reply : Reply} {changed : WalletStore}
    (h : Attempted p occasion request) (hleaves : (eventOf p occasion request reply).Leaves changed)
    (hsave : occasion.fate.save = .saved) :
    carriedOut p occasion request = [eventOf p occasion request reply] ∧
      (handleWalletContract p occasion request).2 =
        { p with
          store := recordLifecycle request occasion.now changed
          disk := some (recordLifecycle request occasion.now changed) } := by
  have hdone : (dispatchWalletOperation p.storageKey occasion.circumstances request).outcome
      (pruneExpiredLifecycles p.store occasion.now) = (.ok reply, changed) := hleaves
  constructor
  · rw [carriedOut, h.valid, h.effectful, h.unanswered, hdone]
  · rw [handleWalletContract, h.valid]
    dsimp only
    rw [if_pos h.effectful, executeEffectfulWalletRequest, h.unanswered]
    dsimp only
    rw [hdone]
    dsimp only
    rw [hsave]
    rfl

end

/-! ## 3. How an approval came about -/

section

variable [Curves] [Crypto] [WalletSigner] [BitcoinCrate] [Custody.Aes256Gcm] [SerdeJson]

/-- An approval as operations that were carried out have made it. -/
inductive Lived (history : List Event) : WalletApprovalRequest → Prop
  | accepted {e : Event} {a : WalletApprovalRequest} (he : e ∈ history) (haccepts : Accepts e a) :
      Lived history a
  | aged {a b : WalletApprovalRequest} (ha : Lived history a) (hages : Ages a b) : Lived history b
  | changed {e : Event} {a b : WalletApprovalRequest} (ha : Lived history a) (he : e ∈ history)
      (hchanges : Changes e a b) : Lived history b

namespace Lived

variable {history later : List Event} {a : WalletApprovalRequest}

theorem mono (h : Lived history a) (hsub : history ⊆ later) : Lived later a := by
  induction h with
  | accepted he haccepts => exact accepted (hsub he) haccepts
  | aged _ hages ih => exact aged ih hages
  | changed _ he hchanges ih => exact changed ih (hsub he) hchanges

/-- It was asked for, and is still what was asked for. -/
theorem exists_accepts (h : Lived history a) : ∃ e ∈ history, Accepts e a.asked := by
  induction h with
  | accepted he haccepts => exact ⟨_, he, haccepts.asked_eq.symm ▸ haccepts⟩
  | aged _ hages ih => exact asked_eq_of_moves hages.moves ▸ ih
  | changed _ _ hchanges ih => exact asked_eq_of_moves hchanges.moves ▸ ih

end Lived

omit [Curves] [WalletSigner] [BitcoinCrate] [Custody.Aes256Gcm] in
theorem lacksAuthority_of_valid {input : SignatureRequestInput} {account : LinkedAccount}
    {now now' : Nat} (h : input.validate now' = .ok ()) :
    lacksAuthority (newApprovalRequest input account now) = false := by
  simp only [SignatureRequestInput.validate, Codec.bind_eq_ok, exists_unit] at h
  obtain ⟨-, hrequest, hbinding, -, hsession, hlaunch, -⟩ := h
  have hrequest := ne_empty_of_validateOpaqueId hrequest
  have hbinding := ne_empty_of_validateHash hbinding
  have hsession := ne_empty_of_validateOpaqueId hsession
  have hlaunch := ne_empty_of_validateOpaqueId hlaunch
  simp [lacksAuthority, newApprovalRequest, hrequest, hbinding, hsession, hlaunch]

theorem Lived.lacksAuthority_eq {history : List Event} {a : WalletApprovalRequest}
    (h : Lived history a) : lacksAuthority a = false := by
  obtain ⟨e, -, haccepts⟩ := h.exists_accepts
  have hsame : lacksAuthority a = lacksAuthority a.asked := rfl
  rw [hsame]
  generalize a.asked = b at haccepts
  cases haccepts with
  | approval _ haccepted => exact lacksAuthority_of_valid haccepted.valid
  | rights _ haccepted => exact lacksAuthority_of_valid haccepted.valid

/-- The stored approvals came about by what was carried out, and have ids of their own. -/
structure Sound (history : List Event) (store : WalletStore) : Prop where
  lived : ∀ a ∈ store.approvalRequests, Lived history a
  unique : Unique WalletApprovalRequest.requestId store.approvalRequests

/-- So do those in the file. -/
structure SoundProvider (history : List Event) (p : WalletProvider) : Prop where
  store : Sound history p.store
  disk : ∀ store, p.disk = some store → Sound history store

section

variable {history later : List Event} {s s' : WalletStore} {p : WalletProvider}

theorem Sound.mono (h : Sound history s) (hsub : history ⊆ later) : Sound later s :=
  ⟨fun a ha => (h.lived a ha).mono hsub, h.unique⟩

theorem Sound.kept (h : Sound history s)
    (hkept : Kept s.approvalRequests s'.approvalRequests none) : Sound history s' := by
  refine ⟨fun b hb => ?_, hkept.unique h.unique⟩
  rcases hkept.members b hb with ⟨a, ha, hages⟩ | hnone
  · exact (h.lived a ha).aged hages
  · cases hnone

theorem Sound.empty : Sound history WalletStore.empty :=
  ⟨fun _ ha => absurd ha List.not_mem_nil, Unique.nil⟩

theorem Sound.advances {e : Event} (h : Sound history e.store)
    (hadvances : Advances e e.store.approvalRequests s'.approvalRequests) :
    Sound (history ++ [e]) s' := by
  refine ⟨fun b hb => ?_, hadvances.unique⟩
  have hlast : e ∈ history ++ [e] := List.mem_append_right history (List.mem_singleton.mpr rfl)
  have hold : ∀ a ∈ e.store.approvalRequests, Lived (history ++ [e]) a :=
    fun a ha => (h.lived a ha).mono (List.subset_append_left history [e])
  rcases hadvances.members b hb with ⟨a, ha, hages⟩ | ⟨a, ha, hchanges⟩ | haccepts
  · exact (hold a ha).aged hages
  · exact (hold a ha).changed hlast hchanges
  · exact Lived.accepted hlast haccepts

theorem SoundProvider.stopped {disk : Option WalletStore}
    (h : ∀ store, disk = some store → Sound history store) :
    SoundProvider history (WalletProvider.stopped disk) := ⟨Sound.empty, h⟩

/-- Approvals of which it is known how they came about are none of the first version. -/
theorem rejectPreV2PendingApprovals_of_sound (h : Sound history s) (now : Nat) :
    rejectPreV2PendingApprovals s now = (s, false) := by
  have hstale : ∀ a ∈ s.approvalRequests, (a.status.isOpen && lacksAuthority a) = false := by
    intro a ha
    rw [(h.lived a ha).lacksAuthority_eq, Bool.and_false]
  have hnone : s.approvalRequests.any (fun request =>
      request.status.isOpen && lacksAuthority request) = false :=
    List.any_eq_false.mpr fun a ha => by simp [hstale a ha]
  have hsame : s.approvalRequests.map (fun request =>
      if (request.status.isOpen && lacksAuthority request) = true then
        { request with
          status := .rejected
          resolvedAt := some now
          rejectionReason := some <| "pre-v2 approval preserved as history; a new " ++
            "authority-bound request is required" }
      else request) = s.approvalRequests := by
    refine (List.map_congr_left fun a ha => ?_).trans (List.map_id _)
    exact if_neg (by rw [hstale a ha]; exact Bool.false_ne_true)
  rw [rejectPreV2PendingApprovals]
  dsimp only
  rw [hsame, hnone]

/-- **How a property of the stores gets past a start**: it survives pruning. -/
theorem init_keeps {P : WalletStore → Prop} {disk : Option WalletStore} (hempty : P .empty)
    (h : ∀ store, disk = some store → P store)
    (hsound : ∀ store, disk = some store → Sound history store) {now : Nat}
    (hprune : ∀ s, P s → P (pruneStore s now)) (storageKey : Option (Bytes 32)) (fate : Fate) :
    P (Wallet.init disk storageKey fate now).store ∧
      ∀ store, (Wallet.init disk storageKey fate now).disk = some store → P store := by
  have hread : P (disk.getD .empty) ∧ Sound history (disk.getD .empty) := by
    cases hdisk : disk with
    | none => exact ⟨hempty, Sound.empty⟩
    | some store => exact ⟨h store hdisk, hsound store hdisk⟩
  have hpruned : Sound history (pruneStore (disk.getD .empty) now) :=
    hread.2.kept (Kept.pruned _ now)
  rcases fate with ⟨save, readable⟩
  cases storageKey with
  | none => exact ⟨hempty, h⟩
  | some key =>
    cases readable with
    | false => exact ⟨hempty, h⟩
    | true =>
      simp only [Wallet.init, rejectPreV2PendingApprovals_of_sound hpruned now,
        Bool.false_eq_true, if_false]
      exact ⟨hprune _ hread.1, h⟩

theorem SoundProvider.init (h : ∀ store, p.disk = some store → Sound history store)
    (storageKey : Option (Bytes 32)) (fate : Fate) (now : Nat) :
    SoundProvider history (Wallet.init p.disk storageKey fate now) :=
  have hkeeps := init_keeps Sound.empty h h (fun _ hs => hs.kept (Kept.pruned _ now)) storageKey fate
  ⟨hkeeps.1, hkeeps.2⟩

end

/-! ## 4. Runs -/

section

variable [DerivedSerialize] [ElastosAuth]

/-- A run of the provider, from `start` on: what was carried out in it, when it is over, and what
the provider is then.  The clock does not go back; restarts are part of it or not. -/
inductive Run (restarts : Bool) (start : WalletProvider) (begun : Nat) :
    List Event → Nat → WalletProvider → Prop
  | start : Run restarts start begun [] begun start
  | request {history : List Event} {time time' : Nat} {p : WalletProvider}
      (hrun : Run restarts start begun history time p) (occasion : Occasion)
      (request : WalletProviderRequestV2) (hdecoded : time ≤ occasion.now)
      (hfirst : occasion.now ≤ occasion.circumstances.clock 0)
      (hclock : Monotone occasion.circumstances.clock)
      (hover : ∀ i, occasion.circumstances.clock i ≤ time') :
      Run restarts start begun (history ++ carriedOut p occasion request) time'
        (handleWalletContract p occasion request).2
  | restart {history : List Event} {time : Nat} {p : WalletProvider}
      (hrun : Run restarts start begun history time p) (hrestarts : restarts = true)
      (storageKey : Option (Bytes 32)) (fate : Fate) (now : Nat) (hlater : time ≤ now) :
      Run restarts start begun history now (init p.disk storageKey fate now)

variable {history : List Event} {p start : WalletProvider} {restarts : Bool} {begun time : Nat}

/-- **How a property of the stores gets past a request**: it survives the end of life cycles, and
holds, in a longer history, of what is recorded with an operation. -/
theorem handle_keeps {P Q : WalletStore → Prop} (occasion : Occasion)
    (request : WalletProviderRequestV2) (hstore : P p.store)
    (hdisk : ∀ store, p.disk = some store → P store)
    (hpruned : P (pruneExpiredLifecycles p.store occasion.now)) (hlonger : ∀ s, P s → Q s)
    (hrecorded : ∀ reply changed, Attempted p occasion request →
      carriedOut p occasion request = [eventOf p occasion request reply] →
      (eventOf p occasion request reply).Leaves changed →
      Q (recordLifecycle request occasion.now changed)) :
    Q (handleWalletContract p occasion request).2.store ∧
      ∀ store, (handleWalletContract p occasion request).2.disk = some store → Q store := by
  rcases handleWalletContract_cases p occasion request with
    ⟨-, hsame | hpast⟩ | ⟨reply, changed, hattempted, hdone, hleaves, hsaved⟩
  · rw [hsame]
    exact ⟨hlonger _ hstore, fun store h => hlonger _ (hdisk store h)⟩
  · rw [hpast]
    exact ⟨hlonger _ hpruned, fun store h => hlonger _ (hdisk store h)⟩
  · have hnew := hrecorded reply changed hattempted hdone hleaves
    obtain ⟨-, hfile, hmemory⟩ := saved_cases p occasion request changed
    rw [hsaved]
    constructor
    · rcases hmemory with hsame | hold | hread
      · exact hsame ▸ hnew
      · exact hold ▸ hlonger _ hpruned
      · exact hlonger _ (hdisk _ hread)
    · intro store hstored
      rcases hfile with hold | hsame
      · exact hlonger _ (hdisk store (hold ▸ hstored))
      · rw [hsame, Option.some.injEq] at hstored
        exact hstored ▸ hnew

theorem SoundProvider.handle (h : SoundProvider history p) (occasion : Occasion)
    (request : WalletProviderRequestV2) :
    SoundProvider (history ++ carriedOut p occasion request)
      (handleWalletContract p occasion request).2 := by
  have hbefore : Sound history (pruneExpiredLifecycles p.store occasion.now) :=
    h.store.kept (Kept.refl _)
  have hkeeps := handle_keeps occasion request h.store h.disk hbefore
    (fun _ hs => hs.mono (List.subset_append_left _ (carriedOut p occasion request)))
    fun reply changed hattempted hdone hleaves => by
      have hchanged := Sound.advances hbefore <| hleaves.advances hbefore.unique <|
        replay_eq_none_of_answerWithoutEffect hattempted.unanswered
      exact hdone ▸ hchanged.kept (Kept.pruned changed.approvalRequests occasion.now)
  exact ⟨hkeeps.1, hkeeps.2⟩

/-- What was carried out at some time in a run. -/
structure Occurred (history : List Event) (e : Event) : Prop where
  leaves : ∃ after, e.Leaves after
  sound : Sound history e.store

theorem Occurred.mono {history later : List Event} {e : Event} (h : Occurred history e)
    (hsub : history ⊆ later) : Occurred later e := ⟨h.leaves, h.sound.mono hsub⟩

/-- **What is stored in a run came about by what was carried out in it.** -/
theorem Run.sound (hrun : Run restarts start begun history time p)
    (hstart : SoundProvider [] start) : SoundProvider history p := by
  induction hrun with
  | start => exact hstart
  | request _ occasion request _ _ _ _ ih => exact ih.handle occasion request
  | restart _ _ storageKey fate now _ ih => exact SoundProvider.init ih.disk storageKey fate now

theorem Run.occurred (hrun : Run restarts start begun history time p)
    (hstart : SoundProvider [] start) : ∀ e ∈ history, Occurred history e := by
  induction hrun with
  | start => exact fun _ he => absurd he List.not_mem_nil
  | @request history time time' p hrun occasion request _ _ _ _ ih =>
    intro e he
    have hsub : history ⊆ history ++ carriedOut p occasion request :=
      List.subset_append_left _ _
    rcases List.mem_append.mp he with hold | hnew
    · exact (ih e hold).mono hsub
    · rcases handleWalletContract_cases p occasion request with
        ⟨hnone, -⟩ | ⟨reply, changed, -, hdone, hleaves, -⟩
      · exact absurd (hnone ▸ hnew) List.not_mem_nil
      · have hsame := List.mem_singleton.mp (hdone ▸ hnew)
        have hbefore : Sound history (eventOf p occasion request reply).store :=
          (hrun.sound hstart).store.kept (Kept.refl _)
        subst hsame
        exact ⟨⟨changed, hleaves⟩, hbefore.mono hsub⟩
  | restart _ _ _ _ _ _ ih => exact ih

/-- A request that is carried out and saved, on a clock that stands still for it. -/
theorem Run.saved_step (hrun : Run restarts start begun history time p) {occasion : Occasion}
    {request : WalletProviderRequestV2} {reply : Reply} {changed : WalletStore}
    (hlater : time ≤ occasion.now) (hclock : ∀ i, occasion.circumstances.clock i = occasion.now)
    (hsave : occasion.fate.save = .saved) (h : Attempted p occasion request)
    (hleaves : (eventOf p occasion request reply).Leaves changed) :
    Run restarts start begun (history ++ [eventOf p occasion request reply]) occasion.now
      { p with
        store := recordLifecycle request occasion.now changed
        disk := some (recordLifecycle request occasion.now changed) } := by
  have hstep := hrun.request occasion request hlater (hclock 0).ge
    (fun i j _ => ((hclock i).trans (hclock j).symm).le) fun i => (hclock i).le
  obtain ⟨hdone, hsaved⟩ := handleWalletContract_of_leaves h hleaves hsave
  rw [hdone, hsaved] at hstep
  exact hstep

/-- What comes before an event in a run is a run, and the event is what is carried out next. -/
theorem Run.before (hrun : Run restarts start begun history time p) {before after : List Event}
    {e : Event} (h : history = before ++ e :: after) :
    ∃ time' p' occasion request reply changed, Run restarts start begun before time' p' ∧
      Attempted p' occasion request ∧ e = eventOf p' occasion request reply ∧
      e.Leaves changed := by
  induction hrun generalizing after with
  | start => cases before <;> cases h
  | @request history time time' p hrun occasion request _ _ _ _ ih =>
    rcases handleWalletContract_cases p occasion request with
      ⟨hnone, -⟩ | ⟨reply, changed, hattempted, hdone, hleaves, -⟩
    · rw [hnone, List.append_nil] at h
      exact ih h
    · rw [hdone] at h
      rcases List.eq_nil_or_concat after with rfl | ⟨rest, last, rfl⟩
      · obtain ⟨rfl, hlast⟩ := List.append_inj' h rfl
        cases hlast
        exact ⟨time, p, occasion, request, reply, changed, hrun, hattempted, rfl, hleaves⟩
      · rw [List.concat_eq_append, ← List.cons_append, ← List.append_assoc] at h
        exact ih (List.append_inj' h rfl).1
  | restart _ _ _ _ _ _ ih => exact ih h

end

end

end ElastosRuntime.Wallet
