/-
# What becomes of an approval

The moves an approval can make (`Moves`), what each operation does to the stored approvals, and the
runs of a provider with the record of what was carried out in them (`Run`).

An operation changes at most one approval, beside marking those whose time is up and dropping old
ones; `Explains` says which, by what right, and what the reply tells of it.  Every invariant of the
stored approvals is derived from `dispatch_explains`.
-/
import ElastosRuntime.Wallet.Provider
import Mathlib.Logic.Relation

namespace ElastosRuntime.Wallet

open Contracts Text WalletCurve WalletSigner Records Streams Streams.Effect Relation

/-! ## 1. Moves -/

/-- An approval as it was asked for: what no operation changes. -/
def WalletApprovalRequest.asked (request : WalletApprovalRequest) : WalletApprovalRequest :=
  { request with
    status := .pending
    resolvedAt := none
    rejectionReason := none
    approvedAt := none
    approvalReason := none
    completedAt := none
    signatureReceipt := none
    signedResult := none
    validatedChainOutcome := none }

/-- One move of an approval. -/
inductive Moves : WalletApprovalRequest → WalletApprovalRequest → Prop
  | expired {a : WalletApprovalRequest} {now : Nat} (hopen : a.status.isOpen = true)
      (helapsed : a.expiresAt ≤ now) :
      Moves a { a with
        status := .expired
        resolvedAt := some now }
  | rejected {a : WalletApprovalRequest} {now : Nat} {reason : String}
      (hpending : a.status = .pending) : Moves a (a.reject now reason)
  | approved {a : WalletApprovalRequest} {now : Nat} {reason : String}
      (hpending : a.status = .pending) (hunexpired : now < a.expiresAt) :
      Moves a (a.approve now reason)
  | completed {a : WalletApprovalRequest} {now : Nat} {receipt : WalletSignatureReceipt}
      {signedResult : Option Json} (happroved : a.status = .approved)
      (hunexpired : now < a.expiresAt) : Moves a (a.complete now receipt signedResult)
  | attached {a : WalletApprovalRequest} {outcome : ValidatedChainOutcomeV1}
      (hcompleted : a.status = .completed) (hintent : a.intent = "transaction_intent")
      (hfirst : a.validatedChainOutcome = none) : Moves a (a.attach outcome)

variable {a b : WalletApprovalRequest}

theorem Moves.asked_eq (h : Moves a b) : b.asked = a.asked := by
  cases h <;> rfl

theorem asked_eq_of_moves (h : ReflTransGen Moves a b) : b.asked = a.asked := by
  induction h with
  | refl => rfl
  | tail _ hlast ih => exact hlast.asked_eq.trans ih

/-- Neither pending nor approved. -/
def ApprovalStatus.isTerminal (status : ApprovalStatus) : Bool := !status.isOpen

/-- **A terminal approval changes no more**, but for the one outcome of a completed transaction. -/
theorem eq_of_moves_of_isTerminal (h : ReflTransGen Moves a b)
    (hterminal : a.status.isTerminal = true) :
    b = a ∨ (a.status = .completed ∧ a.intent = "transaction_intent" ∧
      a.validatedChainOutcome = none ∧ ∃ outcome, b = a.attach outcome) := by
  induction h with
  | refl => exact Or.inl rfl
  | @tail c d _ hlast ih =>
    have hsame : c.status = a.status := by
      rcases ih with rfl | ⟨-, -, -, _, rfl⟩
      · rfl
      · rfl
    have hclosed : c.status.isOpen = false := by
      rw [hsame]
      exact Bool.not_eq_true' _ ▸ hterminal
    cases hlast with
    | expired hopen => exact absurd hopen (by rw [hclosed]; exact Bool.false_ne_true)
    | rejected hpending | approved hpending => exact absurd hclosed (by rw [hpending]; decide)
    | completed happroved => exact absurd hclosed (by rw [happroved]; decide)
    | attached hcompleted hintent hfirst =>
      rcases ih with rfl | ⟨-, -, -, _, rfl⟩
      · exact Or.inr ⟨hcompleted, hintent, hfirst, _, rfl⟩
      · cases hfirst

/-- The approval is marked if its time is up, and otherwise as it was. -/
inductive Ages (a : WalletApprovalRequest) : WalletApprovalRequest → Prop
  | same : Ages a a
  | expired {now : Nat} (hopen : a.status.isOpen = true) (helapsed : a.expiresAt ≤ now) :
      Ages a { a with
        status := .expired
        resolvedAt := some now }

namespace Ages

variable {a b c : WalletApprovalRequest}

theorem moves (h : Ages a b) : ReflTransGen Moves a b := by
  cases h with
  | same => exact ReflTransGen.refl
  | expired hopen helapsed => exact ReflTransGen.single (Moves.expired hopen helapsed)

theorem trans (h : Ages a b) (h' : Ages b c) : Ages a c := by
  cases h with
  | same => exact h'
  | expired hopen helapsed =>
    cases h' with
    | same => exact expired hopen helapsed
    | expired hopen' => cases hopen'

/-- What is still open has not been marked. -/
theorem eq_of_isOpen (h : Ages a b) (hopen : b.status.isOpen = true) : b = a := by
  cases h with
  | same => rfl
  | expired => cases hopen

theorem requestId_eq (h : Ages a b) : b.requestId = a.requestId := by
  cases h <;> rfl

end Ages

theorem ages_expireApprovalIfElapsed (a : WalletApprovalRequest) (now : Nat) :
    Ages a (expireApprovalIfElapsed a now) := by
  rw [expireApprovalIfElapsed]
  split
  · next h => exact Ages.expired h.1 h.2
  · exact Ages.same

@[simp] theorem expireApprovalIfElapsed_idem (a : WalletApprovalRequest) (now : Nat) :
    expireApprovalIfElapsed (expireApprovalIfElapsed a now) now = expireApprovalIfElapsed a now := by
  by_cases h : a.status.isOpen = true ∧ a.expiresAt ≤ now
  · rw [expireApprovalIfElapsed, expireApprovalIfElapsed, if_pos h]
    exact if_neg fun hexpired => Bool.false_ne_true hexpired.1
  · have hsame : expireApprovalIfElapsed a now = a := if_neg h
    rw [hsame, hsame]

/-- What stands pending or approved behind the marking has time left. -/
theorem unexpired_of_isOpen {now : Nat}
    (hopen : (expireApprovalIfElapsed a now).status.isOpen = true) :
    expireApprovalIfElapsed a now = a ∧ now < a.expiresAt := by
  have hsame := (ages_expireApprovalIfElapsed a now).eq_of_isOpen hopen
  refine ⟨hsame, Nat.lt_of_not_le fun helapsed => ?_⟩
  rw [hsame] at hopen
  rw [expireApprovalIfElapsed, if_pos ⟨hopen, helapsed⟩] at hsame
  rw [← hsame] at hopen
  cases hopen

/-! ## 2. Stored approvals -/

/-- Of the approvals behind an operation each one stood there before, marked if its time is up, but
for the one that the operation has changed. -/
structure Kept (before after : List WalletApprovalRequest)
    (change : Option WalletApprovalRequest) : Prop where
  members : ∀ b ∈ after, (∃ a ∈ before, Ages a b) ∨ change = some b
  ids : (after.map WalletApprovalRequest.requestId).Subperm
    (before.map WalletApprovalRequest.requestId)

namespace Kept

variable {l l' l'' : List WalletApprovalRequest} {change : Option WalletApprovalRequest}

theorem refl (l : List WalletApprovalRequest) : Kept l l none :=
  ⟨fun b hb => Or.inl ⟨b, hb, Ages.same⟩, List.Subperm.refl _⟩

theorem pruned (l : List WalletApprovalRequest) (now : Nat) :
    Kept l (pruneApprovals l now) none := by
  refine ⟨fun b hb => ?_, ?_⟩
  · obtain ⟨a, ha, rfl⟩ := mem_of_mem_pruneApprovals hb
    exact Or.inl ⟨a, ha, ages_expireApprovalIfElapsed a now⟩
  · have hids : (l.map fun request => expireApprovalIfElapsed request now).map
        WalletApprovalRequest.requestId = l.map WalletApprovalRequest.requestId := by
      rw [List.map_map]
      exact List.map_congr_left fun a _ => (ages_expireApprovalIfElapsed a now).requestId_eq
    obtain ⟨m, hperm, hsub⟩ := pruneApprovals_subperm l now
    exact hids ▸ ⟨m.map _, hperm.map _, hsub.map _⟩

theorem trans (h : Kept l l' none) (h' : Kept l' l'' change) : Kept l l'' change := by
  refine ⟨fun c hc => ?_, h'.ids.trans h.ids⟩
  rcases h'.members c hc with ⟨b, hb, hbc⟩ | hchange
  · rcases h.members b hb with ⟨a, ha, hab⟩ | hnone
    · exact Or.inl ⟨a, ha, hab.trans hbc⟩
    · cases hnone
  · exact Or.inr hchange

/-- One approval takes the place of the one that was found. -/
theorem modifyFirst {p : WalletApprovalRequest → Bool} {found b : WalletApprovalRequest}
    (h : Kept l l' none) (hfind : l'.find? p = some found) (hid : b.requestId = found.requestId) :
    Kept l (Records.modifyFirst p (fun _ => b) l') (some b) := by
  refine h.trans ⟨fun c hc => ?_, ?_⟩
  · rcases mem_of_mem_modifyFirst hc with hmem | ⟨_, -, rfl⟩
    · exact Or.inl ⟨c, hmem, Ages.same⟩
    · exact Or.inr rfl
  · rw [map_modifyFirst fun a ha => by rw [Option.some.inj (ha.symm.trans hfind), hid]]

theorem unique (h : Kept l l' change) (hunique : Unique WalletApprovalRequest.requestId l) :
    Unique WalletApprovalRequest.requestId l' := by
  obtain ⟨m, hperm, hsub⟩ := h.ids
  exact hperm.nodup_iff.mp (List.Nodup.sublist hsub hunique)

end Kept

theorem eq_of_isRequest {principalId requestId : String} {request : WalletApprovalRequest}
    (h : isRequest principalId requestId request = true) :
    request.principalId = principalId ∧ request.requestId = requestId := by
  rw [isRequest, Bool.and_eq_true, beq_iff_eq, beq_iff_eq] at h
  exact h

section

variable {l : List WalletApprovalRequest} {s : WalletStore} {principalId requestId : String}
  {found b : WalletApprovalRequest}

/-- The approval that was found is found again behind the change. -/
theorem find?_setApproval
    (hfind : s.approvalRequests.find? (isRequest principalId requestId) = some found)
    (hasked : b.asked = found.asked) :
    (setApproval b s).approvalRequests.find? (isRequest principalId requestId) = some b := by
  have hfound := List.find?_some hfind
  have hp : b.principalId = principalId := (congrArg (·.principalId) hasked).trans
    (eq_of_isRequest hfound).1
  have hid : b.requestId = requestId := (congrArg (·.requestId) hasked).trans
    (eq_of_isRequest hfound).2
  rw [setApproval, hp, hid]
  refine find?_modifyFirst hfind ?_
  rw [isRequest, hp, hid, beq_self_eq_true, beq_self_eq_true, Bool.and_self]

theorem Kept.setApproval (h : Kept l s.approvalRequests none)
    (hfind : s.approvalRequests.find? (isRequest principalId requestId) = some found)
    (hasked : b.asked = found.asked) : Kept l (setApproval b s).approvalRequests (some b) := by
  have hfound := eq_of_isRequest (List.find?_some hfind)
  have hp : b.principalId = principalId := (congrArg (·.principalId) hasked).trans hfound.1
  have hid : b.requestId = requestId := (congrArg (·.requestId) hasked).trans hfound.2
  have hfind' : s.approvalRequests.find? (isRequest b.principalId b.requestId) = some found := by
    rw [hp, hid, hfind]
  exact h.modifyFirst hfind' (hid.trans hfound.2.symm)

/-- Putting back what was found changes nothing. -/
theorem Kept.setApproval_self (h : Kept l s.approvalRequests none)
    (hfind : s.approvalRequests.find? (isRequest principalId requestId) = some found) :
    Kept l (ElastosRuntime.Wallet.setApproval found s).approvalRequests none := by
  have hset := Kept.setApproval (Kept.refl s.approvalRequests) hfind (b := found) rfl
  refine h.trans ⟨fun c hc => Or.inl ?_, hset.ids⟩
  rcases hset.members c hc with hkept | hchange
  · exact hkept
  · exact ⟨found, List.mem_of_find?_eq_some hfind, Option.some.inj hchange ▸ Ages.same⟩

end

/-- An approval that pruning leaves open was stored, and has time left. -/
theorem open_of_find?_pruneApprovals {l : List WalletApprovalRequest} {now : Nat}
    {p : WalletApprovalRequest → Bool} {found : WalletApprovalRequest}
    (hfind : (pruneApprovals l now).find? p = some found) (hopen : found.status.isOpen = true) :
    found ∈ l ∧ now < found.expiresAt := by
  obtain ⟨a, ha, rfl⟩ := mem_of_mem_pruneApprovals (List.mem_of_find?_eq_some hfind)
  obtain ⟨hsame, hlt⟩ := unexpired_of_isOpen hopen
  rw [hsame]
  exact ⟨ha, hlt⟩

/-! ## 3. What the operations do to them -/

section

variable {storageKey : Option (Bytes 32)} {now : Nat} {s s' : WalletStore}
  {principalId sessionId actor requestId reason : String} {b : WalletApprovalRequest}

theorem rejectApproval_effect
    (h : Does (rejectApproval storageKey now principalId sessionId actor requestId reason) s b s') :
    ∃ a ∈ s.approvalRequests, isRequest principalId requestId a = true ∧
      a.sessionId = sessionId ∧ a.status = .pending ∧ b = a.reject now reason ∧
      Kept s.approvalRequests s'.approvalRequests (some b) := by
  simp only [rejectApproval, does_check, does_reads, does_updates, does_pure, denyIf_eq_ok,
    refuse_eq_ok, okOr_eq_ok, findApproval, id, exists_unit, not_not] at h
  obtain ⟨-, -, a, hfind, hsession, -, hpending, rfl, rfl⟩ := h
  have hopen := open_of_find?_pruneApprovals hfind (by rw [hpending]; rfl)
  exact ⟨a, hopen.1, List.find?_some hfind, hsession, hpending, rfl,
    (Kept.pruned _ now).setApproval hfind rfl⟩

theorem approveConnectorHandoff_effect [Curves] {handoff : Json}
    (h : Does (approveConnectorHandoff storageKey now principalId sessionId actor requestId reason)
      s (b, handoff) s') :
    ∃ a ∈ s.approvalRequests, isRequest principalId requestId a = true ∧
      a.sessionId = sessionId ∧ a.connectorId = some actor ∧ a.status = .pending ∧
      now < a.expiresAt ∧ b = a.approve now reason ∧ externalWalletHandoff b = .ok handoff ∧
      Kept s.approvalRequests s'.approvalRequests (some b) := by
  simp only [approveConnectorHandoff, does_check, does_reads, does_updates, does_pure,
    denyIf_eq_ok, refuse_eq_ok, okOr_eq_ok, findApproval, id, exists_unit, not_not, not_or] at h
  obtain ⟨-, -, a, hfind, hsession, ⟨hconnector, -⟩, hpending, handoff', hhandoff, heq, rfl⟩ := h
  obtain ⟨rfl, rfl⟩ := Prod.mk.inj heq
  have hopen := open_of_find?_pruneApprovals hfind (by rw [hpending]; rfl)
  exact ⟨a, hopen.1, List.find?_some hfind, hsession, hconnector, hpending, hopen.2, rfl, hhandoff,
    (Kept.pruned _ now).setApproval hfind rfl⟩

theorem requireStatus_eq_ok {request : WalletApprovalRequest} {status : ApprovalStatus}
    {message : String} (hne : status ≠ .expired) :
    requireStatus request status message = .ok () ↔ request.status = status := by
  simp only [requireStatus, Codec.bind_eq_ok, denyIf_eq_ok, exists_unit, not_not]
  exact ⟨And.right, fun h => ⟨fun hexpired => hne (h.symm.trans hexpired), h⟩⟩

/-- Marking what pruning has just left changes nothing. -/
theorem expire_of_find?_pruneApprovals {l : List WalletApprovalRequest}
    {p : WalletApprovalRequest → Bool} {found : WalletApprovalRequest}
    (hfind : (pruneApprovals l now).find? p = some found) :
    expireApprovalIfElapsed found now = found := by
  obtain ⟨a, -, rfl⟩ := mem_of_mem_pruneApprovals (List.mem_of_find?_eq_some hfind)
  exact expireApprovalIfElapsed_idem a now

end

section

variable [Curves] [Crypto] [WalletSigner] [BitcoinCrate] [Custody.Aes256Gcm] [SerdeJson]

variable {storageKey : Option (Bytes 32)} {now : Nat} {clock : Nat → Nat} {s s' : WalletStore}
  {principalId sessionId requestId reason : String} {b : WalletApprovalRequest}
  {receipt : WalletSignatureReceipt} {signed : ManagedSignatureOutput}

/-- A managed key has signed the approval: it is the key of the approval's account. -/
structure ManagedSigning (storageKey : Option (Bytes 32)) (s : WalletStore) (now : Nat)
    (a : WalletApprovalRequest) (signingKey : SigningKey) (signed : ManagedSignatureOutput) :
    Prop where
  checked : ∃ account, validateManagedSigning (pruneStore s now) a a.principalId now = .ok account ∧
    managedSigningKeyForAccount storageKey s.managedWallets account = .ok signingKey
  signs : signManagedApproval signingKey a = .ok signed

/-- What an approval is when a managed key has signed it. -/
def signedBy (a : WalletApprovalRequest) (now : Nat) (signed : ManagedSignatureOutput) :
    WalletApprovalRequest :=
  a.complete now
    (receiptOf a a.address a.payloadHash (bytesHash (utf8Bytes signed.authority)) now)
    (managedSignedResult a signed)

theorem signManaged_effect
    (h : Does (signManaged storageKey now principalId requestId) s (b, receipt, signed) s') :
    ∃ a ∈ s.approvalRequests, isRequest principalId requestId a = true ∧
      a.status = .approved ∧ now < a.expiresAt ∧
      (∃ signingKey, ManagedSigning storageKey s now a signingKey signed) ∧
      b = signedBy a now signed ∧ b.signatureReceipt = some receipt ∧ b ∈ s'.approvalRequests ∧
      Kept s.approvalRequests s'.approvalRequests (some b) := by
  simp only [signManaged, does_check, does_reads, does_updates, does_pure, refuse_eq_ok,
    okOr_eq_ok, findApproval, id, exists_unit] at h
  obtain ⟨-, -, -, a, hfind, hstatus, account, haccount, signingKey, hkey, signed', hsigned, heq,
    rfl⟩ := h
  rw [expire_of_find?_pruneApprovals hfind] at *
  obtain ⟨rfl, hrest⟩ := Prod.mk.inj heq
  obtain ⟨rfl, rfl⟩ := Prod.mk.inj hrest
  have happroved := (requireStatus_eq_ok (by decide)).mp hstatus
  have hopen := open_of_find?_pruneApprovals hfind (by rw [happroved]; rfl)
  have hprincipal := (eq_of_isRequest (List.find?_some hfind)).1
  have hfind' := find?_setApproval hfind (b := a) rfl
  have hkept := (Kept.pruned s.approvalRequests now).setApproval_self (s := pruneStore s now) hfind
  refine ⟨a, hopen.1, List.find?_some hfind, happroved, hopen.2,
    ⟨signingKey, ⟨account, hprincipal ▸ haccount, hkey⟩, hsigned⟩, rfl, rfl, ?_, ?_⟩
  · exact List.mem_of_find?_eq_some (find?_setApproval hfind' rfl)
  · exact hkept.setApproval hfind' rfl

theorem approveAndSignManaged_effect
    (hunique : Unique WalletApprovalRequest.requestId s.approvalRequests)
    (h : Does (approveAndSignManaged storageKey clock principalId sessionId requestId reason) s
      (b, receipt, signed) s') :
    ∃ a ∈ s.approvalRequests, isRequest principalId requestId a = true ∧
      a.sessionId = sessionId ∧ isManagedProofType a.proofType = true ∧ a.connectorId = none ∧
      a.status = .pending ∧ clock 0 < a.expiresAt ∧ clock 1 < a.expiresAt ∧
      (∃ signingKey s₁, s₁.managedWallets = s.managedWallets ∧
        ManagedSigning storageKey s₁ (clock 1) (a.approve (clock 0) reason) signingKey signed) ∧
      b = signedBy (a.approve (clock 0) reason) (clock 1) signed ∧
      b.signatureReceipt = some receipt ∧
      Kept s.approvalRequests s'.approvalRequests (some b) := by
  simp only [approveAndSignManaged, does_check, does_reads, does_updates, refuse_eq_ok,
    denyIf_eq_ok, findApproval, okOr_eq_ok, id, exists_unit, not_not, not_or] at h
  obtain ⟨-, -, -, -, -, a, hfind, hstatus, hsession, ⟨hmanaged, hconnector⟩, hsign⟩ := h
  rw [expire_of_find?_pruneApprovals hfind] at *
  have hpending := (requireStatus_eq_ok (by decide)).mp hstatus
  have hopen := open_of_find?_pruneApprovals hfind (by rw [hpending]; rfl)
  -- the store in which the approval is given
  have hfind₁ := find?_setApproval hfind (b := a) rfl
  have hkept₁ := (Kept.pruned s.approvalRequests (clock 0)).setApproval_self
    (s := pruneStore s (clock 0)) hfind
  have hkept₂ := hkept₁.setApproval hfind₁ (b := a.approve (clock 0) reason) rfl
  have hfind₂ := find?_setApproval hfind₁ (b := a.approve (clock 0) reason) rfl
  obtain ⟨c, hc, hrequest, happroved, hlt, ⟨signingKey, hsigning⟩, rfl, hreceipt, hmem, hkept₃⟩ :=
    signManaged_effect hsign
  have hunique₂ := hkept₂.unique hunique
  have hsame : c = a.approve (clock 0) reason :=
    hunique₂.eq hc (List.mem_of_find?_eq_some hfind₂) <|
      (eq_of_isRequest hrequest).2.trans (eq_of_isRequest (List.find?_some hfind₂)).2.symm
  subst hsame
  refine ⟨a, hopen.1, List.find?_some hfind, hsession, by simpa using hmanaged,
    by simpa using hconnector, hpending, hopen.2, hlt,
    ⟨signingKey, setApproval (a.approve (clock 0) reason) (setApproval a (pruneStore s (clock 0))),
      rfl, hsigning⟩, rfl, hreceipt, ⟨fun d hd => ?_, hkept₃.ids.trans hkept₂.ids⟩⟩
  -- what stood approved in between is what has been signed
  rcases hkept₃.members d hd with ⟨c, hc, hage⟩ | hchange
  · rcases hkept₂.members c hc with ⟨e, he, hage'⟩ | happroved
    · exact Or.inl ⟨e, he, hage'.trans hage⟩
    · rw [← Option.some.inj happroved] at hage
      exact Or.inr <| congrArg some <|
        (hkept₃.unique hunique₂).eq hmem hd hage.requestId_eq.symm
  · exact Or.inr hchange

/-- What `request_approval` has found in order when it accepts. -/
structure Accepted (storageKey : Option (Bytes 32)) (s : WalletStore) (now : Nat)
    (input : SignatureRequestInput) (account : LinkedAccount) : Prop where
  valid : input.validate now = .ok ()
  found : accountForSignature s input = .ok account
  canSign : ensureManagedAccountCanSign storageKey s account = .ok ()
  supported : isManagedProofType account.proofType = true →
    managedSigningIntentIsSupported input.intent = true
  bitcoin : account.chainNamespace = BITCOIN_MAINNET_CHAIN_NAMESPACE →
    input.intent = "bitcoin_bip322_proof"
  payload : validateRequestedPayload (pruneStore s now) input account now = .ok ()
  room : (pruneApprovals s.approvalRequests now).countP (fun request =>
    request.principalId == input.principalId && approvalAuthorityIsActive request now) <
      MAX_ACTIVE_APPROVAL_REQUESTS_PER_PRINCIPAL

theorem requestApproval_effect {input : SignatureRequestInput}
    (h : Does (requestApproval storageKey now input) s b s') :
    ∃ account, Accepted storageKey s now input account ∧
      b = newApprovalRequest input account now ∧
      s'.approvalRequests = pruneApprovals s.approvalRequests now ++ [b] := by
  simp only [requestApproval, does_check, does_reads, does_updates, does_pure, refuse_eq_ok,
    denyIf_eq_ok, id, exists_unit] at h
  obtain ⟨-, hvalid, account, haccount, hsign, hsupported, hbitcoin, hpayload, hroom, rfl, rfl⟩ := h
  refine ⟨account, ⟨hvalid, haccount, hsign, ?_, ?_, hpayload, Nat.lt_of_not_le hroom⟩, rfl, rfl⟩
  · intro hmanaged
    exact Bool.of_not_eq_false fun hnot => hsupported ⟨hmanaged, hnot⟩
  · intro hchain
    exact Classical.not_not.mp fun hnot => hbitcoin ⟨hchain, hnot⟩

theorem requestProtectedContentRightsSignature_effect {request : WalletProviderRequestV2}
    {accountId canonicalRightsRequestHex : String}
    (h : Does (requestProtectedContentRightsSignature storageKey clock request accountId
      canonicalRightsRequestHex reason) s b s') :
    ∃ account expiresAt, Accepted storageKey s (clock 1) (rightsSignatureInput request account
        accountId canonicalRightsRequestHex reason expiresAt) account ∧
      b = newApprovalRequest (rightsSignatureInput request account accountId
        canonicalRightsRequestHex reason expiresAt) account (clock 1) ∧
      s'.approvalRequests = pruneApprovals s.approvalRequests (clock 1) ++ [b] := by
  simp only [requestProtectedContentRightsSignature, does_check, does_reads, refuse_eq_ok,
    okOr_eq_ok, id, exists_unit] at h
  obtain ⟨-, rights, -, account, haccount, -, hrequest⟩ := h
  obtain ⟨found, haccepted, rfl, hstored⟩ := requestApproval_effect hrequest
  have hsame : found = account := by
    have hfound := haccepted.found
    simp only [accountForSignature, Codec.bind_eq_ok, okOr_eq_ok, denyIf_eq_ok, exists_unit,
      pure_eq_ok] at hfound
    obtain ⟨again, hagain, -, rfl⟩ := hfound
    exact Option.some.inj (hagain.symm.trans haccount)
  subst hsame
  exact ⟨found, _, haccepted, rfl, hstored⟩

omit [Custody.Aes256Gcm] in
theorem completeConnectorHandoff_effect {v : ConnectorHandoffCompletion}
    (h : Does (completeConnectorHandoff storageKey now v) s (b, receipt) s') :
    ∃ a ∈ s.approvalRequests, isRequest v.principalId v.requestId a = true ∧
      a.sessionId = v.sessionId ∧ a.connectorId = some v.connectorId ∧
      a.payloadHash = v.payloadHash ∧ a.status = .approved ∧ now < a.expiresAt ∧
      (∃ signatureHash signedResult,
        completionEvidence (pruneStore s now) a v now = .ok (signatureHash, signedResult) ∧
        receipt = receiptOf a v.signer v.payloadHash signatureHash now ∧
        b = a.complete now receipt signedResult) ∧
      Kept s.approvalRequests s'.approvalRequests (some b) := by
  simp only [completeConnectorHandoff, does_check, does_reads, does_updates, does_pure,
    refuse_eq_ok, findApproval, okOr_eq_ok, id, exists_unit] at h
  obtain ⟨-, -, a, hfind, htarget, evidence, hevidence, heq, rfl⟩ := h
  rw [expire_of_find?_pruneApprovals hfind] at *
  obtain ⟨rfl, rfl⟩ := Prod.mk.inj heq
  simp only [validateCompletionTarget, Codec.bind_eq_ok, denyIf_eq_ok, exists_unit, not_not]
    at htarget
  obtain ⟨hstatus, hsession, hconnector, hpayload, -⟩ := htarget
  have happroved := (requireStatus_eq_ok (by decide)).mp hstatus
  have hopen := open_of_find?_pruneApprovals hfind (by rw [happroved]; rfl)
  have hkept := (Kept.pruned s.approvalRequests now).setApproval_self (s := pruneStore s now) hfind
  exact ⟨a, hopen.1, List.find?_some hfind, hsession, hconnector, hpayload, happroved, hopen.2,
    ⟨_, _, hevidence, rfl, rfl⟩, hkept.setApproval (find?_setApproval hfind rfl) rfl⟩

omit [Curves] [WalletSigner] [BitcoinCrate] [Custody.Aes256Gcm] in
theorem attachValidatedChainOutcome_effect {authority : WalletAuthorityV2}
    {outcome : ValidatedChainOutcomeV1}
    (h : Does (attachValidatedChainOutcome storageKey authority outcome) s b s') :
    ∃ a ∈ s.approvalRequests, a.requestId = outcome.approvalRequestId ∧
      validateChainOutcomeTarget a authority outcome = .ok () ∧
      ((a.validatedChainOutcome = some outcome ∧ b = a ∧ s' = s) ∨
        (a.validatedChainOutcome = none ∧ b = a.attach outcome ∧
          Kept s.approvalRequests s'.approvalRequests (some b))) := by
  simp only [attachValidatedChainOutcome, does_check, does_reads, refuse_eq_ok, okOr_eq_ok, id,
    exists_unit] at h
  obtain ⟨-, a, hfind, htarget, h⟩ := h
  have hid : a.requestId = outcome.approvalRequestId := by
    simpa using List.find?_some hfind
  refine ⟨a, List.mem_of_find?_eq_some hfind, hid, htarget, ?_⟩
  cases hstored : a.validatedChainOutcome with
  | some stored =>
    simp only [hstored, does_check, does_pure, denyIf_eq_ok, exists_unit, not_not] at h
    obtain ⟨rfl, rfl, rfl⟩ := h
    exact Or.inl ⟨rfl, rfl, rfl⟩
  | none =>
    simp only [hstored, does_updates, does_pure] at h
    obtain ⟨rfl, rfl⟩ := h
    exact Or.inr ⟨rfl, rfl, (Kept.refl _).modifyFirst hfind rfl⟩

end

/-! ## 4. Operations on accounts, challenges and proofs -/

section

variable {α β : Type} {U : WalletStore → WalletStore → Prop} {T : Nat}

/-- A relation between stores that is kept by changes of the kind `U` and by pruning no later than
`T`. -/
structure Frame (U : WalletStore → WalletStore → Prop) (T : Nat)
    (R : WalletStore → WalletStore → Prop) : Prop where
  refl : ∀ s, R s s
  trans : ∀ {s t u}, R s t → R t u → R s u
  same : ∀ {s t}, U s t → R s t
  pruned : ∀ s {now}, now ≤ T → R s (pruneStore s now)

/-- Approvals and life cycles are as they were. -/
def Untouched (s t : WalletStore) : Prop :=
  t.approvalRequests = s.approvalRequests ∧ t.consumedLifecycles = s.consumedLifecycles

/-- Whatever becomes of the operation, it makes only such changes, and prunes. -/
def Spares (U : WalletStore → WalletStore → Prop) (T : Nat) (x : Operation α) : Prop :=
  ∀ ⦃R⦄, Frame U T R → Extends R x

namespace Spares

variable {x : Operation α}

theorem bind {f : α → Operation β} (hx : Spares U T x) (hf : ∀ a, Spares U T (f a)) :
    Spares U T (x >>= f) :=
  fun _ hframe => Extends.bind hframe.trans (hx hframe) fun a => hf a hframe

theorem check (x : Except Refusal α) : Spares U T (liftM x) :=
  fun _ hframe => Extends.lift hframe.refl x

theorem pure (a : α) : Spares U T (Pure.pure a) := fun _ hframe s => hframe.refl s

theorem reading (f : WalletStore → α) : Spares U T (Effect.reads f) :=
  fun _ hframe s => hframe.refl s

theorem changing {f : WalletStore → WalletStore} (h : ∀ s, U s (f s)) :
    Spares U T (Effect.updates f) := fun _ hframe s => hframe.same (h s)

theorem changing_last {f : WalletStore → WalletStore} {a : α} (h : ∀ s, U s (f s)) :
    Spares U T (Effect.updates f >>= fun _ => Pure.pure a) := (changing h).bind fun _ => pure a

theorem prunes {now : Nat} (h : now ≤ T) : Spares U T (Effect.updates (pruneStore · now)) :=
  fun _ hframe s => hframe.pruned s h

theorem extends_ {R : WalletStore → WalletStore → Prop} {a : α} {s s' : WalletStore}
    (h : Spares U T x) (hframe : Frame U T R) (hdoes : Does x s a s') : R s s' := by
  have hkept := h hframe s
  rw [hdoes] at hkept
  exact hkept

theorem kept {a : α} {s s' : WalletStore} (h : Spares Untouched T x) (hdoes : Does x s a s') :
    Kept s.approvalRequests s'.approvalRequests none := by
  have hframe : Frame Untouched T fun s s' =>
      Kept s.approvalRequests s'.approvalRequests none :=
    ⟨fun s => Kept.refl s.approvalRequests, Kept.trans, fun h => h.1 ▸ Kept.refl _,
      fun s now _ => Kept.pruned s.approvalRequests now⟩
  exact h.extends_ hframe hdoes

end Spares

end

section

open Spares

variable {storageKey : Option (Bytes 32)} {now T : Nat}

theorem spares_linkAccount (input : LinkAccountInput) :
    Spares Untouched T (linkAccount storageKey now input) := by
  refine (check _).bind fun _ => (check _).bind fun _ => ?_
  exact changing_last fun _ => ⟨rfl, rfl⟩

theorem spares_revokeAccount (principalId accountId : String) :
    Spares Untouched T (revokeAccount storageKey now principalId accountId) := by
  refine (check _).bind fun _ => (check _).bind fun _ => (check _).bind fun _ => ?_
  refine (reading _).bind fun _ => (check _).bind fun _ => ?_
  exact changing_last fun _ => ⟨rfl, rfl⟩

theorem spares_renameAccount (principalId accountId label : String) :
    Spares Untouched T (renameAccount storageKey principalId accountId label) := by
  refine (check _).bind fun _ => (check _).bind fun _ => (check _).bind fun _ => ?_
  refine (check _).bind fun _ => (check _).bind fun _ => ?_
  refine (reading _).bind fun _ => (check _).bind fun _ => ?_
  exact changing_last fun _ => ⟨rfl, rfl⟩

theorem spares_setDefaultAccount (input : SetDefaultAccountInput) :
    Spares Untouched T (setDefaultAccount storageKey now input) := by
  refine (check _).bind fun _ => (check _).bind fun _ => (reading _).bind fun _ => ?_
  refine (check _).bind fun _ => (check _).bind fun _ => ?_
  exact changing_last fun _ => ⟨rfl, rfl⟩

section

variable [Crypto] [WalletSigner] [BitcoinCrate] [Custody.Aes256Gcm] {at_ : Circumstances}

theorem spares_addManagedAccount (input : CreateManagedAccountInput) (proofType : String)
    (reusable : Option SigningKey) :
    Spares Untouched T (addManagedAccount storageKey at_ input proofType reusable) := by
  refine (reading _).bind fun _ => (check _).bind fun _ => (check _).bind fun _ => ?_
  exact changing_last fun _ => ⟨rfl, rfl⟩

theorem spares_createManagedAccount (input : CreateManagedAccountInput) :
    Spares Untouched T (createManagedAccount storageKey at_ input) := by
  refine (check _).bind fun _ => (check _).bind fun _ => ?_
  refine (check _).bind fun _ => (check _).bind fun _ => ?_
  split
  · exact spares_addManagedAccount input _ none
  · refine (reading _).bind fun _ => (check _).bind fun _ => ?_
    split
    · exact Spares.pure _
    · exact spares_addManagedAccount input _ _

theorem spares_importManagedRecoveryKey (nonce : Bytes 12)
    (input : ImportManagedRecoveryKeyInput) :
    Spares Untouched T (importManagedRecoveryKey storageKey nonce now input) := by
  refine (check _).bind fun _ => (check _).bind fun _ => (check _).bind fun _ => ?_
  refine (check _).bind fun _ => (check _).bind fun _ => (reading _).bind fun _ => ?_
  exact changing_last fun _ => ⟨rfl, rfl⟩

theorem spares_importManagedRecoveryKeys (principalId : String)
    (entries : List ManagedRecoveryKeyEntryV1) :
    ∀ i, Spares Untouched T (importManagedRecoveryKeys storageKey at_ principalId i entries) := by
  induction entries with
  | nil => exact fun _ => Spares.pure _
  | cons entry rest ih =>
    intro i
    refine (spares_importManagedRecoveryKey _ _).bind fun _ => ?_
    exact (ih (i + 1)).bind fun _ => Spares.pure _

theorem spares_importManagedRecoverySet [SerdeJson] [DerivedSerialize] (principalId : String)
    (recoverySet : ManagedRecoverySetV1) :
    Spares Untouched T (importManagedRecoverySet storageKey at_ principalId recoverySet) := by
  refine (check _).bind fun _ => (check _).bind fun _ => ?_
  refine (check _).bind fun _ => (check _).bind fun _ => ?_
  exact spares_importManagedRecoveryKeys principalId _ 0

end

section

variable [WalletSigner] {at_ : Circumstances} {U : WalletStore → WalletStore → Prop}

theorem spares_challenge [ElastosAuth] (hU : ∀ s l, U s { s with challenges := l })
    (hT : at_.clock 0 ≤ T) (input : ChallengeInput) :
    Spares U T (challenge storageKey at_ input) := by
  refine (check _).bind fun _ => (check _).bind fun _ => (prunes hT).bind fun _ => ?_
  exact changing_last fun _ => hU _ _

theorem spares_bitcoinChallenge [Crypto] [BitcoinCrate]
    (hU : ∀ s l, U s { s with bitcoinChallenges := l }) (hT : at_.clock 0 ≤ T)
    (input : BitcoinChallengeInput) : Spares U T (bitcoinChallenge storageKey at_ input) := by
  refine (check _).bind fun _ => (check _).bind fun _ => (prunes hT).bind fun _ => ?_
  refine Spares.bind (changing ?_) fun _ => ?_
  · exact fun _ => hU _ _
  · exact (check _).bind fun _ => Spares.pure _

theorem spares_verifyProof [ElastosAuth] (hU : ∀ s l, U s { s with challenges := l })
    (message signature : String) :
    Spares U T (verifyProof storageKey now message signature) := by
  refine (check _).bind fun _ => (check _).bind fun _ => (reading _).bind fun _ => ?_
  refine (check _).bind fun _ => (check _).bind fun _ => (check _).bind fun _ => ?_
  exact changing_last fun _ => hU _ _

theorem spares_verifyContractProof [Crypto] [ElastosAuth]
    (hU : ∀ s l, U s { s with challenges := l }) (message signature : String)
    (evidence : Erc1271ProofEvidenceV1) :
    Spares U T (verifyContractProof storageKey now message signature evidence) := by
  refine (check _).bind fun _ => (check _).bind fun _ => (reading _).bind fun _ => ?_
  refine (check _).bind fun _ => (check _).bind fun _ => (check _).bind fun _ => ?_
  exact changing_last fun _ => hU _ _

theorem spares_verifyBitcoinProof [Crypto] [BitcoinCrate]
    (hU : ∀ s l, U s { s with bitcoinChallenges := l }) (message signature signatureType : String)
    (publicKey : Option String) :
    Spares U T (verifyBitcoinProof storageKey now message signature signatureType publicKey) := by
  refine (check _).bind fun _ => (check _).bind fun _ => (reading _).bind fun _ => ?_
  refine (check _).bind fun _ => (check _).bind fun _ => (check _).bind fun _ => ?_
  refine (check _).bind fun _ => (check _).bind fun _ => (check _).bind fun _ => ?_
  exact changing_last fun _ => hU _ _

end

/-! ## 5. Operations on approvals -/

section

variable {U : WalletStore → WalletStore → Prop} (hU : ∀ s l, U s { s with approvalRequests := l })

include hU

theorem spares_rejectApproval (hT : now ≤ T)
    (principalId sessionId actor requestId reason : String) :
    Spares U T (rejectApproval storageKey now principalId sessionId actor requestId reason) := by
  refine (check _).bind fun _ => (check _).bind fun _ => (prunes hT).bind fun _ => ?_
  refine (reading _).bind fun _ => (check _).bind fun _ => (check _).bind fun _ => ?_
  refine (check _).bind fun _ => (check _).bind fun _ => ?_
  exact changing_last fun _ => hU _ _

theorem spares_approveConnectorHandoff [Curves] (hT : now ≤ T)
    (principalId sessionId actor requestId reason : String) :
    Spares U T
      (approveConnectorHandoff storageKey now principalId sessionId actor requestId reason) := by
  refine (check _).bind fun _ => (check _).bind fun _ => (prunes hT).bind fun _ => ?_
  refine (reading _).bind fun _ => (check _).bind fun _ => (check _).bind fun _ => ?_
  refine (check _).bind fun _ => (check _).bind fun _ => ?_
  refine Spares.bind (changing ?_) fun _ => ?_
  · exact fun _ => hU _ _
  · exact (check _).bind fun _ => Spares.pure _

variable [Curves] [Crypto] [WalletSigner] [BitcoinCrate] [Custody.Aes256Gcm] [SerdeJson]

theorem spares_requestApproval (hT : now ≤ T) (input : SignatureRequestInput) :
    Spares U T (requestApproval storageKey now input) := by
  refine (check _).bind fun _ => (check _).bind fun _ => (prunes hT).bind fun _ => ?_
  refine (reading _).bind fun _ => (check _).bind fun _ => (check _).bind fun _ => ?_
  refine (check _).bind fun _ => (check _).bind fun _ => ?_
  refine (check _).bind fun _ => (check _).bind fun _ => ?_
  exact changing_last fun _ => hU _ _

theorem spares_requestProtectedContentRightsSignature {clock : Nat → Nat} (hT : clock 1 ≤ T)
    (request : WalletProviderRequestV2) (accountId canonicalRightsRequestHex reason : String) :
    Spares U T (requestProtectedContentRightsSignature storageKey clock request accountId
      canonicalRightsRequestHex reason) := by
  refine (check _).bind fun _ => (check _).bind fun _ => (reading _).bind fun _ => ?_
  refine (check _).bind fun _ => (check _).bind fun _ => ?_
  exact spares_requestApproval hU hT _

theorem spares_signManaged (hT : now ≤ T) (principalId requestId : String) :
    Spares U T (signManaged storageKey now principalId requestId) := by
  refine (check _).bind fun _ => (check _).bind fun _ => (check _).bind fun _ => ?_
  refine (prunes hT).bind fun _ => (reading _).bind fun _ => (check _).bind fun _ => ?_
  refine Spares.bind (changing fun _ => hU _ _) fun _ => (check _).bind fun _ => ?_
  refine (check _).bind fun _ => (check _).bind fun _ => (check _).bind fun _ => ?_
  exact changing_last fun _ => hU _ _

theorem spares_approveAndSignManaged {clock : Nat → Nat} (hT : clock 0 ≤ T) (hT' : clock 1 ≤ T)
    (principalId sessionId requestId reason : String) :
    Spares U T
      (approveAndSignManaged storageKey clock principalId sessionId requestId reason) := by
  refine (check _).bind fun _ => (check _).bind fun _ => (check _).bind fun _ => ?_
  refine (check _).bind fun _ => (check _).bind fun _ => (prunes hT).bind fun _ => ?_
  refine (reading _).bind fun _ => (check _).bind fun _ => ?_
  refine Spares.bind (changing fun _ => hU _ _) fun _ => (check _).bind fun _ => ?_
  refine (check _).bind fun _ => (check _).bind fun _ => ?_
  exact Spares.bind (changing fun _ => hU _ _) fun _ => spares_signManaged hU hT' _ _

omit [Custody.Aes256Gcm] in
theorem spares_completeConnectorHandoff (hT : now ≤ T) (v : ConnectorHandoffCompletion) :
    Spares U T (completeConnectorHandoff storageKey now v) := by
  refine (check _).bind fun _ => (check _).bind fun _ => (prunes hT).bind fun _ => ?_
  refine (reading _).bind fun _ => (check _).bind fun _ => ?_
  refine Spares.bind (changing fun _ => hU _ _) fun _ => (check _).bind fun _ => ?_
  exact (check _).bind fun _ => changing_last fun _ => hU _ _

omit [Curves] [WalletSigner] [BitcoinCrate] [Custody.Aes256Gcm] in
theorem spares_attachValidatedChainOutcome (authority : WalletAuthorityV2)
    (outcome : ValidatedChainOutcomeV1) :
    Spares U T (attachValidatedChainOutcome storageKey authority outcome) := by
  refine (check _).bind fun _ => (reading _).bind fun _ => (check _).bind fun _ => ?_
  refine (check _).bind fun _ => ?_
  split
  · exact (check _).bind fun _ => Spares.pure _
  · exact changing_last fun _ => hU _ _

end

end

end ElastosRuntime.Wallet
