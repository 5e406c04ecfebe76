/-
# Approvals of an account that is revoked

Revoking an account leaves the approvals that name it alone.  The managed path looks the account up
before it signs, and so does completing a rights request; completing any other handed-off approval
does not (`approval.rs`).

`Backed` is what holds of every open approval in a run: its account is active, or was revoked while
the approval was open.  `completion_has_account`: what is completed is backed by an active account,
unless its account was revoked while it was open.
-/
import ElastosRuntime.Wallet.AccountChanges
import ElastosRuntime.Wallet.ApprovalStates

namespace ElastosRuntime.Wallet

open Contracts Text WalletCurve WalletSigner Records Streams Streams.Effect Relation

/-! ## 1. Accounts that stay active -/

section

variable {accounts : List LinkedAccount} {principalId accountId : String}

theorem isSome_activeAccount_append (account : LinkedAccount)
    (h : (activeAccount accounts principalId accountId).isSome = true) :
    (activeAccount (accounts ++ [account]) principalId accountId).isSome = true := by
  rw [activeAccount_eq, List.find?_append, ← activeAccount_eq, Option.isSome_or, h, Bool.true_or]

theorem isSome_activeAccount_putAccount {account : LinkedAccount}
    (hactive : account.revokedAt = none)
    (h : (activeAccount accounts principalId accountId).isSome = true) :
    (activeAccount (putAccount account accounts) principalId accountId).isSome = true := by
  cases hsame : isAccount principalId accountId account with
  | true => rw [activeAccount_putAccount hactive hsame, Option.isSome_some]
  | false => rw [activeAccount_putAccount_of_ne hsame, h]

variable {p id : String}

/-- What becomes of one account is not seen under the name of another. -/
theorem activeAccount_modifyFirst_of_ne {changed : LinkedAccount} {q : LinkedAccount → Bool}
    (hq : ∀ account, q account = true → isAccount p id account = true)
    (hchanged : isAccount p id changed = true) (hother : ¬(p = principalId ∧ id = accountId)) :
    activeAccount (modifyFirst q (fun _ => changed) accounts) principalId accountId =
      activeAccount accounts principalId accountId := by
  rw [activeAccount_eq, activeAccount_eq]
  refine find?_modifyFirst_of_neg fun b hb => ⟨?_, ?_⟩
  · exact isActiveAccount_eq_false (isAccount_eq_false hother (hq b (List.find?_some hb)))
  · exact isActiveAccount_eq_false (isAccount_eq_false hother hchanged)

/-- Any other account than the one that is revoked. -/
theorem activeAccount_revokeIn_of_ne {s : WalletStore} {now : Nat} {found : LinkedAccount}
    (hfound : s.accounts.find? (isAccount p id) = some found)
    (hother : ¬(p = principalId ∧ id = accountId)) :
    activeAccount (revokeIn now p id found s).accounts principalId accountId =
      activeAccount s.accounts principalId accountId := by
  have hnamed := List.find?_some hfound
  have hchanged : isAccount p id { found with revokedAt := some now } = true := hnamed
  exact activeAccount_modifyFirst_of_ne (fun _ h => h) hchanged hother

/-- An account that is given a label is the account with that label. -/
theorem activeAccount_rename {found : LinkedAccount} {given : Option String}
    (hfound : activeAccount accounts p id = some found) :
    activeAccount (modifyFirst (isActiveAccount p id) (fun _ => { found with label := given })
        accounts) principalId accountId = activeAccount accounts principalId accountId ∨
      activeAccount accounts principalId accountId = some found ∧
        activeAccount (modifyFirst (isActiveAccount p id) (fun _ => { found with label := given })
          accounts) principalId accountId = some { found with label := given } := by
  have hnamed := List.find?_some (activeAccount_eq _ _ _ ▸ hfound)
  have hchanged : isActiveAccount p id { found with label := given } = true := hnamed
  by_cases hsame : p = principalId ∧ id = accountId
  · obtain ⟨rfl, rfl⟩ := hsame
    refine Or.inr ⟨hfound, ?_⟩
    rw [activeAccount_eq] at hfound ⊢
    exact find?_modifyFirst hfound hchanged
  · exact Or.inl (activeAccount_modifyFirst_of_ne (fun _ => isAccount_of_isActiveAccount)
      (isAccount_of_isActiveAccount hchanged) hsame)

end

section

variable [Crypto] [WalletSigner] [BitcoinCrate] [Custody.Aes256Gcm]
  {storageKey : Option (Bytes 32)} {s s' : WalletStore} {principalId accountId : String}

theorem Imports.active {p : String} (h : Imports storageKey p s s')
    (hactive : (activeAccount s.accounts principalId accountId).isSome = true) :
    (activeAccount s'.accounts principalId accountId).isSome = true := by
  cases h with
  | account => exact isSome_activeAccount_putAccount rfl hactive

/-- An active account stays active until it is revoked. -/
theorem Rewrites.active {call : AccountCall} (h : Rewrites storageKey s call s')
    (hactive : (activeAccount s.accounts principalId accountId).isSome = true) :
    (activeAccount s'.accounts principalId accountId).isSome = true ∨
      ∃ now, call = .revokeAccount now principalId accountId := by
  cases h with
  | found => exact Or.inl hactive
  | created hcreates =>
    cases hcreates with
    | account => exact Or.inl (isSome_activeAccount_append _ hactive)
  | imported himports => exact Or.inl (himports.active hactive)
  | importedSet himports =>
    refine Or.inl ?_
    induction himports with
    | refl => exact hactive
    | tail _ hlast ih => exact hlast.active ih
  | linked _ hlinked => exact Or.inl (isSome_activeAccount_putAccount hlinked hactive)
  | @revoked now p id found hfound =>
    by_cases hsame : p = principalId ∧ id = accountId
    · exact Or.inr ⟨now, by rw [hsame.1, hsame.2]⟩
    · exact Or.inl (by rw [activeAccount_revokeIn_of_ne hfound hsame, hactive])
  | renamed hfound =>
    rcases activeAccount_rename hfound with hsame | ⟨-, hrenamed⟩
    · exact Or.inl (hsame ▸ hactive)
    · exact Or.inl (hrenamed ▸ rfl)
  | defaulted => exact Or.inl hactive

end

/-! ## 2. What backs an open approval -/

/-- The account that an approval names is linked to its principal and not revoked. -/
def AccountIsActive (s : WalletStore) (a : WalletApprovalRequest) : Prop :=
  (activeAccount s.accounts a.principalId a.accountId).isSome = true

section

variable [WalletSigner]

/-- The event revokes the account that the approval names. -/
structure Event.Revokes (e : Event) (a : WalletApprovalRequest) : Prop where
  operation : e.request.operation = .revokeAccount a.accountId
  principal : e.request.authority.principalId = a.principalId

/-- The account of the approval was revoked while the approval was open. -/
def RevokedWhileOpen (history : List Event) (a : WalletApprovalRequest) : Prop :=
  ∃ e ∈ history, e.Revokes a ∧
    ∃ b ∈ e.store.approvalRequests, b.asked = a.asked ∧ b.status.isOpen = true

/-- Every open approval has an active account, or its account was revoked while it was open. -/
def Backed (history : List Event) (s : WalletStore) : Prop :=
  ∀ a ∈ s.approvalRequests, a.status.isOpen = true →
    AccountIsActive s a ∨ RevokedWhileOpen history a

variable {history later : List Event} {s s' : WalletStore} {a b : WalletApprovalRequest}

theorem RevokedWhileOpen.mono (h : RevokedWhileOpen history a) (hsub : history ⊆ later) :
    RevokedWhileOpen later a := by
  obtain ⟨e, he, hrest⟩ := h
  exact ⟨e, hsub he, hrest⟩

/-- It is a matter of what was asked for. -/
theorem RevokedWhileOpen.of_asked (h : RevokedWhileOpen history a) (hasked : b.asked = a.asked) :
    RevokedWhileOpen history b := by
  obtain ⟨e, he, hrevokes, c, hc, hsame, hopen⟩ := h
  have hprincipal : b.principalId = a.principalId := congrArg (·.principalId) hasked
  have haccount : b.accountId = a.accountId := congrArg (·.accountId) hasked
  refine ⟨e, he, ⟨?_, ?_⟩, c, hc, hsame.trans hasked.symm, hopen⟩
  · rw [haccount]
    exact hrevokes.operation
  · rw [hprincipal]
    exact hrevokes.principal

omit [WalletSigner] in
theorem AccountIsActive.of_asked (h : AccountIsActive s a) (hasked : b.asked = a.asked) :
    AccountIsActive s b := by
  have hprincipal : b.principalId = a.principalId := congrArg (·.principalId) hasked
  have haccount : b.accountId = a.accountId := congrArg (·.accountId) hasked
  rw [AccountIsActive, hprincipal, haccount]
  exact h

theorem Backed.mono (h : Backed history s) (hsub : history ⊆ later) : Backed later s :=
  fun a ha hopen => (h a ha hopen).imp_right fun hrevoked => hrevoked.mono hsub

theorem Backed.empty : Backed history WalletStore.empty := fun _ ha => absurd ha List.not_mem_nil

/-- Pruning keeps accounts, and opens no approval. -/
theorem Backed.kept (h : Backed history s) (haccounts : s'.accounts = s.accounts)
    (hkept : Kept s.approvalRequests s'.approvalRequests none) : Backed history s' := by
  intro b hb hopen
  rcases hkept.members b hb with ⟨a, ha, hages⟩ | hnone
  · have hsame := hages.eq_of_isOpen hopen
    subst hsame
    rw [AccountIsActive, haccounts]
    exact h b ha hopen
  · cases hnone

end

section

variable [Curves] [Crypto] [WalletSigner] [BitcoinCrate] [Custody.Aes256Gcm] [SerdeJson]

variable {b a : WalletApprovalRequest}

/-- An approval is asked for an active account. -/
theorem Accepts.accountIsActive {e : Event} (h : Accepts e b) : AccountIsActive e.store b := by
  have hfound : ∀ {storageKey now input account},
      Accepted storageKey e.store now input account →
        AccountIsActive e.store (newApprovalRequest input account now) := by
    intro storageKey now input account haccepted
    have hfound := haccepted.found
    simp only [accountForSignature, Codec.bind_eq_ok, okOr_eq_ok, denyIf_eq_ok, exists_unit,
      pure_eq_ok] at hfound
    obtain ⟨active, hactive, -, rfl⟩ := hfound
    have hnamed := isAccount_iff.mp (mem_of_activeAccount hactive).2.1
    have hsome : (activeAccount e.store.accounts input.principalId active.accountId).isSome =
        true := by
      rw [hnamed.2, hactive, Option.isSome_some]
    exact hsome
  cases h with
  | approval _ haccepted => exact hfound haccepted
  | rights _ haccepted => exact hfound haccepted

variable [DerivedSerialize] [ElastosAuth]

variable {e : Event} {s' : WalletStore} {history : List Event}

/-- An active account stays active, unless the event revokes it. -/
theorem Event.Leaves.accountIsActive (h : e.Leaves s') (hactive : AccountIsActive e.store a) :
    AccountIsActive s' a ∨ e.Revokes a := by
  rcases h.rewrites with ⟨call, hcall, hrewrites⟩ | ⟨-, haccounts, -⟩
  · rcases hrewrites.active hactive with hstays | ⟨now, rfl⟩
    · exact Or.inl hstays
    · obtain ⟨hop, hprincipal⟩ := eq_of_callOf_eq_revoke hcall
      exact Or.inr ⟨hop, hprincipal⟩
  · rw [AccountIsActive, haccounts]
    exact Or.inl hactive

variable {c : WalletApprovalRequest}

omit [DerivedSerialize] [ElastosAuth] in
/-- Only operations on approvals change them or ask for new ones. -/
theorem Changes.not_revokes (h : Changes e a b) : ¬e.Revokes c := by
  intro hrevokes
  have hrevoke := hrevokes.operation
  cases h with
  | rejected hop | handedOff hop | signed hop | completed hop | attached hop =>
    rw [hop] at hrevoke
    cases hrevoke

omit [DerivedSerialize] [ElastosAuth] in
theorem Accepts.not_revokes (h : Accepts e b) : ¬e.Revokes c := by
  intro hrevokes
  have hrevoke := hrevokes.operation
  cases h with
  | approval hop | rights hop =>
    rw [hop] at hrevoke
    cases hrevoke

/-- **An operation keeps open approvals backed.** -/
theorem Backed.leaves (h : Backed history e.store) (hleaves : e.Leaves s')
    (hadvances : Advances e e.store.approvalRequests s'.approvalRequests) :
    Backed (history ++ [e]) s' := by
  have hsub : history ⊆ history ++ [e] := List.subset_append_left _ _
  have hlast : e ∈ history ++ [e] := List.mem_append_right history (List.mem_singleton.mpr rfl)
  intro b hb hopen
  rcases hadvances.members b hb with ⟨a, ha, hages⟩ | ⟨a, ha, hchanges⟩ | haccepts
  · have hsame := hages.eq_of_isOpen hopen
    subst hsame
    rcases h b ha hopen with hactive | hrevoked
    · rcases hleaves.accountIsActive hactive with hstays | hrevokes
      · exact Or.inl hstays
      · exact Or.inr ⟨e, hlast, hrevokes, b, ha, rfl, hopen⟩
    · exact Or.inr (hrevoked.mono hsub)
  · have hasked := asked_eq_of_moves hchanges.moves
    -- of the changes only a handoff leaves the approval open, and it stood pending
    have hbefore : a.status.isOpen = true := by
      cases hchanges with
      | handedOff _ _ _ hpending => rw [hpending]; rfl
      | attached => exact hopen
      | rejected | signed | completed => cases hopen
    rcases h a ha hbefore with hactive | hrevoked
    · rcases hleaves.accountIsActive (hactive.of_asked hasked) with hstays | hrevokes
      · exact Or.inl hstays
      · exact absurd hrevokes hchanges.not_revokes
    · exact Or.inr ((hrevoked.of_asked hasked).mono hsub)
  · rcases hleaves.accountIsActive haccepts.accountIsActive with hstays | hrevokes
    · exact Or.inl hstays
    · exact absurd hrevokes haccepts.not_revokes

/-! ## 3. Runs -/

/-- Open approvals are backed, in memory and in the file. -/
structure BackedProvider (history : List Event) (p : WalletProvider) : Prop where
  store : Backed history p.store
  disk : ∀ store, p.disk = some store → Backed history store

section

variable {p start : WalletProvider} {restarts : Bool} {begun time : Nat}

theorem BackedProvider.handle (h : BackedProvider history p) (hsound : SoundProvider history p)
    (occasion : Occasion) (request : WalletProviderRequestV2) :
    BackedProvider (history ++ carriedOut p occasion request)
      (handleWalletContract p occasion request).2 := by
  have hbefore : Backed history (pruneExpiredLifecycles p.store occasion.now) :=
    h.store.kept rfl (Kept.refl _)
  have hkeeps := handle_keeps occasion request h.store h.disk hbefore
    (fun _ hs => hs.mono (List.subset_append_left _ (carriedOut p occasion request)))
    fun reply changed hattempted hdone hleaves => by
      have hadvances := hleaves.advances (hsound.store.kept (Kept.refl _)).unique <|
        replay_eq_none_of_answerWithoutEffect hattempted.unanswered
      have hchanged := Backed.leaves hbefore hleaves hadvances
      exact hdone ▸ hchanged.kept rfl (Kept.pruned changed.approvalRequests occasion.now)
  exact ⟨hkeeps.1, hkeeps.2⟩

omit [DerivedSerialize] [ElastosAuth] in
theorem BackedProvider.init (h : ∀ store, p.disk = some store → Backed history store)
    (hsound : ∀ store, p.disk = some store → Sound history store)
    (storageKey : Option (Bytes 32)) (fate : Fate) (now : Nat) :
    BackedProvider history (Wallet.init p.disk storageKey fate now) :=
  have hkeeps := init_keeps Backed.empty h hsound
    (fun _ hs => hs.kept rfl (Kept.pruned _ now)) storageKey fate
  ⟨hkeeps.1, hkeeps.2⟩

/-- **Open approvals are backed in every run.** -/
theorem Run.backed (hrun : Run restarts start begun history time p)
    (hsound : SoundProvider [] start) (hstart : BackedProvider [] start) :
    BackedProvider history p := by
  induction hrun with
  | start => exact hstart
  | request hrun occasion request _ _ _ _ ih => exact ih.handle (hrun.sound hsound) occasion request
  | restart hrun _ storageKey fate now _ ih =>
    exact BackedProvider.init ih.disk (hrun.sound hsound).disk storageKey fate now

end

/-! ## 4. Completion -/

variable {storageKey : Option (Bytes 32)} {s s' : WalletStore} {receipt : WalletSignatureReceipt}
  {signed : ManagedSignatureOutput}

omit [DerivedSerialize] [ElastosAuth] in
/-- What the managed path signs has an active account. -/
theorem signManaged_account {now : Nat} {principalId requestId : String}
    (h : Does (signManaged storageKey now principalId requestId) s (b, receipt, signed) s') :
    AccountIsActive s b := by
  simp only [signManaged, does_check, does_reads, does_updates, does_pure, refuse_eq_ok,
    findApproval, okOr_eq_ok, id, exists_unit] at h
  obtain ⟨-, -, -, a, hfind, -, account, haccount, key, -, signed', -, heq, -⟩ := h
  obtain ⟨rfl, -⟩ := Prod.mk.inj heq
  simp only [validateManagedSigning, Codec.bind_eq_ok, okOr_eq_ok, exists_unit] at haccount
  obtain ⟨-, -, active, hactive, -⟩ := haccount
  have hasked := asked_eq_of_moves (ages_expireApprovalIfElapsed a now).moves
  have hprincipal : (expireApprovalIfElapsed a now).principalId = principalId :=
    (congrArg (·.principalId) hasked).trans (eq_of_isRequest (List.find?_some hfind)).1
  have hsome : (activeAccount s.accounts (expireApprovalIfElapsed a now).principalId
      (expireApprovalIfElapsed a now).accountId).isSome = true := by
    rw [hprincipal]
    exact Option.isSome_iff_exists.mpr ⟨active, hactive⟩
  exact hsome

omit [DerivedSerialize] [ElastosAuth] in
theorem approveAndSignManaged_account {clock : Nat → Nat}
    {principalId sessionId requestId reason : String}
    (h : Does (approveAndSignManaged storageKey clock principalId sessionId requestId reason) s
      (b, receipt, signed) s') : AccountIsActive s b := by
  simp only [approveAndSignManaged, does_check, does_reads, does_updates, exists_unit] at h
  obtain ⟨-, -, -, -, -, a, -, -, -, -, hsign⟩ := h
  have hactive := signManaged_account hsign
  exact hactive

omit [Custody.Aes256Gcm] [DerivedSerialize] [ElastosAuth] in
/-- Completing a rights request looks the account up. -/
theorem completionEvidence_account {v : ConnectorHandoffCompletion} {now : Nat}
    {evidence : String × Option Json} (h : completionEvidence s a v now = .ok evidence)
    (hintent : a.intent = PROTECTED_CONTENT_RIGHTS_SIGNATURE_INTENT) : AccountIsActive s a := by
  rw [completionEvidence, hintent, if_neg (by decide), if_neg (by decide), if_pos rfl] at h
  simp only [completeProtectedContentRights, Codec.bind_eq_ok, okOr_eq_ok, exists_unit] at h
  obtain ⟨-, -, -, account, haccount, -⟩ := h
  exact Option.isSome_iff_exists.mpr ⟨account, haccount⟩

/-- The operation has completed the approval: it was not completed before. -/
structure Completes (e : Event) (s' : WalletStore) (b : WalletApprovalRequest) : Prop where
  leaves : e.Leaves s'
  stored : b ∈ s'.approvalRequests
  completed : b.status = .completed
  first : ∀ a ∈ e.store.approvalRequests, a.requestId = b.requestId → a.status ≠ .completed

/-- It has changed an approval that was not completed. -/
theorem Completes.exists_changes (h : Completes e s' b)
    (hadvances : Advances e e.store.approvalRequests s'.approvalRequests) :
    ∃ a ∈ e.store.approvalRequests, Changes e a b ∧ a.status ≠ .completed := by
  have hcompleted := h.completed
  rcases hadvances.members b h.stored with ⟨a, ha, hages⟩ | ⟨a, ha, hchanges⟩ | haccepts
  · cases hages with
    | same => exact absurd hcompleted (h.first b ha rfl)
    | expired => cases hcompleted
  · exact ⟨a, ha, hchanges, h.first a ha hchanges.requestId_eq.symm⟩
  · rw [haccepts.status_eq] at hcompleted
    cases hcompleted

/-- What is completed was signed by a managed key, or handed in for an approval that was open. -/
theorem Changes.completed_cases (h : Changes e a b) (hleaves : e.Leaves s')
    (hcompleted : b.status = .completed) (hfirst : a.status ≠ .completed) :
    AccountIsActive e.store b ∨
      (b.connectorId ≠ none ∧ b.intent ≠ PROTECTED_CONTENT_RIGHTS_SIGNATURE_INTENT ∧
        a.status.isOpen = true) := by
  cases h with
  | rejected | handedOff => cases hcompleted
  | signed hoperation _ _ _ _ _ _ _ hreply =>
    refine Or.inl ?_
    rw [Event.Leaves, dispatchWalletOperation, hoperation] at hleaves
    simp only [does_bind, does_pure] at hleaves
    obtain ⟨⟨c, receipt, signed⟩, _, hdoes, hsame, -⟩ := hleaves
    rw [hreply] at hsame
    exact (Reply.signed.inj hsame).1 ▸ approveAndSignManaged_account hdoes
  | completed _ _ _ hconnector _ happroved _ hevidence =>
    by_cases hrights : a.intent = PROTECTED_CONTENT_RIGHTS_SIGNATURE_INTENT
    · have haccount := completionEvidence_account hevidence hrights
      rw [AccountIsActive, pruneStore_accounts] at haccount
      exact Or.inl haccount
    · refine Or.inr ⟨fun hnone => ?_, hrights, by rw [happroved]; rfl⟩
      cases hconnector.symm.trans hnone
  | attached => exact absurd hcompleted hfirst

variable {p : WalletProvider} {begun time : Nat}

/-- **What is completed has an active account**, unless it was handed off, is no rights request, and
its account was revoked while it was open. -/
theorem completion_has_account (hrun : Run true (.stopped none) begun history time p) :
    ∀ before e after, history = before ++ e :: after →
      ∀ s' b, Completes e s' b →
        (b.connectorId = none ∨ b.intent = PROTECTED_CONTENT_RIGHTS_SIGNATURE_INTENT ∨
          ¬RevokedWhileOpen before b) →
        AccountIsActive s' b := by
  intro before e after hhistory s' b hcompletes hcondition
  obtain ⟨time', p', occasion, request, reply, changed, hbefore, hattempted, rfl, -⟩ :=
    hrun.before hhistory
  have hstopped : SoundProvider [] (.stopped none) := SoundProvider.stopped fun _ h => by cases h
  have hsound : Sound before (eventOf p' occasion request reply).store :=
    (hbefore.sound hstopped).store.kept (Kept.refl _)
  have hbacked := (hbefore.backed hstopped ⟨Backed.empty, fun _ h => by cases h⟩).store
  have hadvances := hcompletes.leaves.advances hsound.unique <|
    replay_eq_none_of_answerWithoutEffect hattempted.unanswered
  obtain ⟨a, ha, hchanges, hfirst⟩ := hcompletes.exists_changes hadvances
  have hactive : AccountIsActive (eventOf p' occasion request reply).store b := by
    rcases hchanges.completed_cases hcompletes.leaves hcompletes.completed hfirst with
      hactive | ⟨hexternal, hother, hopen⟩
    · exact hactive
    · have hasked := asked_eq_of_moves hchanges.moves
      rcases hbacked a ha hopen with hactive | hrevoked
      · exact hactive.of_asked hasked
      · rcases hcondition with hmanaged | hrights | hkept
        · exact absurd hmanaged hexternal
        · exact absurd hrights hother
        · exact absurd (hrevoked.of_asked hasked) hkept
  -- completing revokes nothing, so that what is active before is active behind
  exact (hcompletes.leaves.accountIsActive hactive).resolve_right hchanges.not_revokes

end

/-! ## 5. A transaction of an account that was revoked -/

namespace Sample

attribute [local instance] acceptingCurves keyEchoCrypto plainSigner plainBitcoin plainAes plainJson
  plainSerialize plainAuth

def revokeRequest : WalletProviderRequestV2 :=
  request (.revokeAccount (accountId "eip155:1" address))
    "wallet-request:00000000000000000000000000000005" 350 380

theorem revokeRequest_attempted : Attempted handedOff (occasion 350) revokeRequest where
  valid := request_valid (by decide) (by decide) (by decide) (by decide) (by decide)
    ⟨_, rfl⟩ ⟨none, rfl⟩
  effectful := rfl
  unanswered := rfl

def revokedAccount : LinkedAccount := { account with revokedAt := some 350 }

def revokedStore : WalletStore :=
  revokeIn 350 "owner" (accountId "eip155:1" address) account
    (pruneExpiredLifecycles handedOff.store 350)

def revokeEvent : Event :=
  eventOf handedOff (occasion 350) revokeRequest (.account revokedAccount)

theorem revoke_leaves : revokeEvent.Leaves revokedStore := by
  refine does_bind.mpr ⟨revokedAccount, revokedStore, ?_, rfl⟩
  exact does_revokeAccount.mpr ⟨rfl, by decide, by decide, account, by decide, rfl, rfl⟩

def revokedProvider : WalletProvider :=
  let store := recordLifecycle revokeRequest 350 revokedStore
  ⟨storageKey, store, some store⟩

theorem revoked_run : Run true (.stopped none) 0
    [eventOf started (occasion 100) linkRequest (.account account),
      eventOf linked (occasion 200) askRequest (.requested asked true), handoffEvent,
      revokeEvent] 350 revokedProvider :=
  run_step (handoff_run started_run) (by decide) revokeRequest_attempted revoke_leaves

theorem revoked_stored : revokedProvider.store.approvalRequests = [approved] :=
  (congrArg (pruneApprovals · 350) handedOff_stored).trans
    (pruneApprovals_singleton rfl (by decide))

theorem revoked_approvals :
    (pruneStore (pruneExpiredLifecycles revokedProvider.store 400) 400).approvalRequests =
      [approved] :=
  (congrArg (pruneApprovals · 400) revoked_stored).trans
    (pruneApprovals_singleton rfl (by decide))

theorem lateRequest_attempted : Attempted revokedProvider (occasion 400) completeRequest where
  valid := completeRequest_attempted.valid
  effectful := rfl
  unanswered := rfl

def lateEvent : Event :=
  eventOf revokedProvider (occasion 400) completeRequest (.completed completed receipt)

def lateStore : WalletStore :=
  setApproval completed <|
    setApproval approved (pruneStore (pruneExpiredLifecycles revokedProvider.store 400) 400)

theorem late_leaves : lateEvent.Leaves lateStore :=
  does_bind.mpr ⟨(completed, receipt), lateStore, complete_does revoked_approvals, rfl⟩

theorem late_approvals : lateStore.approvalRequests = [completed] := by
  rw [lateStore, setApproval, setApproval]
  dsimp only
  rw [revoked_approvals]
  rfl

/-- An approval that an external wallet completes, whose account has been revoked. -/
theorem completed_for_revoked_account : ∃ history time p, Run true (.stopped none) 0 history time p ∧
    lateEvent ∈ history ∧ Completes lateEvent lateStore completed ∧
    ¬AccountIsActive lateStore completed := by
  refine ⟨_, _, _, run_step revoked_run (by decide) lateRequest_attempted late_leaves, ?_, ?_, ?_⟩
  · exact List.mem_append_right _ List.mem_cons_self
  · refine ⟨late_leaves, ?_, rfl, fun a ha _ => ?_⟩
    · rw [late_approvals]
      exact List.mem_cons_self
    · have hstored : lateEvent.store.approvalRequests = [approved] := revoked_stored
      rw [hstored, List.mem_singleton] at ha
      subst ha
      exact fun hcompleted => by cases hcompleted
  · rw [AccountIsActive]
    decide

theorem completion_has_account_completed : AccountIsActive completedStore completed := by
  refine completion_has_account (complete_run started_run)
    [eventOf started (occasion 100) linkRequest (.account account),
      eventOf linked (occasion 200) askRequest (.requested asked true), handoffEvent] completeEvent []
    rfl completedStore completed ⟨complete_leaves, ?_, rfl, fun a ha _ => ?_⟩
    (Or.inr (Or.inr ?_))
  · rw [completed_stored]
    exact List.mem_cons_self
  · have hstored : completeEvent.store.approvalRequests = [approved] := handedOff_stored
    rw [hstored, List.mem_singleton] at ha
    subst ha
    exact fun hcompleted => by cases hcompleted
  · rintro ⟨e, he, hrevokes, -⟩
    have hrevoke := hrevokes.operation
    simp only [List.mem_cons, List.not_mem_nil, or_false] at he
    rcases he with rfl | rfl | rfl <;> cases hrevoke

end Sample

end ElastosRuntime.Wallet
