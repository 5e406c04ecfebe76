/-
# What pruning keeps

`prune_store` (`storage.rs`) marks the approvals whose time is up, sorts them by their creation and
goes through them from the newest on: what is active stays, and of each principal's settled ones as
many as the history holds.  `filter_active_pruneApprovals` and `filter_settled_pruneApprovals` say
what is left of either kind, `pruneApprovals_pruneApprovals` what a second pass changes.

An approval that is marked is marked with the time of the pass.  So the same store pruned early and
late may differ in when an approval counts as resolved.

`request_approval` counts what is active before it stores another one.  No move of an approval makes
a settled one active again, which bounds the active ones of a principal in every run
(`Run.bounded`).
-/
import ElastosRuntime.Wallet.ApprovalStates

namespace ElastosRuntime.Wallet

open Records

/-! ## 1. One pass -/

/-- The last of a list. -/
def newest (n : Nat) (requests : List WalletApprovalRequest) : List WalletApprovalRequest :=
  requests.drop (requests.length - n)

/-- An approval of a principal that is not active. -/
def isSettledOf (principalId : String) (now : Nat) (request : WalletApprovalRequest) : Bool :=
  request.principalId == principalId && !approvalAuthorityIsActive request now

section

variable {now : Nat} {requests : List WalletApprovalRequest}

theorem filter_active_retainHistory (now : Nat) (requests : List WalletApprovalRequest) :
    ∀ retained, (retainHistory now retained requests).filter
      (approvalAuthorityIsActive · now) = requests.filter (approvalAuthorityIsActive · now) := by
  induction requests with
  | nil => exact fun _ => rfl
  | cons request rest ih =>
    intro retained
    rw [retainHistory]
    split
    · next hactive => rw [List.filter_cons, List.filter_cons, if_pos hactive, if_pos hactive, ih]
    · next hsettled =>
      split
      · rw [List.filter_cons, if_neg hsettled, ih]
      · rw [List.filter_cons, List.filter_cons, if_neg hsettled, if_neg hsettled, ih]

/-- Of the settled ones as many are kept as are still missing from the history. -/
theorem filter_settled_retainHistory (principalId : String) (now : Nat)
    (requests : List WalletApprovalRequest) : ∀ retained,
      (retainHistory now retained requests).filter (isSettledOf principalId now) =
        (requests.filter (isSettledOf principalId now)).take
          (MAX_RESOLVED_APPROVAL_HISTORY_PER_PRINCIPAL - retained principalId) := by
  induction requests with
  | nil => exact fun _ => (List.take_nil).symm
  | cons request rest ih =>
    intro retained
    rw [retainHistory]
    split
    · next hactive =>
      have hother : ¬isSettledOf principalId now request = true := by
        rw [isSettledOf, hactive, Bool.not_true, Bool.and_false]
        exact Bool.false_ne_true
      rw [List.filter_cons_of_neg hother, List.filter_cons_of_neg hother, ih]
    · next hsettled =>
      rw [Bool.not_eq_true] at hsettled
      by_cases hmine : request.principalId = principalId
      · have hkind : isSettledOf principalId now request = true := by
          rw [isSettledOf, hsettled, hmine, beq_self_eq_true]
          rfl
        rw [List.filter_cons_of_pos hkind, hmine]
        split
        · next hfull => rw [ih, Nat.sub_eq_zero_of_le hfull, List.take_zero, List.take_zero]
        · next hroom =>
          have hmore : MAX_RESOLVED_APPROVAL_HISTORY_PER_PRINCIPAL - retained principalId =
              MAX_RESOLVED_APPROVAL_HISTORY_PER_PRINCIPAL - (retained principalId + 1) + 1 := by
            omega
          rw [List.filter_cons_of_pos hkind, ih, Function.update_self, hmore, List.take_succ_cons]
      · have hkind : ¬isSettledOf principalId now request = true := by
          rw [isSettledOf, beq_false_of_ne hmine, Bool.false_and]
          exact Bool.false_ne_true
        rw [List.filter_cons_of_neg hkind]
        split
        · exact ih _
        · rw [List.filter_cons_of_neg hkind, ih, Function.update_of_ne (Ne.symm hmine)]

/-- The approvals in the order of their creation, marked if their time is up. -/
def marked (requests : List WalletApprovalRequest) (now : Nat) : List WalletApprovalRequest :=
  sortByCreation (requests.map fun request => expireApprovalIfElapsed request now)

theorem pruneApprovals_eq (requests : List WalletApprovalRequest) (now : Nat) :
    pruneApprovals requests now =
      (retainHistory now (fun _ => 0) (marked requests now).reverse).reverse := rfl

/-- **What is active is kept**, in the order of creation. -/
theorem filter_active_pruneApprovals (requests : List WalletApprovalRequest) (now : Nat) :
    (pruneApprovals requests now).filter (approvalAuthorityIsActive · now) =
      (marked requests now).filter (approvalAuthorityIsActive · now) := by
  rw [pruneApprovals_eq, List.filter_reverse, filter_active_retainHistory, List.filter_reverse,
    List.reverse_reverse]

/-- **Of a principal's other approvals the newest are kept**, as many as the history holds. -/
theorem filter_settled_pruneApprovals (principalId : String)
    (requests : List WalletApprovalRequest) (now : Nat) :
    (pruneApprovals requests now).filter (isSettledOf principalId now) =
      newest MAX_RESOLVED_APPROVAL_HISTORY_PER_PRINCIPAL
        ((marked requests now).filter (isSettledOf principalId now)) := by
  rw [pruneApprovals_eq, List.filter_reverse, filter_settled_retainHistory, List.filter_reverse,
    Nat.sub_zero, List.take_reverse, List.reverse_reverse, newest]

/-- Nothing changes its place. -/
theorem pruneApprovals_sublist (requests : List WalletApprovalRequest) (now : Nat) :
    (pruneApprovals requests now).Sublist (marked requests now) := by
  have hkept := (retainHistory_sublist now (marked requests now).reverse fun _ => 0).reverse
  rwa [List.reverse_reverse] at hkept

theorem marked_sorted (requests : List WalletApprovalRequest) (now : Nat) :
    (marked requests now).Pairwise fun a b => a.createdAt ≤ b.createdAt := by
  have htotal : Std.Total fun a b : WalletApprovalRequest => a.createdAt ≤ b.createdAt :=
    ⟨fun a b => Nat.le_total _ _⟩
  have htrans : IsTrans WalletApprovalRequest fun a b => a.createdAt ≤ b.createdAt :=
    ⟨fun _ _ _ => Nat.le_trans⟩
  exact List.pairwise_insertionSort _ _

/-- Of two that were created at one time the one that is stored first stays the first. -/
theorem marked_stable {a b : WalletApprovalRequest}
    (hstored : [a, b].Sublist (requests.map fun request => expireApprovalIfElapsed request now))
    (hcreated : a.createdAt ≤ b.createdAt) : [a, b].Sublist (marked requests now) := by
  have htotal : Std.Total fun a b : WalletApprovalRequest => a.createdAt ≤ b.createdAt :=
    ⟨fun a b => Nat.le_total _ _⟩
  have htrans : IsTrans WalletApprovalRequest fun a b => a.createdAt ≤ b.createdAt :=
    ⟨fun _ _ _ => Nat.le_trans⟩
  exact List.pair_sublist_insertionSort hcreated hstored

end

/-! ## 2. A second pass -/

section

variable {early late : Nat} {requests : List WalletApprovalRequest}

/-- What a pass keeps it keeps again. -/
theorem retainHistory_idem (now : Nat) (requests : List WalletApprovalRequest) : ∀ retained,
    retainHistory now retained (retainHistory now retained requests) =
      retainHistory now retained requests := by
  induction requests with
  | nil => exact fun _ => rfl
  | cons request rest ih =>
    intro retained
    rw [retainHistory]
    split
    · next hactive => rw [retainHistory, if_pos hactive, ih]
    · next hsettled =>
      split
      · exact ih _
      · next hroom => rw [retainHistory, if_neg hsettled, if_neg hroom, ih]

theorem retainHistory_congr (h : ∀ request ∈ requests,
    approvalAuthorityIsActive request late = approvalAuthorityIsActive request early) : ∀ retained,
      retainHistory late retained requests = retainHistory early retained requests := by
  induction requests with
  | nil => exact fun _ => rfl
  | cons request rest ih =>
    intro retained
    obtain ⟨hrequest, hrest⟩ := List.forall_mem_cons.mp h
    rw [retainHistory, retainHistory, hrequest, ih hrest, ih hrest]

/-- Approvals that are of the same principals and as active are kept alike. -/
theorem forall₂_retainHistory {R : WalletApprovalRequest → WalletApprovalRequest → Prop}
    (hprincipal : ∀ {a b}, R a b → b.principalId = a.principalId)
    (hactive : ∀ {a b}, R a b →
      approvalAuthorityIsActive b late = approvalAuthorityIsActive a early)
    {others : List WalletApprovalRequest} (h : List.Forall₂ R requests others) : ∀ retained,
      List.Forall₂ R (retainHistory early retained requests)
        (retainHistory late retained others) := by
  induction h with
  | nil => exact fun _ => .nil
  | @cons a b rest others hab _ ih =>
    intro retained
    rw [retainHistory, retainHistory, hprincipal hab, hactive hab]
    split
    · exact .cons hab (ih _)
    · split
      · exact ih _
      · exact .cons hab (ih _)

/-- No approval expires behind the early time and up to the late one. -/
def NoneExpires (early late : Nat) (requests : List WalletApprovalRequest) : Prop :=
  ∀ request ∈ requests, request.status.isOpen = true → early < request.expiresAt →
    late < request.expiresAt

variable {request : WalletApprovalRequest}

/-- What is marked early needs no mark late. -/
theorem expire_expire
    (hnone : request.status.isOpen = true → early < request.expiresAt → late < request.expiresAt) :
    expireApprovalIfElapsed (expireApprovalIfElapsed request early) late =
      expireApprovalIfElapsed request early := by
  refine if_neg fun ⟨hopen, helapsed⟩ => ?_
  obtain ⟨hsame, hunexpired⟩ := unexpired_of_isOpen hopen
  rw [hsame] at hopen helapsed
  exact absurd (hnone hopen hunexpired) (Nat.not_lt_of_le helapsed)

/-- What is marked early is as active late as it is then. -/
theorem active_marked
    (hnone : request.status.isOpen = true → early < request.expiresAt → late < request.expiresAt) :
    approvalAuthorityIsActive (expireApprovalIfElapsed request early) late =
      approvalAuthorityIsActive (expireApprovalIfElapsed request early) early := by
  by_cases hopen : (expireApprovalIfElapsed request early).status.isOpen = true
  · obtain ⟨hsame, hunexpired⟩ := unexpired_of_isOpen hopen
    rw [hsame] at hopen ⊢
    rw [approvalAuthorityIsActive, approvalAuthorityIsActive, decide_eq_true hunexpired,
      decide_eq_true (hnone hopen hunexpired)]
  · rw [Bool.not_eq_true] at hopen
    rw [approvalAuthorityIsActive, approvalAuthorityIsActive, hopen, Bool.false_and,
      Bool.false_and]

/-- What is marked late is as active then as what is marked early. -/
theorem active_expire (hle : early ≤ late)
    (hnone : request.status.isOpen = true → early < request.expiresAt → late < request.expiresAt) :
    approvalAuthorityIsActive (expireApprovalIfElapsed request late) late =
      approvalAuthorityIsActive (expireApprovalIfElapsed request early) early := by
  by_cases hopen : request.status.isOpen = true
  · by_cases hunexpired : early < request.expiresAt
    · have hlate := hnone hopen hunexpired
      rw [expireApprovalIfElapsed, if_neg (by omega), expireApprovalIfElapsed, if_neg (by omega),
        approvalAuthorityIsActive, approvalAuthorityIsActive, decide_eq_true hunexpired,
        decide_eq_true hlate]
    · rw [expireApprovalIfElapsed, if_pos ⟨hopen, by omega⟩, expireApprovalIfElapsed,
        if_pos ⟨hopen, by omega⟩]
      rfl
  · have hsame : ∀ now, expireApprovalIfElapsed request now = request := fun now =>
      if_neg fun h => hopen h.1
    rw [Bool.not_eq_true] at hopen
    rw [hsame, hsame, approvalAuthorityIsActive, approvalAuthorityIsActive, hopen, Bool.false_and,
      Bool.false_and]

/-- Nothing is left for a second pass to do. -/
theorem pruneApprovals_pruneApprovals (hnone : NoneExpires early late requests) :
    pruneApprovals (pruneApprovals requests early) late = pruneApprovals requests early := by
  have hmarked : (pruneApprovals requests early).map
      (fun request => expireApprovalIfElapsed request late) = pruneApprovals requests early := by
    refine (List.map_congr_left fun request hrequest => ?_).trans (List.map_id _)
    obtain ⟨before, hbefore, rfl⟩ := mem_of_mem_pruneApprovals hrequest
    exact expire_expire (hnone before hbefore)
  have hsorted : marked (pruneApprovals requests early) late = pruneApprovals requests early := by
    rw [marked, hmarked]
    exact ((marked_sorted requests early).sublist
      (pruneApprovals_sublist requests early)).insertionSort_eq
  have hsame : ∀ retained, retainHistory late retained (pruneApprovals requests early).reverse =
      retainHistory early retained (pruneApprovals requests early).reverse := by
    refine retainHistory_congr fun request hrequest => ?_
    obtain ⟨before, hbefore, rfl⟩ := mem_of_mem_pruneApprovals (List.mem_reverse.mp hrequest)
    exact active_marked (hnone before hbefore)
  rw [pruneApprovals_eq, hsorted, hsame]
  nth_rewrite 1 [pruneApprovals_eq]
  rw [List.reverse_reverse, retainHistory_idem, ← pruneApprovals_eq]

/-- One approval, marked early and marked late: they differ in when it counts as resolved. -/
def Remarked (early late : Nat) (requests : List WalletApprovalRequest)
    (a b : WalletApprovalRequest) : Prop :=
  a = b ∨ ∃ request ∈ requests, request.status.isOpen = true ∧ request.expiresAt ≤ early ∧
    a = { request with
      status := .expired
      resolvedAt := some early } ∧
    b = { request with
      status := .expired
      resolvedAt := some late }

theorem remarked_expire (hle : early ≤ late) (hrequest : request ∈ requests)
    (hnone : NoneExpires early late requests) :
    Remarked early late requests (expireApprovalIfElapsed request early)
      (expireApprovalIfElapsed request late) := by
  by_cases helapsed : request.status.isOpen = true ∧ request.expiresAt ≤ early
  · refine .inr ⟨request, hrequest, helapsed.1, helapsed.2, if_pos helapsed, ?_⟩
    exact if_pos ⟨helapsed.1, helapsed.2.trans hle⟩
  · have hlate : ¬(request.status.isOpen = true ∧ request.expiresAt ≤ late) := by
      rintro ⟨hopen, hlate⟩
      have hunexpired : early < request.expiresAt :=
        Nat.lt_of_not_le fun h => helapsed ⟨hopen, h⟩
      exact absurd (hnone request hrequest hopen hunexpired) (Nat.not_lt_of_le hlate)
    have hearlySame : expireApprovalIfElapsed request early = request := if_neg helapsed
    have hlateSame : expireApprovalIfElapsed request late = request := if_neg hlate
    exact .inl (hearlySame.trans hlateSame.symm)

theorem principalId_expire (request : WalletApprovalRequest) (now : Nat) :
    (expireApprovalIfElapsed request now).principalId = request.principalId := by
  rw [expireApprovalIfElapsed]
  split <;> rfl

/-- Marking does not move an approval. -/
theorem marked_eq_map (requests : List WalletApprovalRequest) (now : Nat) :
    marked requests now =
      (sortByCreation requests).map fun request => expireApprovalIfElapsed request now := by
  refine (List.map_insertionSort _ _ _ _ fun a _ b _ => ?_).symm
  have hcreated : ∀ request, (expireApprovalIfElapsed request now).createdAt =
      request.createdAt := by
    intro request
    rw [expireApprovalIfElapsed]
    split <;> rfl
  rw [hcreated, hcreated]

/-- **The same approvals pruned early and late** differ in the marks alone. -/
theorem forall₂_pruneApprovals (hle : early ≤ late) (hnone : NoneExpires early late requests) :
    List.Forall₂ (Remarked early late requests) (pruneApprovals requests early)
      (pruneApprovals requests late) := by
  have hmarked : List.Forall₂ (fun a b => ∃ request ∈ requests,
      a = expireApprovalIfElapsed request early ∧ b = expireApprovalIfElapsed request late)
      (marked requests early) (marked requests late) := by
    rw [marked_eq_map, marked_eq_map, List.forall₂_map_left_iff, List.forall₂_map_right_iff,
      List.forall₂_same]
    intro request hrequest
    exact ⟨request, (sortByCreation_perm requests).mem_iff.mp hrequest, rfl, rfl⟩
  have hkept : List.Forall₂ (fun a b => ∃ request ∈ requests,
      a = expireApprovalIfElapsed request early ∧ b = expireApprovalIfElapsed request late)
      (retainHistory early (fun _ => 0) (marked requests early).reverse)
      (retainHistory late (fun _ => 0) (marked requests late).reverse) := by
    refine forall₂_retainHistory ?_ ?_ (List.rel_reverse hmarked) fun _ => 0
    · rintro _ _ ⟨request, -, rfl, rfl⟩
      rw [principalId_expire, principalId_expire]
    · rintro _ _ ⟨request, hrequest, rfl, rfl⟩
      exact active_expire hle (hnone request hrequest)
  refine (List.rel_reverse hkept).imp ?_
  rintro _ _ ⟨request, hrequest, rfl, rfl⟩
  exact remarked_expire hle hrequest hnone

end

/-! ## 3. The store -/

section

variable {early late : Nat} {store : WalletStore}

/-- What is over early is over late. -/
theorem filter_filter_unexpired {α : Type} (expiresAt : α → Nat) (hle : early ≤ late)
    (records : List α) : (records.filter fun record => early < expiresAt record).filter
      (fun record => late < expiresAt record) =
        records.filter fun record => late < expiresAt record := by
  rw [List.filter_filter]
  refine List.filter_congr fun record _ => ?_
  by_cases hlate : late < expiresAt record
  · rw [decide_eq_true hlate, decide_eq_true (hle.trans_lt hlate), Bool.and_self]
  · rw [decide_eq_false hlate, Bool.false_and]

/-- But for the approvals a pass early makes no difference late. -/
theorem pruneStore_pruneStore (hle : early ≤ late) :
    pruneStore (pruneStore store early) late =
      { pruneStore store late with
        approvalRequests :=
          pruneApprovals (pruneApprovals store.approvalRequests early) late } := by
  simp only [pruneStore, pruneExpiredLifecycles, filter_filter_unexpired _ hle]

/-- **A store that is pruned early and late**, when nothing expires in between. -/
theorem pruneStore_remarked (hle : early ≤ late)
    (hnone : NoneExpires early late store.approvalRequests) :
    List.Forall₂ (Remarked early late store.approvalRequests)
      (pruneStore (pruneStore store early) late).approvalRequests
      (pruneStore store late).approvalRequests := by
  have happrovals : (pruneStore (pruneStore store early) late).approvalRequests =
      pruneApprovals store.approvalRequests early := pruneApprovals_pruneApprovals hnone
  rw [happrovals]
  exact forall₂_pruneApprovals hle hnone

theorem pruneStore_pruneStore_of_unexpired (hle : early ≤ late)
    (hnone : ∀ request ∈ store.approvalRequests, request.status.isOpen = true →
      late < request.expiresAt) :
    pruneStore (pruneStore store early) late = pruneStore store late := by
  have hremarked := pruneStore_remarked hle fun request hrequest hopen _ =>
    hnone request hrequest hopen
  have hsame : (pruneStore (pruneStore store early) late).approvalRequests =
      (pruneStore store late).approvalRequests := by
    refine List.forall₂_eq_eq_eq ▸ hremarked.imp fun a b h => ?_
    rcases h with hsame | ⟨request, hrequest, hopen, helapsed, -⟩
    · exact hsame
    · exact absurd (hle.trans_lt (hnone request hrequest hopen)) (Nat.not_lt_of_le helapsed)
  rw [pruneStore_pruneStore hle]
  exact congrArg
    (fun approvals => { pruneStore store late with approvalRequests := approvals }) hsame

end

/-! ## 4. How many approvals are active -/

open Contracts Text WalletCurve WalletSigner Records Streams Streams.Effect Relation

/-- A completed transaction that waits for its outcome. -/
def awaitsOutcome (request : WalletApprovalRequest) : Bool :=
  request.status == .completed && request.intent == "transaction_intent" &&
    request.signedResult.isSome && request.validatedChainOutcome.isNone

/-- An approval of a principal that may still be active at some time. -/
def isLiveOf (principalId : String) (request : WalletApprovalRequest) : Bool :=
  request.principalId == principalId && (request.status.isOpen || awaitsOutcome request)

def Bounded (requests : List WalletApprovalRequest) : Prop :=
  ∀ principalId, requests.countP (isLiveOf principalId) ≤ MAX_ACTIVE_APPROVAL_REQUESTS_PER_PRINCIPAL

section

variable {principalId : String} {now : Nat} {a b : WalletApprovalRequest}
  {before after requests : List WalletApprovalRequest}

theorem isLiveOf_of_active
    (h : (a.principalId == principalId && approvalAuthorityIsActive a now) = true) :
    isLiveOf principalId a = true := by
  rw [Bool.and_eq_true] at h
  rw [isLiveOf, h.1, Bool.true_and, awaitsOutcome]
  rcases Bool.or_eq_true_iff.mp h.2 with hopen | hawaits
  · rw [(Bool.and_eq_true_iff.mp hopen).1, Bool.true_or]
  · rw [hawaits, Bool.or_true]

/-- **No move makes an approval live.** -/
theorem Moves.live (h : Moves a b) (hlive : isLiveOf principalId b = true) :
    isLiveOf principalId a = true := by
  have hprincipal : b.principalId = a.principalId := congrArg (·.principalId) h.asked_eq
  rw [isLiveOf, Bool.and_eq_true, hprincipal] at hlive
  rw [isLiveOf, hlive.1, Bool.true_and]
  obtain ⟨-, hlive⟩ := hlive
  cases h with
  | expired hopen => rw [hopen, Bool.true_or]
  | rejected hpending | approved hpending => rw [hpending]; rfl
  | completed happroved => rw [happroved]; rfl
  | attached hcompleted => simp [WalletApprovalRequest.attach, awaitsOutcome, hcompleted,
      ApprovalStatus.isOpen] at hlive

theorem live_of_moves (h : ReflTransGen Moves a b) (hlive : isLiveOf principalId b = true) :
    isLiveOf principalId a = true := by
  induction h with
  | refl => exact hlive
  | tail _ hlast ih => exact ih (hlast.live hlive)

/-- Approvals that came of others have no more live ones among them. -/
theorem Bounded.moves (h : Bounded before)
    (hunique : Unique WalletApprovalRequest.requestId after)
    (hmoves : ∀ b ∈ after, ∃ a ∈ before, ReflTransGen Moves a b) : Bounded after := by
  refine fun principalId => le_trans ?_ (h principalId)
  refine hunique.countP_le fun b hb hlive => ?_
  obtain ⟨a, ha, hab⟩ := hmoves b hb
  exact ⟨a, ha, live_of_moves hab hlive, congrArg (·.requestId) (asked_eq_of_moves hab).symm⟩

theorem Bounded.empty : Bounded WalletStore.empty.approvalRequests :=
  fun _ => Nat.zero_le _

theorem Bounded.pruned (h : Bounded requests) (now : Nat) :
    Bounded (pruneApprovals requests now) := by
  refine fun principalId => le_trans ((pruneApprovals_subperm requests now).countP_le _) ?_
  rw [List.countP_map]
  refine le_trans (List.countP_mono_left fun a _ hlive => ?_) (h principalId)
  exact live_of_moves (ages_expireApprovalIfElapsed a now).moves hlive

/-- **A new approval is stored only where there is room.** -/
theorem Bounded.accept (h : Bounded before)
    (hroom : (pruneApprovals before now).countP (fun request =>
      request.principalId == b.principalId && approvalAuthorityIsActive request now) <
        MAX_ACTIVE_APPROVAL_REQUESTS_PER_PRINCIPAL) :
    Bounded (pruneApprovals before now ++ [b]) := by
  intro principalId
  rw [List.countP_append, List.countP_singleton]
  by_cases hmine : principalId = b.principalId
  · have hlive : (pruneApprovals before now).countP (isLiveOf principalId) =
        (pruneApprovals before now).countP fun request =>
          request.principalId == b.principalId && approvalAuthorityIsActive request now := by
      refine List.countP_congr fun request hrequest => ?_
      obtain ⟨old, -, rfl⟩ := mem_of_mem_pruneApprovals hrequest
      refine ⟨fun hlive => ?_, fun hactive => hmine ▸ isLiveOf_of_active hactive⟩
      rw [isLiveOf, Bool.and_eq_true, hmine] at hlive
      rw [hlive.1, Bool.true_and, approvalAuthorityIsActive]
      rcases Bool.or_eq_true_iff.mp hlive.2 with hopen | hawaits
      · obtain ⟨hsame, hunexpired⟩ := unexpired_of_isOpen hopen
        rw [hsame] at hopen ⊢
        rw [hopen, decide_eq_true hunexpired]
        rfl
      · rw [awaitsOutcome] at hawaits
        rw [hawaits, Bool.or_true]
    rw [hlive]
    split <;> omega
  · have hother : isLiveOf principalId b = false := by
      rw [isLiveOf, beq_false_of_ne (Ne.symm hmine), Bool.false_and]
    rw [hother]
    exact h.pruned now principalId

/-- Store and file hold no more active approvals than are allowed. -/
structure BoundedProvider (p : WalletProvider) : Prop where
  store : Bounded p.store.approvalRequests
  disk : ∀ store, p.disk = some store → Bounded store.approvalRequests

end

section

variable [Curves] [Crypto] [WalletSigner] [BitcoinCrate] [Custody.Aes256Gcm] [SerdeJson]
  [DerivedSerialize] [ElastosAuth]

variable {e : Event} {s s' : WalletStore} {p : WalletProvider}

/-- Only a request for an approval stores one, and it looks for room first. -/
theorem Event.Leaves.bounded (h : e.Leaves s')
    (hunique : Unique WalletApprovalRequest.requestId e.store.approvalRequests)
    (hreplay : idempotentTransactionEffectReplay e.store e.request = none)
    (hbounded : Bounded e.store.approvalRequests) : Bounded s'.approvalRequests := by
  by_cases hasks : asksForApproval e.request.operation = true
  · rw [Leaves, dispatchWalletOperation] at h
    cases hop : e.request.operation <;> rw [hop] at hasks <;> try cases hasks
    · simp only [hop, does_bind, does_pure] at h
      obtain ⟨b, _, hdoes, -, rfl⟩ := h
      obtain ⟨account, expiresAt, haccepted, rfl, hstored⟩ :=
        requestProtectedContentRightsSignature_effect hdoes
      exact hstored ▸ hbounded.accept haccepted.room
    · simp only [hop, does_bind, does_pure] at h
      obtain ⟨b, _, hdoes, -, rfl⟩ := h
      obtain ⟨account, haccepted, rfl, hstored⟩ := requestApproval_effect hdoes
      exact hstored ▸ hbounded.accept haccepted.room
  · have hadvances := h.advances hunique hreplay
    refine hbounded.moves hadvances.unique fun b hb => ?_
    rcases hadvances.members b hb with ⟨a, ha, hages⟩ | ⟨a, ha, hchanges⟩ | haccepts
    · exact ⟨a, ha, hages.moves⟩
    · exact ⟨a, ha, hchanges.moves⟩
    · refine absurd ?_ hasks
      cases haccepts with
      | approval hoperation | rights hoperation => rw [hoperation]; rfl

variable {history : List Event}

theorem BoundedProvider.handle (h : BoundedProvider p) (hsound : SoundProvider history p)
    (occasion : Occasion) (request : WalletProviderRequestV2) :
    BoundedProvider (handleWalletContract p occasion request).2 := by
  have hkeeps := handle_keeps occasion request (P := fun s => Bounded s.approvalRequests) h.store
    h.disk h.store (fun _ hs => hs) fun reply changed hattempted _ hleaves => by
      have hchanged := hleaves.bounded hsound.store.unique
        (replay_eq_none_of_answerWithoutEffect hattempted.unanswered) h.store
      exact hchanged.pruned occasion.now
  exact ⟨hkeeps.1, hkeeps.2⟩

omit [DerivedSerialize] [ElastosAuth] in
theorem BoundedProvider.init (h : BoundedProvider p) (hsound : SoundProvider history p)
    (storageKey : Option (Bytes 32)) (fate : Fate) (now : Nat) :
    BoundedProvider (Wallet.init p.disk storageKey fate now) :=
  have hkeeps := init_keeps Bounded.empty h.disk hsound.disk
    (fun _ hs => hs.pruned now) storageKey fate
  ⟨hkeeps.1, hkeeps.2⟩

/-- **In a run that starts from nothing** no principal comes to have too many active approvals. -/
theorem Run.bounded {restarts : Bool} {begun time : Nat}
    (hrun : Run restarts (.stopped none) begun history time p) : BoundedProvider p := by
  have hstopped : SoundProvider [] (.stopped none) := SoundProvider.stopped fun _ h => by cases h
  induction hrun with
  | start => exact ⟨Bounded.empty, fun _ h => by cases h⟩
  | request hrun occasion request _ _ _ _ ih =>
    exact ih.handle (hrun.sound hstopped) occasion request
  | restart hrun _ storageKey fate now _ ih =>
    exact ih.init (hrun.sound hstopped) storageKey fate now

/-- **What pruning keeps.**  What is active and of each principal's settled approvals the newest, in
the order of their creation and nothing else; it leaves accounts, secrets and defaults alone, and
drops the challenges and the life cycles that are over.  A pass before changes nothing if nothing
expires in between, but for the time at which approvals that were over before it count as resolved.
No principal comes to have more active approvals than are allowed. -/
theorem prune_store_keeps :
    (∀ (store : WalletStore) (now : Nat),
      (pruneStore store now).approvalRequests.Sublist (marked store.approvalRequests now) ∧
      ((marked store.approvalRequests now).Pairwise fun a b => a.createdAt ≤ b.createdAt) ∧
      (∀ a b, [a, b].Sublist (store.approvalRequests.map (expireApprovalIfElapsed · now)) →
        a.createdAt ≤ b.createdAt → [a, b].Sublist (marked store.approvalRequests now)) ∧
      (pruneStore store now).approvalRequests.filter (approvalAuthorityIsActive · now) =
        (marked store.approvalRequests now).filter (approvalAuthorityIsActive · now) ∧
      (∀ request ∈ store.approvalRequests, approvalAuthorityIsActive request now = true →
        request ∈ (pruneStore store now).approvalRequests) ∧
      (∀ principalId,
        (pruneStore store now).approvalRequests.filter (isSettledOf principalId now) =
          newest MAX_RESOLVED_APPROVAL_HISTORY_PER_PRINCIPAL
            ((marked store.approvalRequests now).filter (isSettledOf principalId now))) ∧
      (pruneStore store now).accounts = store.accounts ∧
      (pruneStore store now).managedWallets = store.managedWallets ∧
      (pruneStore store now).defaultAccounts = store.defaultAccounts ∧
      (pruneStore store now).challenges =
        store.challenges.filter (fun stored => now < stored.challenge.expiresAt) ∧
      (pruneStore store now).bitcoinChallenges =
        store.bitcoinChallenges.filter (fun stored => now < stored.challenge.expiresAt) ∧
      (pruneStore store now).consumedLifecycles =
        store.consumedLifecycles.filter fun record => now < record.requestExpiresAt) ∧
    (∀ (store : WalletStore) (early late : Nat), early ≤ late →
      NoneExpires early late store.approvalRequests →
      pruneStore (pruneStore store early) late =
        { pruneStore store late with
          approvalRequests := (pruneStore (pruneStore store early) late).approvalRequests } ∧
      List.Forall₂ (Remarked early late store.approvalRequests)
        (pruneStore (pruneStore store early) late).approvalRequests
        (pruneStore store late).approvalRequests ∧
      ((∀ request ∈ store.approvalRequests, request.status.isOpen = true →
        early < request.expiresAt) →
          pruneStore (pruneStore store early) late = pruneStore store late)) ∧
    ∀ restarts begun history time p, Run restarts (.stopped none) begun history time p →
      ∀ principalId now, p.store.approvalRequests.countP (fun request =>
        request.principalId == principalId && approvalAuthorityIsActive request now) ≤
          MAX_ACTIVE_APPROVAL_REQUESTS_PER_PRINCIPAL := by
  refine ⟨fun store now => ?_, fun store early late hle hnone => ?_, ?_⟩
  · refine ⟨pruneApprovals_sublist _ _, marked_sorted _ _, fun _ _ => marked_stable,
      filter_active_pruneApprovals _ _, fun request hrequest hactive => ?_,
      fun principalId => filter_settled_pruneApprovals principalId _ _, rfl, rfl, rfl, rfl, rfl,
      rfl⟩
    refine mem_pruneApprovals_of_active hrequest hactive (if_neg fun helapsed => ?_)
    rw [approvalAuthorityIsActive, decide_eq_false (Nat.not_lt_of_le helapsed.2), Bool.and_false,
      Bool.false_or] at hactive
    have hcompleted : request.status = .completed := by
      simp only [Bool.and_eq_true, beq_iff_eq] at hactive
      exact hactive.1.1.1
    rw [hcompleted] at helapsed
    exact absurd helapsed.1 Bool.false_ne_true
  · refine ⟨pruneStore_pruneStore hle, pruneStore_remarked hle hnone, fun hopen => ?_⟩
    exact pruneStore_pruneStore_of_unexpired hle fun request hrequest h =>
      hnone request hrequest h (hopen request hrequest h)
  · intro restarts begun history time p hrun principalId now
    refine le_trans (List.countP_mono_left fun request _ hactive => ?_)
      (hrun.bounded.store principalId)
    exact isLiveOf_of_active hactive

end

/-! ## 5. An approval whose time is up -/

namespace Sample

attribute [local instance] acceptingCurves keyEchoCrypto plainSigner plainBitcoin plainAes plainJson
  plainSerialize plainAuth

def overdueStore : WalletStore := { WalletStore.empty with approvalRequests := [asked] }

/-- Its time is up at 1000.  It is marked with the time of the first pass that sees it. -/
theorem prune_twice_fails : ∃ (store : WalletStore) (early late : Nat), early ≤ late ∧
    NoneExpires early late store.approvalRequests ∧
    (∀ principalId, store.approvalRequests.countP (isSettledOf principalId early) ≤
      MAX_RESOLVED_APPROVAL_HISTORY_PER_PRINCIPAL) ∧
    pruneStore (pruneStore store early) late ≠ pruneStore store late := by
  refine ⟨overdueStore, 1000, 2000, by decide, ?_, fun principalId => ?_, fun hsame => ?_⟩
  · intro request hrequest _ hunexpired
    rw [List.mem_singleton.mp hrequest] at hunexpired
    exact absurd hunexpired (by decide)
  · exact List.countP_le_length.trans (by decide)
  · have hresolved := congrArg (fun store => store.approvalRequests.map (·.resolvedAt)) hsame
    have hearly : (pruneStore (pruneStore overdueStore 1000) 2000).approvalRequests.map
        (·.resolvedAt) = [some 1000] := by rfl
    have hlate : (pruneStore overdueStore 2000).approvalRequests.map (·.resolvedAt) =
        [some 2000] := by rfl
    rw [hearly, hlate] at hresolved
    exact absurd hresolved (by decide)

theorem prune_store_keeps_completed :
    completedProvider.store.approvalRequests.countP (fun request =>
      request.principalId == "owner" && approvalAuthorityIsActive request 400) ≤
        MAX_ACTIVE_APPROVAL_REQUESTS_PER_PRINCIPAL ∧
    pruneStore (pruneStore overdueStore 100) 200 = pruneStore overdueStore 200 := by
  obtain ⟨-, htwice, hbounded⟩ := prune_store_keeps
  refine ⟨hbounded _ _ _ _ _ (complete_run started_run) "owner" 400, ?_⟩
  refine (htwice overdueStore 100 200 (by decide) ?_).2.2 ?_
  · intro request hrequest _ _
    rw [List.mem_singleton.mp hrequest]
    decide
  · intro request hrequest _
    rw [List.mem_singleton.mp hrequest]
    decide

end Sample

end ElastosRuntime.Wallet
