/-
# Who calls the providers first

`release` decides from two calls of the journal whether it is the one to call the providers: it
persists its draft, goes on only if the record that comes back is not marked, and marks it.  The two
calls are atomic each but not together, and marking a marked record is no error, so two callers that
persist before either of them marks both go on (`double_dispatch`).

`initial_dispatch_once` is what holds as long as every mark is put on a record that has none: one
call at most sends the first requests of an operation, and the others report the stored result, that
the outcome is open, or what is wrong.
-/
import ElastosRuntime.Coordinator.Calls

namespace ElastosRuntime.ReleaseCoordinator

open Codec Contracts ReleaseJournal Program

section

variable [Curves] [Crypto] [WalletCurve] [WalletProtocol]

/-! ## 1. Dispatch -/

/-- A provider hears of the operation. -/
def CoordinatorOp.Dispatches : CoordinatorOp → Prop
  | evaluateRights _ _ => True
  | releaseContribution _ _ => True
  | _ => False

def Dispatched (h : History CoordinatorOp.Reply) : Prop := ∃ event ∈ h, event.1.Dispatches

omit [Crypto] [WalletCurve] [WalletProtocol] in
theorem Dispatched.mono {h h' : History CoordinatorOp.Reply} (hd : Dispatched h)
    (hext : h <+: h') : Dispatched h' :=
  let ⟨event, hevent, hdispatches⟩ := hd
  ⟨event, hext.subset hevent, hdispatches⟩

/-- A `release` call of the operation with this hash. -/
def CoordinatorCall.Releases (call : CoordinatorCall) (operationHash : Digest32) : Prop :=
  match call.request with
  | .release _ _ signed _ => canonicalHash signed = .ok operationHash
  | _ => False

/-- What the call brings with it is in order: the coordinator finds nothing wrong with it, whatever
the journal and the providers do. -/
structure Admitted (c : RuntimeReleaseCoordinator) (walletRequestBytes walletResponseBytes :
    List UInt8) (signed : SignedRuntimeReleaseOperationV1) (now : UInt64) : Prop where
  wallet : validateWalletExchange walletRequestBytes walletResponseBytes signed now = .ok ()
  operation : ∃ authenticated orderedProviders,
    signed.verify c.expectedRuntimeIssuer now = .ok authenticated ∧
      c.selectedOrderedProviders authenticated = .ok orderedProviders
  draft : ∃ draft operationHash,
    RuntimeReleaseOperationDraft.new walletRequestBytes walletResponseBytes signed = .ok draft ∧
      draft.operationHash = .ok operationHash
  requests : ∀ provider ∈ c.selectedProviders, ∃ request,
    RightsProviderRequestV1.newEvaluate provider signed = .ok request

/-- **How a `release` call ends that has not called a provider**: with the stored result, with the
report that the outcome is open, or, when it was not in order or the journal refused a call, with an
error. -/
inductive Undispatched (c : RuntimeReleaseCoordinator) (walletRequestBytes walletResponseBytes :
    List UInt8) (signed : SignedRuntimeReleaseOperationV1) (now : UInt64)
    (h : History CoordinatorOp.Reply) :
    Except RuntimeReleaseCoordinatorError RuntimeReleaseCoordinatorOutcome → Prop
  | replayed {draft : RuntimeReleaseOperationDraft} {v : PersistedRuntimeReleaseOperation}
      {terminal : RuntimeReleaseTerminalResult}
      (hreply : Event.answered (.persistBeforeProviderEffect draft) v ∈ h)
      (hterminal : v.terminalResult = some terminal) :
      Undispatched c walletRequestBytes walletResponseBytes signed now h (.ok (.terminal terminal))
  | unresolved {draft : RuntimeReleaseOperationDraft} {v : PersistedRuntimeReleaseOperation}
      {operationHash : Digest32}
      (hreply : Event.answered (.persistBeforeProviderEffect draft) v ∈ h)
      (hopen : v.terminalResult = none) (hstarted : v.providerEffectStarted = true)
      (hhash : canonicalHash signed = .ok operationHash) :
      Undispatched c walletRequestBytes walletResponseBytes signed now h
        (.ok (.nonterminal operationHash .providerEffectAlreadyStarted))
  | failed {e : RuntimeReleaseCoordinatorError}
      (hwhy : ¬Admitted c walletRequestBytes walletResponseBytes signed now ∨
        ∃ call error, Event.refused call error ∈ h) :
      Undispatched c walletRequestBytes walletResponseBytes signed now h (.error e)

/-- A call that has called a provider has marked the record of its operation before ... -/
def DispatchPre (call : CoordinatorCall) (h : History CoordinatorOp.Reply) (op : CoordinatorOp) :
    Prop :=
  match call.request with
  | .release _ _ signed _ => op.Dispatches → ∃ draft v,
      draft.signedRuntimeReleaseOperation = signed ∧
        Event.answered (.markProviderEffectStarted draft) v ∈ h
  | _ => True

/-- ... and one that has not has ended as described. -/
def DispatchPost (call : CoordinatorCall) (h : History CoordinatorOp.Reply)
    (result : Except RuntimeReleaseCoordinatorError RuntimeReleaseCoordinatorOutcome) : Prop :=
  match call.request with
  | .release walletRequestBytes walletResponseBytes signed now => ¬Dispatched h →
      Undispatched call.coordinator walletRequestBytes walletResponseBytes signed now h result
  | _ => True

/-! ## 2. What `release` does before the first request -/

variable {authenticated : AuthenticatedRuntimeReleaseOperationV1}

omit [Crypto] [WalletCurve] [WalletProtocol] in
theorem operationNodeSet_required {nodeSet : NodeSetV1}
    (h : operationNodeSet authenticated = .ok nodeSet) : 2 ≤ nodeSet.threshold.required.toNat := by
  obtain ⟨⟨⟩, hvalid, hnodes⟩ := bind_eq_ok.mp (orElse_eq_ok.mp h)
  cases hnodes
  have hthreshold := rejectIf_eq_ok.mp (NodeSetV1.valid_parts hvalid).1
  simp only [not_or, UInt8.not_lt] at hthreshold
  exact UInt8.le_iff_toNat_le.mp hthreshold.1

variable {c : RuntimeReleaseCoordinator}

omit [Crypto] [WalletCurve] [WalletProtocol] in
/-- The providers that are asked: enough of them, all selected and all in the node set. -/
theorem selectedOrderedProviders_eq_ok {orderedProviders : List NodePublicKey}
    (h : c.selectedOrderedProviders authenticated = .ok orderedProviders) :
    ∃ nodeSet, operationNodeSet authenticated = .ok nodeSet ∧
      nodeSet.threshold.required.toNat ≤ orderedProviders.length ∧
        ∀ provider ∈ orderedProviders, provider ∈ c.selectedProviders := by
  obtain ⟨nodeSet, hnodes, h⟩ := bind_eq_ok.mp h
  obtain ⟨⟨⟩, _, h⟩ := bind_eq_ok.mp h
  obtain ⟨⟨⟩, henough, h⟩ := bind_eq_ok.mp h
  cases h
  refine ⟨nodeSet, hnodes, Nat.not_lt.mp (failIf_eq_ok.mp henough), fun provider hmem => ?_⟩
  exact of_decide_eq_true (List.mem_filter.mp hmem).2

section

variable {Valid : ∀ op, CoordinatorOp.Reply op → Prop}
  {Pre : History CoordinatorOp.Reply → CoordinatorOp → Prop} {h : History CoordinatorOp.Reply}
  {c : RuntimeReleaseCoordinator} {context : StartedOperationContext} {nodeSet : NodeSetV1}

omit [WalletProtocol] in
/-- A walk without decisions starts with a request to the first provider. -/
theorem collectRightsDecisions_eq
    (hnodes : operationNodeSet context.authenticated = .ok nodeSet)
    (hnone : context.replayableRightsDecisions = [])
    (hproviders : nodeSet.threshold.required.toNat ≤ context.orderedProviders.length) :
    ∃ provider ∈ context.orderedProviders, ∃ next : RightsProviderRequestV1 →
        Except Unit RightsProviderResponseV1 → CoordinatorProgram StartedOperationCollection,
      c.collectRightsDecisions context = lift (orElse .operationAuthority
          (RightsProviderRequestV1.newEvaluate provider context.signedRuntimeReleaseOperation)) >>=
        fun request => .perform (.evaluateRights provider request) (next request) := by
  have hrequired := operationNodeSet_required hnodes
  have hthreshold : context.threshold = .ok nodeSet.threshold.required.toNat := by
    rw [StartedOperationContext.threshold, hnodes]
    rfl
  have hpersisted : c.persistedRightsDecisionsByNode context nodeSet = pure ∅ := by
    rw [RuntimeReleaseCoordinator.persistedRightsDecisionsByNode, hnone]
    rfl
  have hempty : Table.size (∅ : RuntimeReleaseCoordinator.DecisionsByNode) = 0 := rfl
  obtain ⟨provider, providers, hordered⟩ : ∃ provider providers,
      context.orderedProviders = provider :: providers := by
    cases hordered : context.orderedProviders with
    | nil =>
      rw [hordered, List.length_nil] at hproviders
      omega
    | cons provider providers => exact ⟨provider, providers, rfl⟩
  refine ⟨provider, hordered ▸ List.mem_cons_self, ?_⟩
  rw [RuntimeReleaseCoordinator.collectRightsDecisions, hnodes, lift_ok_bind, hthreshold,
    lift_ok_bind, hpersisted, pure_ok_bind, if_neg (by omega), hordered, RuntimeReleaseCoordinator.walkForDecisions,
    if_neg (AList.notMem_empty provider)]
  exact ⟨_, rfl⟩

omit [WalletProtocol] in
theorem resolveStartedOperation_eq {operationHash : Digest32}
    (hnodes : operationNodeSet context.authenticated = .ok nodeSet)
    (hnone : context.replayableRightsDecisions = [])
    (hproviders : nodeSet.threshold.required.toNat ≤ context.orderedProviders.length)
    (hrequests : ∀ provider ∈ context.orderedProviders, ∃ request,
      RightsProviderRequestV1.newEvaluate provider context.signedRuntimeReleaseOperation =
        .ok request) :
    ∃ provider request, ∃ next : Except Unit RightsProviderResponseV1 →
        CoordinatorProgram RuntimeReleaseCoordinatorOutcome,
      c.resolveStartedOperation context operationHash =
        .perform (.evaluateRights provider request) next := by
  obtain ⟨provider, hprovider, next, hcollect⟩ :=
    collectRightsDecisions_eq (c := c) hnodes hnone hproviders
  obtain ⟨request, hrequest⟩ := hrequests provider hprovider
  rw [RuntimeReleaseCoordinator.resolveStartedOperation, hcollect, hrequest]
  exact ⟨provider, request, _, rfl⟩

omit [WalletProtocol] in
/-- The first provider is asked, unless its request cannot be made. -/
theorem collectRightsDecisions_dispatches (hpre : ∀ h', h <+: h' → ∀ op, Pre h' op)
    (hnodes : operationNodeSet context.authenticated = .ok nodeSet)
    (hnone : context.replayableRightsDecisions = [])
    (hproviders : nodeSet.threshold.required.toNat ≤ context.orderedProviders.length) :
    Obeys Valid Pre (fun h' result => Dispatched h' ∨ ∃ e, result = .error e ∧
      ∃ provider ∈ context.orderedProviders, ∀ request, RightsProviderRequestV1.newEvaluate provider
        context.signedRuntimeReleaseOperation ≠ .ok request) h
      (c.collectRightsDecisions context) := by
  obtain ⟨provider, hprovider, next, heq⟩ := collectRightsDecisions_eq hnodes hnone hproviders
  rw [heq]
  refine .lift (fun request _ => ?_) fun e herror => ?_
  · refine ⟨hpre h List.prefix_rfl _, fun reply _ => .of_forall fun h' hext => ⟨?_, ?_⟩⟩
    · exact hpre h' ((List.prefix_append _ _).trans hext)
    · exact fun result => .inl ⟨_, hext.subset (List.mem_append_right _
        (List.mem_singleton.mpr rfl)), trivial⟩
  · refine .inr ⟨e, rfl, provider, hprovider, fun request hrequest => ?_⟩
    rw [hrequest] at herror
    exact nomatch herror

omit [WalletProtocol] in
theorem resolveStartedOperation_dispatches {operationHash : Digest32}
    {Post : History CoordinatorOp.Reply →
      Except RuntimeReleaseCoordinatorError RuntimeReleaseCoordinatorOutcome → Prop}
    (hpre : ∀ h', h <+: h' → ∀ op, Pre h' op)
    (hnodes : operationNodeSet context.authenticated = .ok nodeSet)
    (hnone : context.replayableRightsDecisions = [])
    (hproviders : nodeSet.threshold.required.toNat ≤ context.orderedProviders.length)
    (hdispatched : ∀ h', Dispatched h' → ∀ result, Post h' result)
    (herror : ∀ h' e, (∃ provider ∈ context.orderedProviders, ∀ request,
      RightsProviderRequestV1.newEvaluate provider context.signedRuntimeReleaseOperation ≠
        .ok request) → Post h' (.error e)) :
    Obeys Valid Pre Post h (c.resolveStartedOperation context operationHash) := by
  rw [RuntimeReleaseCoordinator.resolveStartedOperation]
  refine .andThen
    (.extends (collectRightsDecisions_dispatches hpre hnodes hnone hproviders)) ?_ ?_
  · rintro h' collection ⟨hext, hd | ⟨e, hresult, _⟩⟩
    · exact .of_forall fun h'' hext' => ⟨hpre h'' (hext.trans hext'),
        hdispatched h'' (hd.mono hext')⟩
    · exact nomatch hresult
  · rintro h' e ⟨_, hd | ⟨_, _, hrequest⟩⟩
    · exact hdispatched h' hd _
    · exact herror h' e hrequest

end

/-- **What `release` does**: it asks a provider only after it has marked the record. -/
theorem release_obeys (call : CoordinatorCall) :
    Obeys (fun _ _ => True) (DispatchPre call) (DispatchPost call) [] call.program := by
  obtain ⟨c, request⟩ := call
  cases request with
  | resumeExact operationHash now => exact .of_forall fun _ _ => ⟨fun _ => trivial, fun _ => trivial⟩
  | reconcile operationHash offer now =>
    exact .of_forall fun _ _ => ⟨fun _ => trivial, fun _ => trivial⟩
  | release walletRequestBytes walletResponseBytes signed now =>
    change Obeys _ _ _ [] (c.release walletRequestBytes walletResponseBytes signed now)
    refine .lift (fun ⟨⟩ hwallet => ?_) fun e herror _ => .failed (.inl fun hadmitted => ?_)
    rotate_left
    · cases hadmitted.wallet.symm.trans herror
    refine .lift (fun authenticated hverify => ?_) fun e herror _ => .failed (.inl fun hadmitted => ?_)
    rotate_left
    · obtain ⟨_, _, hverify, _⟩ := hadmitted.operation
      rw [hverify] at herror
      cases herror
    rw [orElse_eq_ok] at hverify
    refine .lift (fun draft hdraft => ?_) fun e herror _ => .failed (.inl fun hadmitted => ?_)
    rotate_left
    · obtain ⟨_, _, hdraft, _⟩ := hadmitted.draft
      rw [hdraft] at herror
      cases herror
    rw [orElse_eq_ok] at hdraft
    have hsigned : draft.signedRuntimeReleaseOperation = signed := by
      unfold RuntimeReleaseOperationDraft.new at hdraft
      split at hdraft
      · cases hdraft
      · cases hdraft
        rfl
    have hhashed : ∀ {x e}, orElse RuntimeReleaseCoordinatorError.journal draft.operationHash =
        .error x → e = x → ¬Admitted c walletRequestBytes walletResponseBytes signed now := by
      intro x e herror _ hadmitted
      obtain ⟨draft', hash, hdraft', hhash⟩ := hadmitted.draft
      obtain rfl := Except.ok.inj (hdraft.symm.trans hdraft')
      rw [hhash] at herror
      cases herror
    refine obeys_callJournal (fun hdispatches => hdispatches.elim) (fun v _ => ?_)
      fun e _ => .failed (.inr ⟨_, e, List.mem_singleton.mpr rfl⟩)
    cases hterminal : v.terminalResult with
    | some terminal => exact fun _ => .replayed (List.mem_singleton.mpr rfl) hterminal
    | none =>
      change Obeys _ _ _ _ (if _ then _ else _)
      split
      · next hstarted =>
        refine .lift (fun hash hhash _ => ?_) fun e herror _ => .failed (.inl (hhashed herror rfl))
        rw [orElse_eq_ok] at hhash
        have hhash : canonicalHash signed = .ok hash := hsigned ▸ orCorrupt_eq_ok.mp hhash
        exact .unresolved (List.mem_singleton.mpr rfl) hterminal hstarted hhash
      · refine .lift (fun orderedProviders hproviders => ?_)
          fun e herror _ => .failed (.inl fun hadmitted => ?_)
        rotate_left
        · obtain ⟨_, _, hverify', hproviders⟩ := hadmitted.operation
          obtain rfl := Except.ok.inj (hverify.symm.trans hverify')
          cases hproviders.symm.trans herror
        obtain ⟨nodeSet, hnodes, henough, hselected⟩ := selectedOrderedProviders_eq_ok hproviders
        refine obeys_callJournal (fun hdispatches => hdispatches.elim) (fun w _ => ?_)
          fun e _ => .failed (.inr ⟨_, e, List.mem_append_right _ (List.mem_singleton.mpr rfl)⟩)
        refine .lift (fun hash hhash => ?_) fun e herror _ => .failed (.inl (hhashed herror rfl))
        -- from here on the record is marked
        have hpre : ∀ h', [] ++ [Event.answered (.persistBeforeProviderEffect draft) v] ++
            [Event.answered (.markProviderEffectStarted draft) w] <+: h' → ∀ op,
              DispatchPre ⟨c, .release walletRequestBytes walletResponseBytes signed now⟩ h' op :=
          fun h' hext op _ => ⟨draft, w, hsigned, hext.subset
            (List.mem_append_right _ (List.mem_singleton.mpr rfl))⟩
        refine resolveStartedOperation_dispatches hpre hnodes rfl henough
          (fun h' hdispatched _ hnot => absurd hdispatched hnot) ?_
        rintro h' e ⟨provider, hprovider, hrequest⟩ _
        refine .failed (.inl fun hadmitted => ?_)
        obtain ⟨request, hmade⟩ := hadmitted.requests provider (hselected provider hprovider)
        exact hrequest request hmade

/-! ## 3. Every interleaving -/

/-- A mark is put on a record that has none: no two calls of an operation persist before one of them
marks. -/
def MarksFresh (system : System) (label : PoolLabel CoordinatorCall Choice) : Prop :=
  ∀ caller choice call draft next history, label = .proceed caller choice →
    system.calls[caller]? =
        some ⟨call, .perform (.journal (.markProviderEffectStarted draft)) next, history⟩ →
      ∀ slot v, system.shared.Holds slot v → v.draft.operationHash = draft.operationHash →
        v.providerEffectStarted = false

/-- The record of an operation is marked. -/
def Marked (operationHash : Digest32) (J : Journal) : Prop :=
  ∃ slot v, J.Holds slot v ∧ v.draft.operationHash = .ok operationHash ∧
    v.providerEffectStarted = true

/-- A successful call of `mark_provider_effect_started` for an operation. -/
def Marks (operationHash : Digest32) (event : Event) : Prop :=
  ∃ draft v, draft.operationHash = .ok operationHash ∧
    event = Event.answered (.markProviderEffectStarted draft) v

omit [WalletCurve] [WalletProtocol] in
/-- Only a call of the journal gets a record for an answer. -/
theorem eq_of_handle_answered {op : CoordinatorOp} {choice : Choice} {J : Journal}
    {call : JournalCall} {v : PersistedRuntimeReleaseOperation}
    (h : (⟨op, (op.handle choice J).1⟩ : Event) = Event.answered call v) :
    op = .journal call ∧ (J.call call choice.fate).1 = .ok v := by
  obtain ⟨rfl, hreply⟩ := Sigma.mk.inj h
  exact ⟨rfl, eq_of_heq hreply⟩

omit [WalletCurve] [WalletProtocol] in
theorem recordsInv_handle (op : CoordinatorOp) (choice : Choice) (J : Journal)
    (hJ : J.RecordsInv) : (op.handle choice J).2.RecordsInv := by
  cases op with
  | journal call => exact hJ.after
  | evaluateRights => exact hJ
  | releaseContribution => exact hJ
  | clock => exact hJ

variable {operationHash : Digest32}

omit [WalletCurve] [WalletProtocol] in
theorem marked_of_marks (op : CoordinatorOp) (choice : Choice) (J : Journal) (hJ : J.RecordsInv)
    (h : Marks operationHash ⟨op, (op.handle choice J).1⟩) :
    Marked operationHash (op.handle choice J).2 := by
  obtain ⟨draft, v, hhash, hevent⟩ := h
  obtain ⟨rfl, hreply⟩ := eq_of_handle_answered hevent
  obtain ⟨hdraft, hmarked⟩ := hJ.answers hreply
  obtain ⟨slot, hheld⟩ := Journal.holds_of_call_eq_ok hJ.sound hreply
  exact ⟨slot, v, hheld, hdraft ▸ hhash, hmarked⟩

omit [WalletCurve] [WalletProtocol] in
/-- A mark stays. -/
theorem Marked.handle (op : CoordinatorOp) (choice : Choice) (J : Journal) (hJ : J.RecordsInv)
    (h : Marked operationHash J) : Marked operationHash (op.handle choice J).2 := by
  cases op with
  | journal call =>
    obtain ⟨slot, v, hheld, hhash, hmarked⟩ := h
    have hafter : (J.call call choice.fate).2.Holds slot v ∨
        ∃ v', Update call v v' ∧ (J.call call choice.fate).2.Holds slot v' := hheld.after hJ.sound
    rcases hafter with hheld | ⟨v', hupdate, hheld⟩
    · exact ⟨slot, v, hheld, hhash, hmarked⟩
    · have hgrows := Grows.of_update hupdate
      exact ⟨slot, v', hheld, hgrows.draft ▸ hhash, hgrows.started hmarked⟩
  | evaluateRights => exact h
  | releaseContribution => exact h
  | clock => exact h

/-- **The calls of one operation share one dispatch.** -/
structure InitialDispatch (system : System) : Prop where
  once : ∀ (operationHash : Digest32) (i j : Nat) call call', system.calls[i]? = some call →
    system.calls[j]? = some call' → call.request.Releases operationHash →
      call'.request.Releases operationHash → Dispatched call.history →
        Dispatched call'.history → i = j
  others : ∀ call ∈ system.calls, ∀ c walletRequestBytes walletResponseBytes signed now result,
    call.request = ⟨c, .release walletRequestBytes walletResponseBytes signed now⟩ →
      call.rest = .done result → ¬Dispatched call.history →
        Undispatched c walletRequestBytes walletResponseBytes signed now call.history result

omit [WalletCurve] [WalletProtocol] in
/-- A `release` call that has called a provider has marked its operation. -/
theorem Releases.marks {call : CoordinatorCall} {h : History CoordinatorOp.Reply}
    (hreleases : call.Releases operationHash) (hfollowed : Followed (DispatchPre call) h)
    (hdispatched : Dispatched h) : ∃ event ∈ h, Marks operationHash event := by
  obtain ⟨c, request⟩ := call
  cases request with
  | resumeExact => exact hreleases.elim
  | reconcile => exact hreleases.elim
  | release walletRequestBytes walletResponseBytes signed now =>
    obtain ⟨event, hevent, hdispatches⟩ := hdispatched
    obtain ⟨before, after, rfl⟩ := List.append_of_mem hevent
    obtain ⟨draft, v, rfl, hmark⟩ := hfollowed before event after rfl hdispatches
    refine ⟨_, List.mem_append_left _ hmark, draft, v, ?_, rfl⟩
    exact orCorrupt_eq_ok.mpr hreleases

/-- The invariant: who has marked an operation is the only one, and has left the mark. -/
structure OneMark (operationHash : Digest32) (system : System) : Prop where
  shared : system.shared.RecordsInv
  once : Pool.Once (Marks operationHash) (Marked operationHash) system

theorem OneMark.step {s t : System} {label : PoolLabel CoordinatorCall Choice}
    (hs : OneMark operationHash s) (hfresh : MarksFresh s label)
    (hstep : System.step s label = some t) :
    OneMark operationHash t where
  shared := by
    have hrun : Transition.run System.step s [label] = some t :=
      Transition.run_cons_eq_some.mpr ⟨t, hstep, rfl⟩
    exact Pool.shared_invariant recordsInv_handle hs.shared hrun
  once := by
    refine hs.once.step marked_of_marks Marked.handle hs.shared ?_ hstep
    rintro caller choice call op next history hlabel hcall ⟨draft, v, hhash, hevent⟩ hmarked
    obtain ⟨rfl, -⟩ := eq_of_handle_answered hevent
    obtain ⟨slot, w, hheld, hhash', hstarted⟩ := hmarked
    have hunmarked := hfresh caller choice call draft next history hlabel hcall slot w hheld
      (hhash'.trans hhash.symm)
    exact nomatch hstarted.symm.trans hunmarked

theorem OneMark.run {s t : System} {labels : List (PoolLabel CoordinatorCall Choice)}
    (hs : OneMark operationHash s) (hfresh : Transition.Guarded System.step MarksFresh s labels)
    (hrun : Transition.run System.step s labels = some t) : OneMark operationHash t :=
  Transition.run_invariant (fun _ _ _ hs hguard hstep => hs.step hguard hstep) hs hfresh hrun

/-- **At most one initial dispatch**, in every interleaving of the calls of a journal in which no
mark is put on a marked record. -/
theorem initial_dispatch_once {J : Journal} (hJ : J.Reachable)
    {labels : List (PoolLabel CoordinatorCall Choice)} {system : System}
    (hfresh : Transition.Guarded System.step MarksFresh (System.idle J) labels)
    (hrun : Transition.run System.step (System.idle J) labels = some system) :
    InitialDispatch system := by
  have hkeeps : Pool.Keeps (fun _ _ => True) DispatchPre DispatchPost Journal.RecordsInv system :=
    Pool.Keeps.run release_obeys
      (fun _ _ op choice J hJ _ => ⟨trivial, recordsInv_handle op choice J hJ⟩)
      ⟨hJ.recordsInv, fun _ h => absurd h List.not_mem_nil, fun _ h => absurd h List.not_mem_nil⟩
      hrun
  constructor
  · intro operationHash i j call call' hi hj hreleases hreleases' hdispatched hdispatched'
    have hidle : OneMark operationHash (System.idle J) :=
      ⟨hJ.recordsInv, fun _ h => absurd h List.not_mem_nil,
        fun _ _ _ _ h => (nomatch List.getElem?_nil.symm.trans h)⟩
    have hmark := Releases.marks hreleases
      (hkeeps.followed call (List.mem_of_getElem? hi)) hdispatched
    have hmark' := Releases.marks hreleases'
      (hkeeps.followed call' (List.mem_of_getElem? hj)) hdispatched'
    exact (hidle.run hfresh hrun).once.once i j call call' hi hj hmark hmark'
  · rintro ⟨_, rest, history⟩ hcall c walletRequestBytes walletResponseBytes signed now result rfl
      rfl hnot
    exact hkeeps.calls _ hcall hnot

/-! ## 4. Two callers -/

/-- The steps of a call that is in order, up to its first request. -/
theorem Admitted.release_eq {walletRequestBytes walletResponseBytes : List UInt8}
    {signed : SignedRuntimeReleaseOperationV1} {now : UInt64}
    (hadmitted : Admitted c walletRequestBytes walletResponseBytes signed now)
    {draft : RuntimeReleaseOperationDraft}
    (hdraft : RuntimeReleaseOperationDraft.new walletRequestBytes walletResponseBytes signed = .ok
      draft) :
    ∃ afterPersist, c.release walletRequestBytes walletResponseBytes signed now =
        .perform (.journal (.persistBeforeProviderEffect draft)) afterPersist ∧
      ∀ v : PersistedRuntimeReleaseOperation, v.terminalResult = none →
        v.providerEffectStarted = false → ∃ afterMark,
          afterPersist (.ok v : Except RuntimeReleaseJournalError _) =
              .perform (.journal (.markProviderEffectStarted draft)) afterMark ∧
            ∀ w : PersistedRuntimeReleaseOperation, ∃ provider request afterRequest,
              afterMark (.ok w : Except RuntimeReleaseJournalError _) =
                .perform (.evaluateRights provider request) afterRequest := by
  obtain ⟨authenticated, orderedProviders, hverify, hordered⟩ := hadmitted.operation
  obtain ⟨draft', operationHash, hdraft', hhash⟩ := hadmitted.draft
  obtain rfl := Except.ok.inj (hdraft.symm.trans hdraft')
  obtain ⟨nodeSet, hnodes, henough, hselected⟩ := selectedOrderedProviders_eq_ok hordered
  rw [RuntimeReleaseCoordinator.release, hadmitted.wallet, hverify, hdraft]
  simp only [orElse_ok, lift_ok_bind, hordered, hhash, callJournal_bind]
  refine ⟨_, rfl, fun v hopen hunmarked => ?_⟩
  simp only [orElse_ok, lift_ok_bind, hopen, hunmarked, Bool.false_eq_true, if_false]
  refine ⟨_, rfl, fun w => ?_⟩
  simp only [orElse_ok, lift_ok_bind]
  exact resolveStartedOperation_eq hnodes rfl henough
    fun provider hprovider => hadmitted.requests provider (hselected provider hprovider)

/-- Every call of the journal goes through and no provider answers. -/
def quiet : Choice := ⟨.completed, .error (), .error (), 0⟩

/-- Two callers in step: both persist, both mark, both send their first request. -/
def inStep (call : CoordinatorCall) : List (PoolLabel CoordinatorCall Choice) :=
  [.start call, .start call, .proceed 0 quiet, .proceed 1 quiet, .proceed 0 quiet, .proceed 1 quiet,
    .proceed 0 quiet, .proceed 1 quiet]

/-- One caller, up to its first request. -/
def alone (call : CoordinatorCall) : List (PoolLabel CoordinatorCall Choice) :=
  [.start call, .proceed 0 quiet, .proceed 0 quiet, .proceed 0 quiet]

section

variable {c : RuntimeReleaseCoordinator} {walletRequestBytes walletResponseBytes : List UInt8}
  {signed : SignedRuntimeReleaseOperationV1} {now : UInt64} {draft : RuntimeReleaseOperationDraft}
  {entry marked : StoreEntry}

/-- The first operations of a call that is in order, on a journal that does not know it and on the
one that an equal call has left. -/
structure FirstMoves (program : CoordinatorProgram RuntimeReleaseCoordinatorOutcome)
    (draft : RuntimeReleaseOperationDraft)
    (persisted started asked : CoordinatorProgram RuntimeReleaseCoordinatorOutcome) (asks : Event)
    (J₁ J₂ : Journal) : Prop where
  persist : Pool.Moves CoordinatorOp.handle quiet ∅ program
    (Event.answered (.persistBeforeProviderEffect draft) (.fresh draft)) J₁ persisted
  persistAgain : Pool.Moves CoordinatorOp.handle quiet J₁ program
    (Event.answered (.persistBeforeProviderEffect draft) (.fresh draft)) J₁ persisted
  mark : Pool.Moves CoordinatorOp.handle quiet J₁ persisted
    (Event.answered (.markProviderEffectStarted draft) ⟨draft, none, [], true⟩) J₂ started
  markAgain : Pool.Moves CoordinatorOp.handle quiet J₂ persisted
    (Event.answered (.markProviderEffectStarted draft) ⟨draft, none, [], true⟩) J₂ started
  ask : Pool.Moves CoordinatorOp.handle quiet J₂ started asks J₂ asked
  dispatches : asks.1.Dispatches
  unmarked : ∀ slot v, J₁.Holds slot v → v.providerEffectStarted = false
  held : ∃ slot, J₂.Holds slot ⟨draft, none, [], true⟩

theorem Admitted.first_moves
    (hadmitted : Admitted c walletRequestBytes walletResponseBytes signed now)
    (hdraft : RuntimeReleaseOperationDraft.new walletRequestBytes walletResponseBytes signed =
      .ok draft)
    (hentry : (PersistedRuntimeReleaseOperation.fresh draft).toEntry = .ok entry)
    (hmarked : (⟨draft, none, [], true⟩ : PersistedRuntimeReleaseOperation).toEntry = .ok marked) :
    ∃ persisted started asked asks J₁ J₂,
      FirstMoves (c.release walletRequestBytes walletResponseBytes signed now) draft persisted
        started asked asks J₁ J₂ := by
  obtain ⟨afterPersist, hrelease, hnext⟩ := hadmitted.release_eq hdraft
  obtain ⟨afterMark, hmark, hnext⟩ := hnext (.fresh draft) rfl rfl
  obtain ⟨provider, request, afterRequest, hrequest⟩ := hnext ⟨draft, none, [], true⟩
  obtain ⟨J₁, hpersist, hJ₁⟩ := Journal.call_persist_new hentry (AList.lookup_empty _)
    (Nat.succ_pos 4095)
  have hpersist' := hJ₁.persist
  rw [PersistedRuntimeReleaseOperation.fresh, if_pos rfl] at hpersist'
  obtain ⟨J₂, hstart, hJ₂⟩ := hJ₁.call_update (.started rfl rfl) hmarked
  refine ⟨afterPersist (.ok (.fresh draft) : Except RuntimeReleaseJournalError _),
    afterMark (.ok ⟨draft, none, [], true⟩ : Except RuntimeReleaseJournalError _),
    afterRequest (.error () : Except Unit RightsProviderResponseV1),
    ⟨.evaluateRights provider request, (.error () : Except Unit RightsProviderResponseV1)⟩,
    J₁, J₂, ?_⟩
  rw [hrelease]
  constructor
  · exact .perform hpersist
  · exact .perform hpersist'
  · rw [hmark]
    exact .perform hstart
  · rw [hmark]
    exact .perform (hJ₂.mark_again rfl)
  · rw [hrequest]
    exact .perform rfl
  · trivial
  · intro slot v hv
    have hJ : J₁ = ((∅ : Journal).call (.persistBeforeProviderEffect draft) .completed).2 := by
      rw [hpersist]
    rw [hJ] at hv
    cases Journal.origin Journal.sound_empty hv with
    | kept hv =>
      obtain ⟨_, _, _, _, _, hlookup⟩ := hv
      exact nomatch hlookup
    | created => rfl
    | changed hv hupdate => cases hupdate
  · exact ⟨_, hJ₂⟩

variable {persisted started asked : CoordinatorProgram RuntimeReleaseCoordinatorOutcome}
  {asks : Event} {J₁ J₂ : Journal} {call : CoordinatorCall}

/-- Two equal calls in step both send their first request. -/
theorem FirstMoves.inStep (h : FirstMoves call.program draft persisted started asked asks J₁ J₂) :
    ∃ system, Transition.run System.step (System.idle ∅) (inStep call) = some system ∧
      ∃ rest history, system.calls[0]? = some ⟨call, rest, history⟩ ∧
        system.calls[1]? = some ⟨call, rest, history⟩ ∧ Dispatched history := by
  let history : History CoordinatorOp.Reply :=
    [Event.answered (.persistBeforeProviderEffect draft) (.fresh draft),
      Event.answered (.markProviderEffectStarted draft) ⟨draft, none, [], true⟩, asks]
  have hrun : Transition.run System.step (System.idle ∅) (ReleaseCoordinator.inStep call) = some
      ⟨J₂, [⟨call, asked, history⟩, ⟨call, asked, history⟩]⟩ :=
    Transition.run_cons_eq_some.mpr ⟨_, rfl, Transition.run_cons_eq_some.mpr ⟨_, rfl,
      Transition.run_cons_eq_some.mpr ⟨_, h.persist.step rfl,
        Transition.run_cons_eq_some.mpr ⟨_, h.persistAgain.step rfl,
          Transition.run_cons_eq_some.mpr ⟨_, h.mark.step rfl,
            Transition.run_cons_eq_some.mpr ⟨_, h.markAgain.step rfl,
              Transition.run_cons_eq_some.mpr ⟨_, h.ask.step rfl,
                Transition.run_cons_eq_some.mpr ⟨_, h.ask.step rfl, rfl⟩⟩⟩⟩⟩⟩⟩⟩
  exact ⟨_, hrun, asked, history, rfl, rfl, asks,
    List.mem_cons_of_mem _ (List.mem_cons_of_mem _ List.mem_cons_self), h.dispatches⟩

/-- One caller by itself. -/
theorem FirstMoves.alone (h : FirstMoves call.program draft persisted started asked asks J₁ J₂) :
    Transition.run System.step (System.idle ∅) (alone call) = some ⟨J₂, [⟨call, asked,
      [Event.answered (.persistBeforeProviderEffect draft) (.fresh draft),
        Event.answered (.markProviderEffectStarted draft) ⟨draft, none, [], true⟩, asks]⟩]⟩ :=
  Transition.run_cons_eq_some.mpr ⟨_, rfl,
    Transition.run_cons_eq_some.mpr ⟨_, h.persist.step rfl,
      Transition.run_cons_eq_some.mpr ⟨_, h.mark.step rfl,
        Transition.run_cons_eq_some.mpr ⟨_, h.ask.step rfl, rfl⟩⟩⟩⟩

/-- It marks a record that has no mark. -/
theorem FirstMoves.alone_fresh
    (h : FirstMoves call.program draft persisted started asked asks J₁ J₂) :
    Transition.Guarded System.step MarksFresh (System.idle ∅) (ReleaseCoordinator.alone call) := by
  refine .cons rfl (fun _ _ _ _ _ _ hlabel => nomatch hlabel) (.cons (h.persist.step rfl) ?_
    (.cons (h.mark.step rfl) ?_ (.cons (h.ask.step rfl) ?_ trivial)))
  · rintro _ _ _ _ _ _ _ _ slot v ⟨_, _, _, _, _, hlookup⟩
    exact nomatch hlookup
  · exact fun _ _ _ _ _ _ _ _ slot v hv _ => h.unmarked slot v hv
  · rintro _ _ _ draft' next history ⟨⟩ hat
    -- the call asks a provider next: it does not mark
    obtain ⟨_, rfl, _⟩ := Call.mk.inj (Option.some.inj hat)
    have hask := h.ask
    have hdispatches := h.dispatches
    cases hask with
    | perform => exact hdispatches.elim

end

end

/-! ## 5. Two callers of the sample -/

section

attribute [local instance] acceptingCurves tailEchoCrypto constantWallet

open ReleaseSample

theorem sample_requests (provider : NodePublicKey)
    (hprovider : provider ∈ sampleCoordinator.selectedProviders) :
    ∃ request, RightsProviderRequestV1.newEvaluate provider sample.signed = .ok request := by
  obtain ⟨blob, hblob⟩ : ∃ blob : CanonicalBlob MAX_SIGNED_RUNTIME_RELEASE_OPERATION_BYTES_V1,
      CanonicalBlob.fromContract sample.signed = .ok blob :=
    CanonicalBlob.fromContract_of_encodes (signed_encodes sample_ok) (by decide)
  have hmember : nodeSet.contains provider = true := by
    revert provider
    decide
  refine ⟨_, bind_eq_ok.mpr ⟨blob, hblob, build_eq ?_⟩⟩
  refine bind_eq_ok.mpr ⟨provider, ?_, bind_eq_ok.mpr
    ⟨_, CanonicalBlob.decode_fromContract hblob, bind_eq_ok.mpr
      ⟨nodeSet, mapError_eq_ok.mpr epoch_nodeSet, rejectIf_eq_ok.mpr (not_not.mpr hmember)⟩⟩⟩
  exact provider.new_value

def sampleCall : CoordinatorCall := ⟨sampleCoordinator, .release [1] [1] sample.signed 100⟩

theorem sample_admitted :
    @Admitted _ _ _ (sampleExchange sample) sampleCoordinator [1] [1] sample.signed 100 := by
  obtain ⟨operationHash, hhash⟩ := (signed_encodes sample_ok).canonicalHash
  let := sampleExchange sample
  exact
    { wallet := sampleExchange_validates sample_ok _ _ _
      operation := ⟨sample.operation, _, signed_verify sample_ok (by decide) (by decide),
        sample_orderedProviders⟩
      draft := ⟨sampleDraft, operationHash, RuntimeReleaseOperationDraft.new_self sampleDraft,
        orCorrupt_eq_ok.mpr hhash⟩
      requests := sample_requests }

theorem sample_moves :
    let := sampleExchange sample
    ∃ persisted started asked asks J₁ J₂,
      FirstMoves sampleCall.program sampleDraft persisted started asked asks J₁ J₂ := by
  obtain ⟨entry, hentry⟩ := sampleDraft_entry false
  obtain ⟨marked, hmarked⟩ := sampleDraft_entry true
  let := sampleExchange sample
  exact sample_admitted.first_moves (RuntimeReleaseOperationDraft.new_self sampleDraft) hentry
    hmarked

/-- **Two calls of one operation both dispatch**: each sees the record that the other has not marked
yet. -/
theorem double_dispatch :
    let := sampleExchange sample
    ∃ system, Transition.run System.step (System.idle ∅) (inStep sampleCall) = some system ∧
      ∃ operationHash call call', system.calls[0]? = some call ∧ system.calls[1]? = some call' ∧
        call.request.Releases operationHash ∧ call'.request.Releases operationHash ∧
          Dispatched call.history ∧ Dispatched call'.history := by
  obtain ⟨operationHash, hhash⟩ := (signed_encodes sample_ok).canonicalHash
  obtain ⟨_, _, _, _, _, _, hmoves⟩ := sample_moves
  let := sampleExchange sample
  obtain ⟨system, hrun, rest, history, hfirst, hsecond, hdispatched⟩ := hmoves.inStep
  exact ⟨system, hrun, operationHash, _, _, hfirst, hsecond, hhash, hhash, hdispatched, hdispatched⟩

theorem initial_dispatch_once_sample :
    let := sampleExchange sample
    ∃ system, Transition.run System.step (System.idle ∅) (alone sampleCall) = some system ∧
      InitialDispatch system := by
  obtain ⟨_, _, _, _, _, _, hmoves⟩ := sample_moves
  let := sampleExchange sample
  exact ⟨_, hmoves.alone, initial_dispatch_once ⟨∅, [], rfl, rfl⟩ hmoves.alone_fresh hmoves.alone⟩

end

end ElastosRuntime.ReleaseCoordinator
