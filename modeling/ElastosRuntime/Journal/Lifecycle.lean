/-
# The life of a release record

A record is created by the first `persist_before_provider_effect` of its operation, marked when a
provider is about to be called, collects the rights decisions that can be replayed, and is closed by
a terminal result.  `lifecycle` is what no run of the journal's calls can undo.

`persist_again` is about the first of these calls being made once more, which is how a caller that
does not know what became of its operation finds out.  The comparison it rests on takes the
replayable decisions from the new entry instead of the stored one, so it says `Conflict` as long as
decisions are stored.
-/
import ElastosRuntime.Journal.Operations
import ElastosRuntime.Contracts.ReleaseChain

namespace ElastosRuntime.ReleaseJournal

open Codec Contracts

section

variable [Curves] [Crypto]

/-! ## 1. Persisting once more -/

namespace Journal

variable {J : Journal} {slot : Digest32} {v : PersistedRuntimeReleaseOperation}

variable {draft : RuntimeReleaseOperationDraft}

/-- What `persist_before_provider_effect` plans when there is a record of its operation. -/
theorem Holds.plan_persist {existing entry : StoreEntry} (h : J.Holds slot v)
    (hexisting : v.toEntry = .ok existing)
    (hentry : StoreEntry.fromDraft draft none false [] = .ok entry)
    (hhash : draft.operationHash = v.draft.operationHash) :
    J.view.persistBeforeProviderEffect draft =
      if existing ≠ { entry with
        terminalBytes := existing.terminalBytes, effectStarted := existing.effectStarted } then
        .error .conflict
      else .ok ⟨none, existing⟩ := by
  obtain ⟨hslot, hread⟩ := h.readEntry hexisting
  have hfresh : (PersistedRuntimeReleaseOperation.fresh draft).toEntry = .ok entry :=
    PersistedRuntimeReleaseOperation.toEntry_eq_ok.mpr ⟨none, rfl, [], rfl, hentry⟩
  have hsame : entry.operationHash = existing.operationHash := by
    have hdraft := PersistedRuntimeReleaseOperation.operationHash_toEntry hfresh
    have hheld := PersistedRuntimeReleaseOperation.operationHash_toEntry hexisting
    exact Except.ok.inj (hdraft.symm.trans (hhash.trans hheld))
  have hentrySlot : entry.slotHash = slot := by
    rw [← hslot, ← PersistedRuntimeReleaseOperation.toEntry_slotHash hexisting,
      ← PersistedRuntimeReleaseOperation.toEntry_slotHash hfresh, hsame]
  rw [JournalView.persistBeforeProviderEffect, hentry]
  change J.view.writeOrReplay entry = _
  rw [← hsame] at hread
  obtain ⟨_, bytes, _, _, _, hlookup⟩ := h
  have hbytes : J.view.read slot = .ok bytes := by
    simp only [view, hlookup]
  subst hentrySlot
  rw [JournalView.writeOrReplay, hbytes]
  change (J.view.readEntry entry.slotHash entry.operationHash >>= _) = _
  rw [hread]
  exact failIf_bind_pure _ _ _

/-- The record is returned when no decisions are stored, and is in conflict otherwise. -/
theorem Holds.persist (h : J.Holds slot v) :
    J.call (.persistBeforeProviderEffect v.draft) .completed =
      if v.replayableRightsDecisions = [] then (.ok v, J) else (.error .conflict, J) := by
  obtain ⟨existing, _, hexisting, _⟩ := id h
  have hrights := encodeReplayableRightsDecisions_nil_iff
    (PersistedRuntimeReleaseOperation.replayableRightsBytes_toEntry hexisting)
  have hdraft := PersistedRuntimeReleaseOperation.fromDraft_toEntry hexisting
  obtain ⟨bytes, hbytes, hmade⟩ := StoreEntry.fromDraft_eq_ok.mp hdraft
  have hplan := h.plan_persist hexisting (StoreEntry.fromDraft_eq_ok.mpr ⟨bytes, hbytes, rfl⟩) rfl
  rw [Journal.call, JournalCall.plan, hplan]
  by_cases hnil : v.replayableRightsDecisions = []
  · have hsame : existing = { existing with replayableRightsBytes := [] } := by
      rw [← hrights.mpr hnil]
    rw [if_pos hnil, if_neg]
    · change (existing.intoPersisted, J) = _
      rw [PersistedRuntimeReleaseOperation.intoPersisted_toEntry hexisting]
    · rw [not_not]
      rw [← hmade] at hsame ⊢
      exact hsame
  · rw [if_neg hnil, if_pos]
    · rfl
    · intro hsame
      apply hnil
      rw [← hrights]
      exact congrArg StoreEntry.replayableRightsBytes hsame

/-- A draft that is not the one of the record is always in conflict. -/
theorem Holds.persist_other (h : J.Holds slot v)
    (hhash : draft.operationHash = v.draft.operationHash) (hne : draft ≠ v.draft) :
    J.call (.persistBeforeProviderEffect draft) .completed = (.error .conflict, J) := by
  obtain ⟨existing, _, hexisting, _⟩ := id h
  have hheld := PersistedRuntimeReleaseOperation.operationHash_toEntry hexisting
  obtain ⟨bytes, hbytes, _⟩ := bind_eq_ok.mp (orCorrupt_eq_ok.mp (hhash.trans hheld))
  have hplan := h.plan_persist hexisting (StoreEntry.fromDraft_eq_ok.mpr ⟨bytes, hbytes, rfl⟩) hhash
  rw [Journal.call, JournalCall.plan, hplan, if_pos]
  · rfl
  · intro hsame
    apply hne
    exact (StoreEntry.fromDraft_injective (StoreEntry.fromDraft_eq_ok.mpr ⟨bytes, hbytes, rfl⟩)
      (hsame ▸ PersistedRuntimeReleaseOperation.fromDraft_toEntry hexisting)).1

/-- **What a retry is promised**: the same draft gets the stored record and changes nothing, and
any other draft of the operation is in conflict and changes nothing. -/
structure RetryExact (J : Journal) (v : PersistedRuntimeReleaseOperation) : Prop where
  same : J.call (.persistBeforeProviderEffect v.draft) .completed = (.ok v, J)
  other : ∀ draft : RuntimeReleaseOperationDraft, draft.operationHash = v.draft.operationHash →
    draft ≠ v.draft →
      J.call (.persistBeforeProviderEffect draft) .completed = (.error .conflict, J)

/-- **A retry is exact until decisions are stored.** -/
theorem Holds.retryExact_iff (h : J.Holds slot v) :
    J.RetryExact v ↔ v.replayableRightsDecisions = [] := by
  constructor
  · intro hretry
    by_contra hne
    have hsame := hretry.same
    rw [h.persist, if_neg hne] at hsame
    exact nomatch congrArg Prod.fst hsame
  · intro hnil
    refine ⟨?_, fun draft hhash hne => h.persist_other hhash hne⟩
    rw [h.persist, if_pos hnil]

end Journal

/-! ## 2. What a record keeps -/

/-- The node a decision is from. -/
def decisionNode (decision : SignedNodeRightsDecisionV1) : NodePublicKey :=
  decision.statement.nodePublicKey

omit [Crypto] in
/-- Merging keeps what was there, adds only what it is given, and one decision of a node. -/
theorem mergeInto_ok : ∀ {additional merged result : List SignedNodeRightsDecisionV1},
    mergeInto merged additional = .ok result →
      (∀ d ∈ merged, d ∈ result) ∧ (∀ d ∈ result, d ∈ merged ∨ d ∈ additional) ∧
        ((merged.map decisionNode).Nodup → (result.map decisionNode).Nodup)
  | [], merged, result, h => by
    cases h
    exact ⟨fun _ h => h, fun _ h => .inl h, id⟩
  | decision :: additional, merged, result, h => by
    rw [mergeInto] at h
    split at h
    · split at h
      · exact nomatch h
      · obtain ⟨hkept, hadded, hnodup⟩ := mergeInto_ok h
        exact ⟨hkept, fun d hd => (hadded d hd).imp_right (List.mem_cons_of_mem _), hnodup⟩
    · next hfind =>
      obtain ⟨hkept, hadded, hnodup⟩ := mergeInto_ok h
      refine ⟨fun d hd => hkept d (List.mem_append_left _ hd), fun d hd => ?_, fun hmerged => ?_⟩
      · rcases hadded d hd with hd | hd
        · rcases List.mem_append.mp hd with hd | hd
          · exact .inl hd
          · exact .inr (List.mem_singleton.mp hd ▸ List.mem_cons_self)
        · exact .inr (List.mem_cons_of_mem _ hd)
      · -- the node is new, or the search had found its decision
        refine hnodup ?_
        rw [List.map_append, List.map_singleton]
        refine List.nodup_append.mpr ⟨hmerged, List.nodup_singleton _, ?_⟩
        intro node hnode node' hnode' heq
        obtain ⟨d, hd, rfl⟩ := List.mem_map.mp hnode
        rw [List.mem_singleton] at hnode'
        have hnone := List.find?_eq_none.mp hfind d hd
        rw [hnode'] at heq
        exact hnone (decide_eq_true heq)

omit [Crypto] in
theorem mergeReplayableRightsDecisions_ok
    {existing additional result : List SignedNodeRightsDecisionV1}
    (h : mergeReplayableRightsDecisions existing additional = .ok result) :
    (∀ d ∈ existing, d ∈ result) ∧ (∀ d ∈ result, d ∈ existing ∨ d ∈ additional) ∧
      ((existing.map decisionNode).Nodup → (result.map decisionNode).Nodup) := by
  obtain ⟨merged, hmerged, h⟩ := bind_eq_ok.mp h
  cases h
  obtain ⟨hkept, hadded, hnodup⟩ := mergeInto_ok hmerged
  have hperm := List.perm_insertionSort
    (fun a b : SignedNodeRightsDecisionV1 =>
      a.statement.nodePublicKey.order ≤ b.statement.nodePublicKey.order) merged
  exact ⟨fun d hd => hperm.mem_iff.mpr (hkept d hd), fun d hd => hadded d (hperm.mem_iff.mp hd),
    fun hexisting => (hperm.map decisionNode).nodup_iff.mpr (hnodup hexisting)⟩

/-- What holds of every record of a journal. -/
structure WellFormed (v : PersistedRuntimeReleaseOperation) : Prop where
  oneEach : (v.replayableRightsDecisions.map decisionNode).Nodup
  cleared : v.terminalResult ≠ none → v.replayableRightsDecisions = []
  started : v.terminalResult ≠ none ∨ v.replayableRightsDecisions ≠ [] →
    v.providerEffectStarted = true

omit [Crypto] in
theorem WellFormed.fresh (draft : RuntimeReleaseOperationDraft) :
    WellFormed (.fresh draft) where
  oneEach := List.nodup_nil
  cleared _ := rfl
  started h := h.elim (absurd rfl) (absurd rfl)

variable {v : PersistedRuntimeReleaseOperation}

omit [Crypto] in
theorem WellFormed.update {call : JournalCall} {v' : PersistedRuntimeReleaseOperation}
    (hv : WellFormed v) (h : Update call v v') : WellFormed v' := by
  cases h with
  | started => exact ⟨hv.oneEach, fun h => absurd rfl h, fun _ => rfl⟩
  | decided _ _ hmerged =>
    exact ⟨(mergeReplayableRightsDecisions_ok hmerged).2.2 hv.oneEach, fun h => absurd rfl h,
      fun _ => rfl⟩
  | ended => exact ⟨List.nodup_nil, fun _ => rfl, fun _ => rfl⟩

/-- **What a record keeps**: its draft, its mark and its result for good, its decisions until the
result. -/
structure Grows (v v' : PersistedRuntimeReleaseOperation) : Prop where
  draft : v'.draft = v.draft
  started : v.providerEffectStarted = true → v'.providerEffectStarted = true
  terminal : ∀ terminalResult, v.terminalResult = some terminalResult →
    v'.terminalResult = some terminalResult
  decisions : v'.terminalResult = none →
    ∀ d ∈ v.replayableRightsDecisions, d ∈ v'.replayableRightsDecisions

namespace Grows

variable {u v w : PersistedRuntimeReleaseOperation}

omit [Crypto]

theorem refl (v : PersistedRuntimeReleaseOperation) : Grows v v :=
  ⟨rfl, id, fun _ => id, fun _ _ => id⟩

theorem trans (h : Grows u v) (h' : Grows v w) : Grows u w where
  draft := h'.draft.trans h.draft
  started := h'.started ∘ h.started
  terminal t ht := h'.terminal t (h.terminal t ht)
  decisions hopen d hd := by
    refine h'.decisions hopen d (h.decisions ?_ d hd)
    cases hv : v.terminalResult with
    | none => rfl
    | some t => exact nomatch (h'.terminal t hv).symm.trans hopen

theorem of_update {call : JournalCall} (h : Update call v w) : Grows v w := by
  cases h with
  | started hopen =>
    exact ⟨rfl, fun _ => rfl, fun t ht => (nomatch hopen.symm.trans ht), fun _ _ hd => hd⟩
  | decided hopen _ hmerged =>
    exact ⟨rfl, fun _ => rfl, fun t ht => (nomatch hopen.symm.trans ht),
      fun _ d hd => (mergeReplayableRightsDecisions_ok hmerged).1 d hd⟩
  | ended hopen =>
    exact ⟨rfl, fun _ => rfl, fun t ht => (nomatch hopen.symm.trans ht), nofun⟩

end Grows

namespace Journal

variable {J J' : Journal} {slot : Digest32} {v : PersistedRuntimeReleaseOperation}

/-- The invariant of a journal. -/
structure RecordsInv (J : Journal) : Prop where
  sound : J.Sound
  wellFormed : ∀ slot v, J.Holds slot v → WellFormed v

theorem RecordsInv.after (hJ : RecordsInv J) {call : JournalCall} {fate : Fate} :
    RecordsInv (J.call call fate).2 where
  sound := hJ.sound.after
  wellFormed slot v hv := by
    cases origin hJ.sound hv with
    | kept hv => exact hJ.wellFormed _ _ hv
    | created => exact .fresh _
    | changed hv hupdate => exact (hJ.wellFormed _ _ hv).update hupdate

theorem recordsInv_empty : RecordsInv (∅ : Journal) :=
  ⟨sound_empty, fun _ _ ⟨_, _, _, _, _, hlookup⟩ => nomatch hlookup⟩

theorem Reachable.recordsInv (hJ : J.Reachable) : RecordsInv J :=
  Transition.Reachable.invariant (fun _ h => h ▸ recordsInv_empty)
    (fun _ _ _ hJ hstep => Option.some.inj hstep ▸ hJ.after) hJ

/-- **A retry is exact until decisions are stored**: of every file of a journal, and from the
terminal result on for good. -/
theorem retry_exact_iff (hJ : J.Reachable) {bytes : List UInt8}
    (hfile : J.lookup slot = some bytes) :
    ∃ v, J.Holds slot v ∧ (J.RetryExact v ↔ v.replayableRightsDecisions = []) ∧
      (v.terminalResult ≠ none → v.replayableRightsDecisions = []) := by
  obtain ⟨v, hv⟩ := hJ.sound slot bytes hfile
  exact ⟨v, hv, hv.retryExact_iff, (hJ.recordsInv.wellFormed _ _ hv).cleared⟩

variable {labels : List (JournalCall × Fate)}

/-- The record of a slot grows along a run. -/
theorem Sound.follows :
    ∀ {J : Journal}, J.Sound → Transition.run step J labels = some J' → J.Holds slot v →
      ∃ v', J'.Holds slot v' ∧ Grows v v' := by
  induction labels generalizing v with
  | nil =>
    intro J _ hrun h
    obtain rfl := Option.some.inj hrun
    exact ⟨v, h, .refl v⟩
  | cons label labels ih =>
    intro J hS hrun h
    obtain ⟨K, hstep, hrun⟩ := Transition.run_cons_eq_some.mp hrun
    obtain rfl := Option.some.inj hstep
    rcases h.after hS with h | ⟨w, hupdate, h⟩
    · exact ih hS.after hrun h
    · obtain ⟨v', hv', hgrows⟩ := ih hS.after hrun h
      exact ⟨v', hv', (Grows.of_update hupdate).trans hgrows⟩

/-- A stored decision was stored before the run, or handed over in it. -/
theorem Sound.handed_over :
    ∀ {J : Journal}, J.Sound → Transition.run step J labels = some J' → J'.Holds slot v →
      ∀ d ∈ v.replayableRightsDecisions,
        (∃ u, J.Holds slot u ∧ d ∈ u.replayableRightsDecisions) ∨
          ∃ decisions fate, (.persistReplayableRightsDecisions v.draft decisions, fate) ∈ labels ∧
            d ∈ decisions := by
  induction labels with
  | nil =>
    intro J _ hrun h d hd
    obtain rfl := Option.some.inj hrun
    exact .inl ⟨v, h, hd⟩
  | cons label labels ih =>
    intro J hS hrun h d hd
    obtain ⟨K, hstep, hrun⟩ := Transition.run_cons_eq_some.mp hrun
    obtain rfl := Option.some.inj hstep
    rcases ih hS.after hrun h d hd with ⟨u, hu, hd⟩ | ⟨decisions, fate, hmem, hd⟩
    · have hdraft : v.draft = u.draft := by
        obtain ⟨v', hv', hgrows⟩ := hS.after.follows hrun hu
        rw [h.unique hv', hgrows.draft]
      cases origin hS hu with
      | kept hu => exact .inl ⟨u, hu, hd⟩
      | created => exact absurd hd List.not_mem_nil
      | changed hw hupdate =>
        obtain ⟨call, fate⟩ := label
        cases hupdate with
        | started => exact .inl ⟨_, hw, hd⟩
        | decided _ _ hmerged =>
          rcases (mergeReplayableRightsDecisions_ok hmerged).2.1 d hd with hd | hd
          · exact .inl ⟨_, hw, hd⟩
          · exact .inr ⟨_, fate, hdraft ▸ List.mem_cons_self, hd⟩
        | ended => exact absurd hd List.not_mem_nil
    · exact .inr ⟨decisions, fate, List.mem_cons_of_mem _ hmem, hd⟩

/-! ## 3. What a call answers -/

end Journal

/-- What is known of the record that a call returns, besides that the journal holds it. -/
def JournalCall.Answers (v : PersistedRuntimeReleaseOperation) : JournalCall → Prop
  | persistBeforeProviderEffect draft => v.draft = draft
  | markProviderEffectStarted draft => v.draft = draft ∧ v.providerEffectStarted = true
  | persistReplayableRightsDecisions draft _ => v.draft = draft
  | markTerminal draft terminalResult =>
    v.draft = draft ∧ v.terminalResult = some terminalResult
  | load operationHash => v.draft.operationHash = .ok operationHash

/-- What an entry reads back as. -/
theorem StoreEntry.intoPersisted_eq_ok {entry : StoreEntry} (h : entry.intoPersisted = .ok v) :
    v.draft.operationHash = .ok entry.operationHash ∧
      fromCanonicalBytes entry.signedOperationBytes = .ok v.draft.signedRuntimeReleaseOperation ∧
        v.draft.walletRequestBytes = entry.walletRequestBytes ∧
          v.draft.walletResponseBytes = entry.walletResponseBytes ∧
            entry.terminalBytes.mapM RuntimeReleaseTerminalResult.decode = .ok v.terminalResult ∧
              v.providerEffectStarted = entry.effectStarted := by
  obtain ⟨signed, hsigned, h⟩ := bind_eq_ok.mp h
  obtain ⟨hash, hhash, h⟩ := bind_eq_ok.mp h
  obtain ⟨⟨⟩, hsame, h⟩ := bind_eq_ok.mp h
  obtain ⟨⟨⟩, _, h⟩ := bind_eq_ok.mp h
  obtain ⟨draft, hdraft, h⟩ := bind_eq_ok.mp h
  obtain ⟨terminal, hterminal, h⟩ := bind_eq_ok.mp h
  obtain ⟨rights, _, h⟩ := bind_eq_ok.mp h
  cases h
  unfold RuntimeReleaseOperationDraft.new at hdraft
  split at hdraft
  · exact nomatch hdraft
  · cases hdraft
    rw [failIf_eq_ok, not_not] at hsame
    subst hsame
    exact ⟨hhash, orCorrupt_eq_ok.mp hsigned, rfl, rfl, hterminal, rfl⟩

/-- What the entry of a draft reads back as. -/
theorem StoreEntry.intoPersisted_fromDraft {draft : RuntimeReleaseOperationDraft}
    {terminalBytes : Option (List UInt8)} {effectStarted : Bool} {rightsBytes : List UInt8}
    {entry : StoreEntry}
    (hentry : fromDraft draft terminalBytes effectStarted rightsBytes = .ok entry)
    (h : entry.intoPersisted = .ok v) : v.draft = draft ∧ v.providerEffectStarted = effectStarted ∧
      terminalBytes.mapM RuntimeReleaseTerminalResult.decode = .ok v.terminalResult := by
  obtain ⟨bytes, hbytes, rfl⟩ := fromDraft_eq_ok.mp hentry
  obtain ⟨_, hsigned, hrequest, hresponse, hterminal, hstarted⟩ := intoPersisted_eq_ok h
  have hread := fromCanonicalBytes_of_canonicalBytes hbytes
  have hsame := Except.ok.inj (hsigned.symm.trans hread)
  refine ⟨?_, hstarted, hterminal⟩
  obtain ⟨⟨signed, request, response, _⟩, _, _, _⟩ := v
  obtain rfl : signed = draft.signedRuntimeReleaseOperation := hsame
  obtain rfl : request = draft.walletRequestBytes := hrequest
  obtain rfl : response = draft.walletResponseBytes := hresponse
  rfl

namespace Journal

variable {J J' : Journal} {slot : Digest32} {v : PersistedRuntimeReleaseOperation}

variable {call : JournalCall} {fate : Fate}

/-- A call that succeeds has planned the entry of what it returns. -/
theorem plan_of_call_eq_ok (h : (J.call call fate).1 = .ok v) :
    ∃ plan, call.plan J.view = .ok plan ∧ plan.entry.intoPersisted = .ok v := by
  rw [Journal.call] at h
  cases hplan : call.plan J.view with
  | error e =>
    rw [hplan] at h
    cases fate <;> cases h
  | ok plan =>
    rw [hplan] at h
    refine ⟨plan, rfl, ?_⟩
    obtain ⟨_ | write, entry⟩ := plan
    · cases fate
      case refused => cases h
      all_goals exact h
    · cases fate
      case completed => exact h
      all_goals cases h

variable {draft : RuntimeReleaseOperationDraft} {entry : StoreEntry}

/-- The entry that three operations start by finding is one of their draft. -/
theorem existingFor_fromDraft {view : JournalView} (h : view.existingFor draft = .ok entry) :
    StoreEntry.fromDraft draft entry.terminalBytes entry.effectStarted
      entry.replayableRightsBytes = .ok entry := by
  obtain ⟨_, _, h⟩ := bind_eq_ok.mp h
  obtain ⟨existing, _, h⟩ := bind_eq_ok.mp h
  obtain ⟨expected, hexpected, h⟩ := bind_eq_ok.mp h
  obtain ⟨⟨⟩, hsame, h⟩ := bind_eq_ok.mp h
  cases h
  obtain rfl : entry = expected := not_not.mp (failIf_eq_ok.mp hsame)
  exact hexpected

variable {plan : Plan}

theorem entry_of_replaceWith (h : JournalView.replaceWith entry = .ok plan) :
    plan.entry = entry := by
  obtain ⟨_, _, h⟩ := bind_eq_ok.mp h
  cases h
  rfl

theorem answers_persist (h : J.view.persistBeforeProviderEffect draft = .ok plan)
    (hread : plan.entry.intoPersisted = .ok v) : v.draft = draft := by
  obtain ⟨entry, hentry, h⟩ := bind_eq_ok.mp h
  unfold JournalView.writeOrReplay at h
  split at h
  · obtain ⟨_, _, h⟩ := bind_eq_ok.mp h
    obtain ⟨⟨⟩, _, h⟩ := bind_eq_ok.mp h
    obtain ⟨_, _, h⟩ := bind_eq_ok.mp h
    cases h
    exact (StoreEntry.intoPersisted_fromDraft hentry hread).1
  · obtain ⟨existing, _, h⟩ := bind_eq_ok.mp h
    obtain ⟨⟨⟩, hsame, h⟩ := bind_eq_ok.mp h
    cases h
    rw [failIf_eq_ok, not_not] at hsame
    obtain ⟨bytes, hbytes, rfl⟩ := StoreEntry.fromDraft_eq_ok.mp hentry
    exact (StoreEntry.intoPersisted_fromDraft (StoreEntry.fromDraft_eq_ok.mpr
      ⟨bytes, hbytes, hsame.symm⟩) hread).1

theorem RecordsInv.answers_mark (hJ : J.RecordsInv)
    (h : J.view.markProviderEffectStarted draft = .ok plan)
    (hread : plan.entry.intoPersisted = .ok v) :
    v.draft = draft ∧ v.providerEffectStarted = true := by
  obtain ⟨existing, hexisting, h⟩ := bind_eq_ok.mp h
  split at h
  · next hmarked =>
    cases h
    obtain ⟨w, hw, hentry, rfl⟩ := hJ.sound.holds_of_existingFor hexisting
    have hsame := PersistedRuntimeReleaseOperation.intoPersisted_toEntry hentry
    obtain rfl := Except.ok.inj (hsame.symm.trans hread)
    refine ⟨rfl, ?_⟩
    rw [PersistedRuntimeReleaseOperation.effectStarted_toEntry hentry,
      PersistedRuntimeReleaseOperation.terminalBytes_toEntry hentry] at hmarked
    rcases hmarked with hstarted | hterminal
    · exact hstarted
    · exact (hJ.wellFormed _ _ hw).started (.inl (Option.isSome_iff_ne_none.mp hterminal))
  · obtain ⟨started, hstarted, h⟩ := bind_eq_ok.mp h
    rw [entry_of_replaceWith h] at hread
    obtain ⟨hdraft, hmarked, _⟩ := StoreEntry.intoPersisted_fromDraft hstarted hread
    exact ⟨hdraft, hmarked⟩

theorem answers_persistDecisions {decisions : List SignedNodeRightsDecisionV1}
    (h : J.view.persistReplayableRightsDecisions draft decisions = .ok plan)
    (hread : plan.entry.intoPersisted = .ok v) : v.draft = draft := by
  obtain ⟨existing, hexisting, h⟩ := bind_eq_ok.mp h
  have hdraft := existingFor_fromDraft hexisting
  split at h
  · cases h
    exact (StoreEntry.intoPersisted_fromDraft hdraft hread).1
  · obtain ⟨⟨⟩, _, h⟩ := bind_eq_ok.mp h
    obtain ⟨_, _, h⟩ := bind_eq_ok.mp h
    obtain ⟨_, _, h⟩ := bind_eq_ok.mp h
    obtain ⟨_, _, h⟩ := bind_eq_ok.mp h
    obtain ⟨updated, hupdated, h⟩ := bind_eq_ok.mp h
    split at h
    · cases h
      exact (StoreEntry.intoPersisted_fromDraft hdraft hread).1
    · rw [entry_of_replaceWith h] at hread
      exact (StoreEntry.intoPersisted_fromDraft hupdated hread).1

theorem answers_markTerminal {terminalResult : RuntimeReleaseTerminalResult}
    (h : J.view.markTerminal draft terminalResult = .ok plan)
    (hread : plan.entry.intoPersisted = .ok v) :
    v.draft = draft ∧ v.terminalResult = some terminalResult := by
  have hended : ∀ {encoded : List UInt8} {started : Bool} {rights : List UInt8}
      {entry : StoreEntry}, terminalResult.encode = .ok encoded →
      StoreEntry.fromDraft draft (some encoded) started rights = .ok entry →
        entry.intoPersisted = .ok v → v.draft = draft ∧ v.terminalResult = some terminalResult := by
    intro encoded started rights entry hencoded hentry hread
    obtain ⟨hdraft, _, hterminal⟩ := StoreEntry.intoPersisted_fromDraft hentry hread
    obtain ⟨result, hresult, hterminal⟩ := bind_eq_ok.mp hterminal
    rw [RuntimeReleaseTerminalResult.decode_encode hencoded] at hresult
    cases hresult
    exact ⟨hdraft, (pure_eq_ok.mp hterminal).symm⟩
  obtain ⟨existing, hexisting, h⟩ := bind_eq_ok.mp h
  have hdraft := existingFor_fromDraft hexisting
  split at h
  · obtain ⟨encoded, hencoded, h⟩ := bind_eq_ok.mp h
    obtain ⟨⟨⟩, hsame, h⟩ := bind_eq_ok.mp h
    cases h
    rw [failIf_eq_ok, not_not] at hsame
    rw [hsame] at hdraft
    exact hended hencoded hdraft hread
  · obtain ⟨encoded, hencoded, h⟩ := bind_eq_ok.mp h
    obtain ⟨ended, hentry, h⟩ := bind_eq_ok.mp h
    rw [entry_of_replaceWith h] at hread
    exact hended hencoded hentry hread

/-- **What a call answers**: a record of the draft it was made for, or of the hash. -/
theorem RecordsInv.answers (hJ : J.RecordsInv) (h : (J.call call fate).1 = .ok v) :
    call.Answers v := by
  obtain ⟨plan, hplan, hread⟩ := plan_of_call_eq_ok h
  cases call with
  | persistBeforeProviderEffect draft => exact answers_persist hplan hread
  | markProviderEffectStarted draft => exact hJ.answers_mark hplan hread
  | persistReplayableRightsDecisions draft decisions => exact answers_persistDecisions hplan hread
  | markTerminal draft terminalResult => exact answers_markTerminal hplan hread
  | load operationHash =>
    obtain ⟨entry, hentry, hplan⟩ := bind_eq_ok.mp hplan
    cases hplan
    obtain ⟨_, _, hentry⟩ := bind_eq_ok.mp hentry
    obtain ⟨⟨⟩, hsame, hentry⟩ := bind_eq_ok.mp hentry
    cases hentry
    rw [failIf_eq_ok, not_not] at hsame
    have hhash := (StoreEntry.intoPersisted_eq_ok hread).1
    rw [JournalCall.Answers, hhash, hsame]

/-- A marked record is not marked again, which is no error. -/
theorem Holds.mark_again (h : J.Holds slot v) (hmarked : v.providerEffectStarted = true) :
    J.call (.markProviderEffectStarted v.draft) .completed = (.ok v, J) := by
  obtain ⟨existing, _, hexisting, _⟩ := id h
  have hplan : J.view.markProviderEffectStarted v.draft = .ok ⟨none, existing⟩ := by
    refine bind_eq_ok.mpr ⟨existing, h.existingFor hexisting, if_pos (.inl ?_)⟩
    rw [PersistedRuntimeReleaseOperation.effectStarted_toEntry hexisting, hmarked]
  rw [Journal.call, JournalCall.plan, hplan]
  change (existing.intoPersisted, J) = _
  rw [PersistedRuntimeReleaseOperation.intoPersisted_toEntry hexisting]

theorem Holds.load (h : J.Holds slot v) {operationHash : Digest32}
    (hhash : v.draft.operationHash = .ok operationHash) :
    J.call (.load operationHash) .completed = (.ok v, J) := by
  obtain ⟨entry, _, hentry, hslot, _⟩ := id h
  have hread := h.readEntry hentry
  obtain rfl : entry.operationHash = operationHash := Except.ok.inj
    ((PersistedRuntimeReleaseOperation.operationHash_toEntry hentry).symm.trans hhash)
  have hplan : J.view.load entry.operationHash = .ok ⟨none, entry⟩ := by
    rw [JournalView.load, PersistedRuntimeReleaseOperation.toEntry_slotHash hentry, hslot]
    exact bind_eq_ok.mpr ⟨entry, hread.2, rfl⟩
  rw [Journal.call, JournalCall.plan, hplan]
  change (entry.intoPersisted, J) = _
  rw [PersistedRuntimeReleaseOperation.intoPersisted_toEntry hentry]

/-! ## 4. What is listed as unresolved -/

/-- What is read from a slot of a sound journal is the entry of its record. -/
theorem Sound.holds_of_readEntryForSlot (hS : J.Sound)
    (h : J.view.readEntryForSlot slot = .ok entry) :
    ∃ v, J.Holds slot v ∧ v.toEntry = .ok entry ∧ entry.slotHash = slot := by
  have hread : J.view.readEntry slot entry.operationHash = .ok entry :=
    bind_eq_ok.mpr ⟨entry, h, bind_eq_ok.mpr ⟨(), failIf_eq_ok.mpr (not_not.mpr rfl), rfl⟩⟩
  exact (hS.holds_of_readEntry hread).2

/-- Every record is read when the directory is listed, in whatever order that is. -/
theorem Sound.readEntries (hS : J.Sound) {slots : List Digest32} (h : slots.Perm J.keys) :
    ∃ entries, slots.mapM J.view.readEntryForSlot = .ok entries ∧ entries.Nodup := by
  obtain ⟨entries, hentries⟩ := exists_mapM fun slot (hslot : slot ∈ slots) => by
    have hslot : slot ∈ J := h.mem_iff.mp hslot
    obtain ⟨bytes, hbytes⟩ := Option.isSome_iff_exists.mp (AList.lookup_isSome.mpr hslot)
    obtain ⟨v, hv⟩ := hS slot bytes hbytes
    obtain ⟨entry, _, _, hread⟩ := hv.readEntryForSlot
    exact ⟨entry, hread⟩
  refine ⟨entries, hentries, nodup_of_mapM hentries (h.nodup_iff.mpr J.nodupKeys) ?_⟩
  intro slot _ slot' _ entry h h'
  obtain ⟨_, _, _, hslot⟩ := hS.holds_of_readEntryForSlot h
  obtain ⟨_, _, _, hslot'⟩ := hS.holds_of_readEntryForSlot h'
  exact hslot.symm.trans hslot'

/-- **`list_unresolved` returns exactly the records without a terminal result**, each once. -/
theorem Sound.listUnresolved (hS : J.Sound) :
    ∃ unresolved, J.view.listUnresolved = .ok unresolved ∧ unresolved.Nodup ∧
      ∀ v, v ∈ unresolved ↔ ∃ slot, J.Holds slot v ∧ v.terminalResult = none := by
  obtain ⟨entries, hentries, hdistinct⟩ := hS.readEntries (List.Perm.refl J.view.names)
  have hperm := List.perm_insertionSort
    (fun a b : StoreEntry => a.operationHash.toList ≤ b.operationHash.toList)
    (entries.filter fun entry => entry.terminalBytes.isNone)
  -- each listed entry is the entry of one record
  have hrecord : ∀ entry ∈ sortByKey (·.operationHash.toList)
      (entries.filter fun entry => entry.terminalBytes.isNone),
      ∃ slot v, J.Holds slot v ∧ v.toEntry = .ok entry ∧ v.terminalResult = none := by
    intro entry hmem
    obtain ⟨hmem, hopen⟩ := List.mem_filter.mp (hperm.mem_iff.mp hmem)
    obtain ⟨slot, _, hread⟩ := (mem_of_mapM hentries).mp hmem
    obtain ⟨v, hv, hentry, _⟩ := hS.holds_of_readEntryForSlot hread
    refine ⟨slot, v, hv, hentry, ?_⟩
    rw [Option.isNone_iff_eq_none, ← Option.not_isSome_iff_eq_none,
      PersistedRuntimeReleaseOperation.terminalBytes_toEntry hentry] at hopen
    exact Option.not_isSome_iff_eq_none.mp hopen
  obtain ⟨unresolved, hunresolved⟩ := exists_mapM fun entry hmem =>
    let ⟨_, v, _, hentry, _⟩ := hrecord entry hmem
    ⟨v, PersistedRuntimeReleaseOperation.intoPersisted_toEntry hentry⟩
  refine ⟨unresolved, bind_eq_ok.mpr ⟨entries, hentries, hunresolved⟩, ?_, fun v => ?_⟩
  · refine nodup_of_mapM hunresolved (hperm.nodup_iff.mpr (hdistinct.filter _)) ?_
    intro entry hmem entry' hmem' v h h'
    obtain ⟨_, w, _, hentry, _⟩ := hrecord entry hmem
    obtain ⟨_, w', _, hentry', _⟩ := hrecord entry' hmem'
    rw [PersistedRuntimeReleaseOperation.intoPersisted_toEntry hentry, Except.ok.injEq] at h
    rw [PersistedRuntimeReleaseOperation.intoPersisted_toEntry hentry', Except.ok.injEq] at h'
    rw [h] at hentry
    rw [h'] at hentry'
    exact Except.ok.inj (hentry.symm.trans hentry')
  · rw [mem_of_mapM hunresolved]
    constructor
    · rintro ⟨entry, hmem, hread⟩
      obtain ⟨slot, w, hw, hentry, hopen⟩ := hrecord entry hmem
      rw [PersistedRuntimeReleaseOperation.intoPersisted_toEntry hentry, Except.ok.injEq] at hread
      subst hread
      exact ⟨slot, hw, hopen⟩
    · rintro ⟨slot, hv, hopen⟩
      obtain ⟨entry, hentry, _, hread⟩ := hv.readEntryForSlot
      obtain ⟨_, _, _, _, _, hlookup⟩ := hv
      refine ⟨entry, hperm.mem_iff.mpr (List.mem_filter.mpr
        ⟨(mem_of_mapM hentries).mpr ⟨slot, ?_, hread⟩, ?_⟩),
        PersistedRuntimeReleaseOperation.intoPersisted_toEntry hentry⟩
      · exact AList.lookup_isSome.mp (by rw [hlookup]; rfl)
      · rw [Option.isNone_iff_eq_none, ← Option.not_isSome_iff_eq_none,
          PersistedRuntimeReleaseOperation.terminalBytes_toEntry hentry, hopen]
        exact Bool.false_ne_true

/-- The order in which the directory lists the records does not matter to `list_unresolved`. -/
theorem Sound.listUnresolved_perm (hS : J.Sound) {view : JournalView}
    (hread : view.read = J.view.read) (hnames : view.names.Perm J.view.names) :
    view.listUnresolved = J.view.listUnresolved := by
  have hreads : view.readEntryForSlot = J.view.readEntryForSlot := by
    funext slot
    rw [JournalView.readEntryForSlot, JournalView.readEntryForSlot, hread]
  obtain ⟨entries, hentries, hdistinct⟩ := hS.readEntries hnames
  obtain ⟨entries', hentries', hdistinct'⟩ := hS.readEntries (List.Perm.refl J.view.names)
  have hsame : entries.Perm entries' := by
    refine (List.perm_ext_iff_of_nodup hdistinct hdistinct').mpr fun entry => ?_
    rw [mem_of_mapM hentries, mem_of_mapM hentries']
    exact exists_congr fun slot => and_congr_left' hnames.mem_iff
  -- the operation hash of an entry determines its slot
  have hkeys : ∀ a ∈ entries, ∀ b ∈ entries,
      a.operationHash.toList = b.operationHash.toList → a = b := by
    intro a ha b hb hhash
    obtain ⟨slot, _, hslot⟩ := (mem_of_mapM hentries).mp ha
    obtain ⟨slot', _, hslot'⟩ := (mem_of_mapM hentries).mp hb
    obtain ⟨_, _, hentry, rfl⟩ := hS.holds_of_readEntryForSlot hslot
    obtain ⟨_, _, hentry', rfl⟩ := hS.holds_of_readEntryForSlot hslot'
    rw [← PersistedRuntimeReleaseOperation.toEntry_slotHash hentry,
      List.Vector.toList_injective hhash,
      PersistedRuntimeReleaseOperation.toEntry_slotHash hentry', hslot'] at hslot
    exact (Except.ok.inj hslot).symm
  have hsort := sortByKey_perm (hsame.filter fun entry => entry.terminalBytes.isNone)
    fun a ha b hb => hkeys a (List.mem_of_mem_filter ha) b (List.mem_of_mem_filter hb)
  rw [JournalView.listUnresolved, JournalView.listUnresolved, hreads, hentries, hentries']
  simp only [bind, Except.bind, hsort]

theorem step_of_call {result : Except RuntimeReleaseJournalError PersistedRuntimeReleaseOperation}
    (h : J.call call fate = (result, J')) : step J (call, fate) = some J' := by
  rw [step, h]

/-- Every label is enabled. -/
theorem run_step (J : Journal) (labels : List (JournalCall × Fate)) :
    Transition.run step J labels =
      some (labels.foldl (fun J label => (J.call label.1 label.2).2) J) := by
  induction labels generalizing J with
  | nil => rfl
  | cons label labels ih => exact Transition.run_cons_eq_some.mpr ⟨_, rfl, ih _⟩

/-- **What a run of calls does to the records of a journal**: what each keeps, where its decisions
come from, and what is listed at the end. -/
structure LifeCycle (J : Journal) (labels : List (JournalCall × Fate)) (J' : Journal) : Prop where
  grows : ∀ slot v, J.Holds slot v → ∃ v', J'.Holds slot v' ∧ Grows v v'
  oneEach : ∀ slot v, J'.Holds slot v → (v.replayableRightsDecisions.map decisionNode).Nodup
  handedOver : ∀ slot v, J'.Holds slot v → ∀ d ∈ v.replayableRightsDecisions,
    (∃ u, J.Holds slot u ∧ d ∈ u.replayableRightsDecisions) ∨
      ∃ decisions fate, (.persistReplayableRightsDecisions v.draft decisions, fate) ∈ labels ∧
        d ∈ decisions
  unresolved : ∃ unresolved, J'.view.listUnresolved = .ok unresolved ∧ unresolved.Nodup ∧
    ∀ v, v ∈ unresolved ↔ ∃ slot, J'.Holds slot v ∧ v.terminalResult = none

/-- **The life cycle**, over every run of the journal's calls. -/
theorem record_lifecycle (hJ : J.Reachable) {labels : List (JournalCall × Fate)}
    (hrun : Transition.run step J labels = some J') : LifeCycle J labels J' := by
  have hS := hJ.recordsInv.sound
  have hreach : J'.Reachable := hJ.run hrun
  have hJ' := hreach.recordsInv
  exact
    { grows := fun _ _ hv => hS.follows hrun hv
      oneEach := fun slot v hv => (hJ'.wellFormed slot v hv).oneEach
      handedOver := fun _ _ hv => hS.handed_over hrun hv
      unresolved := hJ'.sound.listUnresolved }

end Journal

end

/-! ## 5. A run to evaluate the model with -/

section

attribute [local instance] acceptingCurves tailEchoCrypto constantWallet

open ReleaseSample

def sampleDraft : RuntimeReleaseOperationDraft := ⟨sample.signed, [1], [1], by decide⟩

def sampleCalls (decision : SignedNodeRightsDecisionV1) : List (JournalCall × Fate) :=
  [(.persistBeforeProviderEffect sampleDraft, .completed),
    (.markProviderEffectStarted sampleDraft, .completed),
    (.persistReplayableRightsDecisions sampleDraft [decision], .completed)]

def sampleRecord (decision : SignedNodeRightsDecisionV1) : PersistedRuntimeReleaseOperation :=
  ⟨sampleDraft, none, [decision], true⟩

def sampleJournal (decision : SignedNodeRightsDecisionV1) : Journal :=
  (sampleCalls decision).foldl (fun J label => (J.call label.1 label.2).2) ∅

theorem sampleJournal_run (decision : SignedNodeRightsDecisionV1) :
    Transition.run Journal.step ∅ (sampleCalls decision) = some (sampleJournal decision) := by
  rw [sampleJournal, Journal.run_step]

theorem sampleJournal_reachable (decision : SignedNodeRightsDecisionV1) :
    (sampleJournal decision).Reachable := ⟨∅, _, rfl, sampleJournal_run decision⟩

theorem sampleDraft_entry (started : Bool) : ∃ entry,
    (⟨sampleDraft, none, [], started⟩ : PersistedRuntimeReleaseOperation).toEntry = .ok entry := by
  obtain ⟨_, _, bytes, hbytes, _⟩ := signed_encodes sample_ok
  exact ⟨_, PersistedRuntimeReleaseOperation.toEntry_eq_ok.mpr
    ⟨none, rfl, [], rfl, StoreEntry.fromDraft_eq_ok.mpr ⟨bytes, hbytes, rfl⟩⟩⟩

theorem sampleJournal_holds (seed : UInt8) (d : RightsDecisionV1) :
    ∃ slot, (sampleJournal (sample.decision seed d)).Holds slot
      (sampleRecord (sample.decision seed d)) := by
  obtain ⟨_, _, bytes, hbytes, _⟩ := signed_encodes sample_ok
  obtain ⟨rights, hrights⟩ := encodeReplayableRightsDecisions_single
    (decision_encodes sample_ok seed d) (by omega)
  have hmade : ∀ (b : Bool) (r : List UInt8), ∃ entry,
      StoreEntry.fromDraft sampleDraft none b r = .ok entry := fun b r =>
    ⟨_, StoreEntry.fromDraft_eq_ok.mpr ⟨bytes, hbytes, rfl⟩⟩
  obtain ⟨entry₁, hentry₁⟩ := hmade false []
  obtain ⟨entry₂, hentry₂⟩ := hmade true []
  obtain ⟨entry₃, hentry₃⟩ := hmade true rights
  have hfresh : (PersistedRuntimeReleaseOperation.fresh sampleDraft).toEntry = .ok entry₁ :=
    PersistedRuntimeReleaseOperation.toEntry_eq_ok.mpr ⟨none, rfl, [], rfl, hentry₁⟩
  obtain ⟨J₁, hcall₁, hJ₁⟩ :=
    Journal.call_persist_new (J := (∅ : Journal)) hfresh (AList.lookup_empty _)
      (Nat.succ_pos 4095)
  obtain ⟨J₂, hcall₂, hJ₂⟩ := hJ₁.call_update (.started rfl rfl)
    (PersistedRuntimeReleaseOperation.toEntry_eq_ok.mpr ⟨none, rfl, [], rfl, hentry₂⟩)
  have hmerged : mergeReplayableRightsDecisions [] [sample.decision seed d] =
      .ok [sample.decision seed d] := rfl
  obtain ⟨J₃, hcall₃, hJ₃⟩ := hJ₂.call_update (.decided rfl rfl hmerged)
    (PersistedRuntimeReleaseOperation.toEntry_eq_ok.mpr ⟨none, rfl, rights, hrights, hentry₃⟩)
  refine ⟨entry₁.slotHash, ?_⟩
  have hrun : Transition.run Journal.step ∅ (sampleCalls (sample.decision seed d)) = some J₃ :=
    Transition.run_cons_eq_some.mpr ⟨J₁, Journal.step_of_call hcall₁,
      Transition.run_cons_eq_some.mpr ⟨J₂, Journal.step_of_call hcall₂,
        Transition.run_cons_eq_some.mpr ⟨J₃, Journal.step_of_call hcall₃, rfl⟩⟩⟩
  rw [Option.some.inj ((sampleJournal_run _).symm.trans hrun)]
  exact hJ₃

theorem sampleJournal_file (seed : UInt8) (d : RightsDecisionV1) :
    ∃ slot bytes, (sampleJournal (sample.decision seed d)).lookup slot = some bytes := by
  obtain ⟨slot, _, bytes, _, _, _, hlookup⟩ := sampleJournal_holds seed d
  exact ⟨slot, bytes, hlookup⟩

theorem retry_exact_iff_sample :
    ∃ slot v, (sampleJournal (sample.decision 1 .allowed)).Holds slot v ∧
      ((sampleJournal (sample.decision 1 .allowed)).RetryExact v ↔
        v.replayableRightsDecisions = []) ∧
        (v.terminalResult ≠ none → v.replayableRightsDecisions = []) := by
  obtain ⟨slot, bytes, hlookup⟩ := sampleJournal_file 1 .allowed
  obtain ⟨v, hv⟩ := Journal.retry_exact_iff (sampleJournal_reachable _) hlookup
  exact ⟨slot, v, hv⟩

/-- **A retry is refused**: a node has allowed the operation and nothing else is known, and the
caller who asks again with the same draft is told `Conflict`. -/
theorem retry_conflicts :
    (sampleJournal (sample.decision 1 .allowed)).Reachable ∧
      (∃ slot, (sampleJournal (sample.decision 1 .allowed)).Holds slot
        (sampleRecord (sample.decision 1 .allowed))) ∧
      ((sampleJournal (sample.decision 1 .allowed)).call
        (.persistBeforeProviderEffect sampleDraft) .completed).1 = .error .conflict := by
  obtain ⟨slot, h⟩ := sampleJournal_holds 1 .allowed
  refine ⟨sampleJournal_reachable _, ⟨slot, h⟩, ?_⟩
  have hcall := h.persist
  rw [sampleRecord, if_neg (List.cons_ne_nil _ _)] at hcall
  exact congrArg Prod.fst hcall

theorem record_lifecycle_sample :
    Journal.LifeCycle ∅ (sampleCalls (sample.decision 1 .allowed))
      (sampleJournal (sample.decision 1 .allowed)) :=
  Journal.record_lifecycle ⟨∅, [], rfl, rfl⟩ (sampleJournal_run _)

/-- **The journal stores what it is handed**: a decision of a node that is not in the node set of
the operation, which verifies at no time, is stored all the same. -/
theorem unverified_decision_stored :
    (∃ slot, (sampleJournal (sample.decision 9 .allowed)).Holds slot
      (sampleRecord (sample.decision 9 .allowed))) ∧
      ∀ now verified, sample.operation.verifyNodeRightsDecision (sample.decision 9 .allowed)
        nodeSet now ≠ .ok verified := by
  refine ⟨sampleJournal_holds 9 .allowed, fun now verified h => ?_⟩
  obtain ⟨_, _, h⟩ := bind_eq_ok.mp h
  obtain ⟨hverified, _⟩ := SignedNodeRightsDecisionV1.verify_eq_ok.mp h
  have hmember : seedKey "node_public_key" 9 ∈ nodeSet.members := hverified.member
  revert hmember
  decide

end

end ElastosRuntime.ReleaseJournal
