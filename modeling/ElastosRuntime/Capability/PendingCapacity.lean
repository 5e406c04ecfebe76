/-
# Capacity and index of the pending request store

The store promises two limits, on all requests and on one session's pending requests, and an
index that lists each session's requests.  The limits are checked in one critical section and
relied on in another, and the two maps are written one after the other, so both promises depend
on what happens in between.

* **Limits.**  Only an insertion raises a count (`step_counts`), so the limits hold as long as
  each insertion still finds the room that was checked for.
* **Index.**  Between an insertion and its index entry, and between a removal and the clean-up of
  the index, the maps differ by what the calls in flight still have to write.  `IndexInv` says
  exactly how; once no call is between its two writes (`Settled`) it says that the index is exact.
  What breaks it is an index entry written for a request that has been removed, with its index
  clean-up done, since it was stored.

`capacity_of_keepsBounds` has the two conditions on the steps.
-/
import ElastosRuntime.Capability.PendingSystem

namespace ElastosRuntime.PendingSystem

open Transition

/-! ## 1. The promises -/

/-- The session a stored request belongs to. -/
def World.owner (w : World) (id : String) : Option SessionId := (w.request id).map (·.sessionId)

/-- Whether a request is pending for a session. -/
def pendingFor (sessionId : SessionId) (r : PendingCapabilityRequest) : Bool :=
  decide (r.sessionId = sessionId) && r.statusPending

/-- How many stored requests of a session are pending. -/
def World.pendingOf (w : World) (sessionId : SessionId) : Nat :=
  Table.countVals (pendingFor sessionId) w.store.requests

/-- The store is within both limits. -/
structure WithinLimits (w : World) : Prop where
  total : w.store.requestCount ≤ MAX_PENDING_REQUESTS
  session : ∀ sessionId, w.pendingOf sessionId ≤ MAX_PENDING_PER_SESSION

/-- The index lists exactly the ids of the stored requests of each session, each once. -/
structure IndexExact (w : World) : Prop where
  nodup : ∀ sessionId, (w.store.indexOf sessionId).Nodup
  mem_iff : ∀ sessionId id, id ∈ w.store.indexOf sessionId ↔ w.owner id = some sessionId

/-- The request a call has stored and not yet indexed. -/
def pushingOf : Option PendingCall → Option PendingCapabilityRequest
  | some (.pushing r) => some r
  | _ => none

/-- The ids a call has removed and not yet dropped from the index. -/
def unindexingOf : Option PendingCall → Option (List String)
  | some (.unindexing removed _) => some removed
  | _ => none

def World.pushings (w : World) (c : CallId) : Option PendingCapabilityRequest :=
  pushingOf (w.calls.lookup c)

def World.unindexings (w : World) (c : CallId) : Option (List String) :=
  unindexingOf (w.calls.lookup c)

/-- No call is between its writes to the two maps. -/
def Settled (w : World) : Prop := ∀ c, w.pushings c = none ∧ w.unindexings c = none

/-! ## 2. The limits -/

variable {w w' : World}

/-- **Only an insertion raises a count**, and it raises the total by one and its own session's
pending requests by one. -/
theorem step_counts {l : Label} (hw : StoredIssued w) (h : step w l = some w') :
    (w'.store.requestCount ≤ w.store.requestCount ∧
      ∀ sessionId, w'.pendingOf sessionId ≤ w.pendingOf sessionId) ∨
    ∃ c env args, l = .resume c env ∧ w.calls.lookup c = some (.inserting args) ∧
      w'.store.requestCount = w.store.requestCount + 1 ∧
      ∀ sessionId, w'.pendingOf sessionId ≤
        w.pendingOf sessionId + if sessionId = args.sessionId then 1 else 0 := by
  have hset : ∀ (status : RequestStatus), status ≠ .pending → ∀ sessionId r,
      pendingFor sessionId (r.withStatus status) = true → pendingFor sessionId r = true := by
    intro status hne sessionId r hp
    simp only [pendingFor, Bool.and_eq_true, PendingCapabilityRequest.statusPending_iff] at hp
    exact absurd hp.2 hne
  have hrevoked : ∀ reason sessionId (r : PendingCapabilityRequest),
      pendingFor sessionId (r.revoked reason) = true → pendingFor sessionId r = true := by
    intro reason sessionId r hp
    unfold PendingCapabilityRequest.revoked at hp
    split at hp
    · exact hset (.denied reason) (by simp) sessionId r hp
    · exact hp
  cases l with
  | createRequest c args =>
    simp only [step] at h
    split at h
    · cases h
    · cases h
      exact Or.inl (by simp [World.pendingOf])
  | cleanupExpired c clock =>
    simp only [step] at h
    split at h
    · cases h
    · cases h
      exact Or.inl (by simp [World.pendingOf])
  | cleanupOld c retentionSecs now =>
    simp only [step] at h
    split at h
    · cases h
    · cases h
      refine Or.inl ⟨?_, fun sessionId => ?_⟩
      · rw [World.setCall_store, World.setStore_store]
        exact Table.size_retain_le _ _
      · rw [World.pendingOf, World.setCall_store, World.setStore_store]
        exact Table.countVals_retain_le _ _ _
  | grantRequest id token duration now =>
    cases h
    refine Or.inl ?_
    simp only [World.pendingOf, World.setStore_store, PendingRequestStore.grantRequest]
    split
    · exact ⟨Nat.le_refl _, fun _ => Nat.le_refl _⟩
    · split
      · exact ⟨Nat.le_refl _, fun _ => Nat.le_refl _⟩
      · split
        · exact ⟨Nat.le_of_eq (Table.size_modify _ _ _), fun sessionId =>
            Table.countVals_modify_le (hset _ (by simp) sessionId) id _⟩
        · exact ⟨Nat.le_of_eq (Table.size_modify _ _ _), fun sessionId =>
            Table.countVals_modify_le (hset _ (by simp) sessionId) id _⟩
  | denyRequest id reason =>
    cases h
    refine Or.inl ?_
    simp only [World.pendingOf, World.setStore_store, PendingRequestStore.denyRequest]
    split
    · exact ⟨Nat.le_refl _, fun _ => Nat.le_refl _⟩
    · split
      · exact ⟨Nat.le_refl _, fun _ => Nat.le_refl _⟩
      · exact ⟨Nat.le_of_eq (Table.size_modify _ _ _), fun sessionId =>
          Table.countVals_modify_le (hset _ (by simp) sessionId) id _⟩
  | revokeRequest id =>
    cases h
    exact Or.inl ⟨Nat.le_of_eq (Table.size_modify _ _ _), fun sessionId =>
      Table.countVals_modify_le (hrevoked _ sessionId) id _⟩
  | revokeAllGranted =>
    cases h
    exact Or.inl ⟨Nat.le_of_eq (Table.size_mapVals _ _), fun sessionId =>
      Table.countVals_mapVals_le (hrevoked _ sessionId) _⟩
  | resume c env =>
    obtain ⟨call, hcall, hres⟩ := Option.bind_eq_some_iff.mp h
    cases call with
    | collecting args =>
      cases hres
      exact Or.inl (by simp [World.pendingOf])
    | marking ids next =>
      cases hres
      refine Or.inl ⟨?_, fun sessionId => ?_⟩
      · rw [World.setCall_store, World.setStore_store]
        exact Nat.le_of_eq (Table.size_modifyAll _ _ _)
      · rw [World.pendingOf, World.setCall_store, World.setStore_store]
        exact Table.countVals_modifyAll_le (hset _ (by simp) sessionId) ids _
    | removing args =>
      cases hres
      refine Or.inl ⟨?_, fun sessionId => ?_⟩
      · rw [World.setCall_store, World.setStore_store]
        exact Table.size_retain_le _ _
      · rw [World.pendingOf, World.setCall_store, World.setStore_store]
        exact Table.countVals_retain_le _ _ _
    | unindexing removed next =>
      cases hres
      exact Or.inl (by simp [World.pendingOf, PendingRequestStore.unindex,
        PendingRequestStore.requestCount])
    | rechecking args =>
      cases hres
      exact Or.inl (by simp [World.pendingOf])
    | sessionChecking args =>
      cases hres
      exact Or.inl (by simp [World.pendingOf])
    | pushing r =>
      cases hres
      exact Or.inl (by simp [World.pendingOf, PendingRequestStore.pushIndex,
        PendingRequestStore.requestCount])
    | inserting args =>
      simp only [resumeCall] at hres
      split at hres
      · cases hres
      · next hfresh =>
        cases hres
        have hnone : w.store.requests.lookup
            (PendingCapabilityRequest.newWithReason env.stamp args w.store.timeoutSecs).id =
              none := by
          by_contra hsome
          exact hfresh (hw _ (Option.isSome_iff_ne_none.mpr hsome))
        refine Or.inr ⟨c, env, args, rfl, hcall, ?_, fun sessionId => ?_⟩
        · rw [World.setCall_store]
          exact Table.size_insert_new _ hnone
        · rw [World.pendingOf, World.setCall_store]
          refine Nat.le_trans (Nat.le_of_eq (Table.countVals_insert_new _ _ hnone)) ?_
          refine Nat.add_le_add_left ?_ _
          by_cases heq : sessionId = args.sessionId
          · rw [if_pos heq]
            split <;> omega
          · rw [if_neg heq, if_neg]
            intro hp
            simp only [pendingFor, Bool.and_eq_true, decide_eq_true_eq] at hp
            exact heq hp.1.symm

/-! ## 3. How index and requests are related while calls are in flight -/

/-- **The index invariant.**  An indexed id is a request of its session, or has been removed and
is still to be dropped by the call that removed it; a stored request is indexed, or is still to
be indexed by the call that stored it. -/
structure IndexInv (w : World) : Prop where
  stored : ∀ id sessionId, w.owner id = some sessionId → id ∈ w.issued
  nodup : ∀ sessionId, (w.store.indexOf sessionId).Nodup
  listed : ∀ sessionId id, id ∈ w.store.indexOf sessionId → id ∈ w.issued ∧
    (w.owner id = some sessionId ∨
      w.owner id = none ∧ ∃ c removed, w.unindexings c = some removed ∧ id ∈ removed)
  indexed : ∀ id sessionId, w.owner id = some sessionId →
    id ∈ w.store.indexOf sessionId ∨ ∃ c r, w.pushings c = some r ∧ r.id = id
  pushing : ∀ c r, w.pushings c = some r → r.id ∈ w.issued ∧
    (∀ sessionId, r.id ∉ w.store.indexOf sessionId) ∧
    ∀ sessionId, w.owner r.id = some sessionId → r.sessionId = sessionId
  pushing_unique : ∀ c c' r r', w.pushings c = some r → w.pushings c' = some r' →
    r.id = r'.id → c = c'
  unindexing : ∀ c removed, w.unindexings c = some removed → ∀ id ∈ removed,
    id ∈ w.issued ∧ w.owner id = none

theorem indexInv_initial (timeoutSecs : Nat) : IndexInv (World.initial timeoutSecs) := by
  have howner : ∀ id, (World.initial timeoutSecs).owner id = none := fun _ => rfl
  have hindex : ∀ sessionId, (World.initial timeoutSecs).store.indexOf sessionId = [] :=
    fun _ => rfl
  have hpush : ∀ c, (World.initial timeoutSecs).pushings c = none := fun _ => rfl
  have hun : ∀ c, (World.initial timeoutSecs).unindexings c = none := fun _ => rfl
  constructor <;> simp [howner, hindex, hpush, hun]

/-- **Once every call has written both maps, the index is exact.** -/
theorem IndexInv.exact (hw : IndexInv w) (hs : Settled w) : IndexExact w where
  nodup := hw.nodup
  mem_iff := fun sessionId id => by
    constructor
    · intro hid
      rcases (hw.listed sessionId id hid).2 with howner | ⟨-, c, removed, hc, -⟩
      · exact howner
      · rw [(hs c).2] at hc
        cases hc
    · intro howner
      rcases hw.indexed id sessionId howner with hid | ⟨c, r, hc, -⟩
      · exact hid
      · rw [(hs c).1] at hc
        cases hc

section Steps

variable {w w' : World}

/-- A step that touches neither map's keys nor a write in flight. -/
theorem IndexInv.quiet (hw : IndexInv w) (hissued : w'.issued = w.issued)
    (hindex : ∀ sessionId, w'.store.indexOf sessionId = w.store.indexOf sessionId)
    (howner : ∀ id, w'.owner id = w.owner id) (hpush : ∀ c, w'.pushings c = w.pushings c)
    (hun : ∀ c, w'.unindexings c = w.unindexings c) : IndexInv w' := by
  constructor
  · simpa only [howner, hissued] using hw.stored
  · simpa only [hindex] using hw.nodup
  · simpa only [hindex, hissued, howner, hun] using hw.listed
  · simpa only [howner, hindex, hpush] using hw.indexed
  · simpa only [hpush, hissued, hindex, howner] using hw.pushing
  · simpa only [hpush] using hw.pushing_unique
  · simpa only [hun, hissued, howner] using hw.unindexing

variable {c : CallId}

/-- A fresh request is stored; its index entry is now in flight. -/
theorem IndexInv.insert (hw : IndexInv w) {r : PendingCapabilityRequest} (hfresh : r.id ∉ w.issued)
    (hissued : w'.issued = Insert.insert r.id w.issued)
    (hindex : ∀ sessionId, w'.store.indexOf sessionId = w.store.indexOf sessionId)
    (howner : ∀ id, w'.owner id = if id = r.id then some r.sessionId else w.owner id)
    (hpush : ∀ c', w'.pushings c' = if c' = c then some r else w.pushings c')
    (hidle : w.pushings c = none)
    (hun : ∀ c', w'.unindexings c' = w.unindexings c') : IndexInv w' := by
  have hne : ∀ id ∈ w.issued, w'.owner id = w.owner id := fun id hid => by
    rw [howner, if_neg fun heq : id = r.id => hfresh (heq ▸ hid)]
  have hold : ∀ id ∈ w.issued, id ∈ w'.issued := fun id hid => by
    rw [hissued]
    exact Finset.mem_insert_of_mem hid
  have hnew : r.id ∈ w'.issued := by
    rw [hissued]
    exact Finset.mem_insert_self _ _
  constructor
  · intro id sessionId hid
    rw [howner] at hid
    split at hid
    · next heq => exact heq ▸ hnew
    · exact hold id (hw.stored id sessionId hid)
  · simpa only [hindex] using hw.nodup
  · intro sessionId id hid
    rw [hindex] at hid
    obtain ⟨hiss, hcase⟩ := hw.listed sessionId id hid
    refine ⟨hold id hiss, ?_⟩
    simpa only [hne id hiss, hun] using hcase
  · intro id sessionId hid
    rw [howner] at hid
    split at hid
    · next heq => exact Or.inr ⟨c, r, by rw [hpush, if_pos rfl], heq.symm⟩
    · rcases hw.indexed id sessionId hid with hmem | ⟨c', r', hc', hr'⟩
      · exact Or.inl (by rwa [hindex])
      · refine Or.inr ⟨c', r', ?_, hr'⟩
        rw [hpush, if_neg, hc']
        rintro rfl
        rw [hidle] at hc'
        cases hc'
  · intro c' r' hc'
    rw [hpush] at hc'
    split at hc'
    · cases hc'
      refine ⟨hnew, fun sessionId hmem => ?_, fun sessionId hid => ?_⟩
      · rw [hindex] at hmem
        exact hfresh (hw.listed sessionId r.id hmem).1
      · rw [howner, if_pos rfl] at hid
        exact Option.some.inj hid
    · obtain ⟨hiss, hnot, hsess⟩ := hw.pushing c' r' hc'
      exact ⟨hold _ hiss, by simpa only [hindex] using hnot, by simpa only [hne _ hiss] using hsess⟩
  · intro c₁ c₂ r₁ r₂ h₁ h₂ heq
    rw [hpush] at h₁ h₂
    split at h₁ <;> split at h₂
    · next e₁ e₂ => rw [e₁, e₂]
    · cases h₁
      exact absurd (heq ▸ (hw.pushing c₂ r₂ h₂).1) hfresh
    · cases h₂
      exact absurd (heq ▸ (hw.pushing c₁ r₁ h₁).1) hfresh
    · exact hw.pushing_unique c₁ c₂ r₁ r₂ h₁ h₂ heq
  · intro c' removed hc' id hid
    rw [hun] at hc'
    obtain ⟨hiss, hnone⟩ := hw.unindexing c' removed hc' id hid
    exact ⟨hold id hiss, by rw [hne id hiss, hnone]⟩

/-- The index entry of a request is written, while the request is stored or its removal is still
to be cleaned up. -/
theorem IndexInv.push (hw : IndexInv w) {r : PendingCapabilityRequest}
    (hcall : w.pushings c = some r)
    (hg : (w.owner r.id).isSome ∨ ∃ c' removed, w.unindexings c' = some removed ∧ r.id ∈ removed)
    (hissued : w'.issued = w.issued)
    (hindex : ∀ sessionId, w'.store.indexOf sessionId = if sessionId = r.sessionId then
      w.store.indexOf sessionId ++ [r.id] else w.store.indexOf sessionId)
    (howner : ∀ id, w'.owner id = w.owner id)
    (hpush : ∀ c', w'.pushings c' = if c' = c then none else w.pushings c')
    (hun : ∀ c', w'.unindexings c' = w.unindexings c') :
    IndexInv w' := by
  obtain ⟨hiss, hnot, hsess⟩ := hw.pushing c r hcall
  have hmem : ∀ sessionId id, id ∈ w'.store.indexOf sessionId ↔
      id ∈ w.store.indexOf sessionId ∨ sessionId = r.sessionId ∧ id = r.id := by
    intro sessionId id
    rw [hindex]
    split
    · next heq => simp [heq]
    · next hne => simp [hne]
  constructor
  · simpa only [howner, hissued] using hw.stored
  · intro sessionId
    rw [hindex]
    split
    · rw [List.nodup_append]
      refine ⟨hw.nodup sessionId, List.nodup_singleton _, fun a ha b hb => ?_⟩
      rw [List.mem_singleton.mp hb]
      rintro rfl
      exact hnot sessionId ha
    · exact hw.nodup sessionId
  · intro sessionId id hid
    rw [hissued, howner]
    simp only [hun]
    rcases (hmem sessionId id).mp hid with hid | ⟨rfl, rfl⟩
    · exact hw.listed sessionId id hid
    · refine ⟨hiss, ?_⟩
      rcases hg with hstored | ⟨c', removed, hc', hin⟩
      · obtain ⟨sessionId, hs⟩ := Option.isSome_iff_exists.mp hstored
        exact Or.inl (by rw [hs, hsess sessionId hs])
      · exact Or.inr ⟨(hw.unindexing c' removed hc' r.id hin).2, c', removed, hc', hin⟩
  · intro id sessionId hid
    rw [howner] at hid
    rcases hw.indexed id sessionId hid with hold | ⟨c', r', hc', rfl⟩
    · exact Or.inl ((hmem sessionId id).mpr (Or.inl hold))
    · by_cases heq : c' = c
      · subst heq
        rw [hcall, Option.some.injEq] at hc'
        subst hc'
        exact Or.inl ((hmem sessionId r.id).mpr (Or.inr ⟨(hsess sessionId hid).symm, rfl⟩))
      · exact Or.inr ⟨c', r', by rw [hpush, if_neg heq, hc'], rfl⟩
  · intro c' r' hc'
    rw [hpush] at hc'
    split at hc'
    · cases hc'
    · next hne =>
      obtain ⟨hiss', hnot', hsess'⟩ := hw.pushing c' r' hc'
      refine ⟨hissued ▸ hiss', fun sessionId hin => ?_, by simpa only [howner] using hsess'⟩
      rcases (hmem sessionId r'.id).mp hin with hin | ⟨-, heq⟩
      · exact hnot' sessionId hin
      · exact hne (hw.pushing_unique c' c r' r hc' hcall heq)
  · intro c₁ c₂ r₁ r₂ h₁ h₂ heq
    rw [hpush] at h₁ h₂
    split at h₁
    · cases h₁
    · split at h₂
      · cases h₂
      · exact hw.pushing_unique c₁ c₂ r₁ r₂ h₁ h₂ heq
  · simpa only [hun, hissued, howner] using hw.unindexing

/-- Removed ids are dropped from the index. -/
theorem IndexInv.unindex (hw : IndexInv w) {removed : List String}
    (hcall : w.unindexings c = some removed) (hissued : w'.issued = w.issued)
    (hindex : ∀ sessionId, w'.store.indexOf sessionId = (w.store.indexOf sessionId).filter fun id
      => !removed.contains id) (howner : ∀ id, w'.owner id = w.owner id)
    (hpush : ∀ c', w'.pushings c' = w.pushings c')
    (hun : ∀ c', w'.unindexings c' = if c' = c then none else w.unindexings c') : IndexInv w' := by
  have hmem : ∀ sessionId id, id ∈ w'.store.indexOf sessionId ↔
      id ∈ w.store.indexOf sessionId ∧ id ∉ removed := by
    intro sessionId id
    rw [hindex]
    simp
  constructor
  · simpa only [howner, hissued] using hw.stored
  · intro sessionId
    rw [hindex]
    exact (hw.nodup sessionId).filter _
  · intro sessionId id hid
    obtain ⟨hin, hout⟩ := (hmem sessionId id).mp hid
    obtain ⟨hiss, hcase⟩ := hw.listed sessionId id hin
    rw [hissued, howner]
    refine ⟨hiss, hcase.imp_right ?_⟩
    rintro ⟨hnone, c', removed', hc', hin'⟩
    refine ⟨hnone, c', removed', ?_, hin'⟩
    rw [hun, if_neg, hc']
    rintro rfl
    rw [hcall, Option.some.injEq] at hc'
    exact hout (hc' ▸ hin')
  · intro id sessionId hid
    rw [howner] at hid
    rcases hw.indexed id sessionId hid with hin | hpushed
    · refine Or.inl ((hmem sessionId id).mpr ⟨hin, fun hrem => ?_⟩)
      rw [(hw.unindexing c removed hcall id hrem).2] at hid
      cases hid
    · exact Or.inr (by simpa only [hpush] using hpushed)
  · intro c' r hc'
    rw [hpush] at hc'
    obtain ⟨hiss, hnot, hsess⟩ := hw.pushing c' r hc'
    exact ⟨hissued ▸ hiss, fun sessionId hin => hnot sessionId ((hmem sessionId r.id).mp hin).1,
      by simpa only [howner] using hsess⟩
  · simpa only [hpush] using hw.pushing_unique
  · intro c' removed' hc' id hid
    rw [hun] at hc'
    split at hc'
    · cases hc'
    · simpa only [hissued, howner] using hw.unindexing c' removed' hc' id hid

/-- Requests are removed; the index clean-up of what went is now in flight. -/
theorem IndexInv.remove (hw : IndexInv w) (removed : List String) (hidle : w.unindexings c = none)
    (hissued : w'.issued = w.issued)
    (hindex : ∀ sessionId, w'.store.indexOf sessionId = w.store.indexOf sessionId)
    (howner : ∀ id, w'.owner id = if id ∈ removed then none else w.owner id)
    (hremoved : ∀ id ∈ removed, (w.owner id).isSome) (hpush : ∀ c', w'.pushings c' = w.pushings c')
    (hun : ∀ c', w'.unindexings c' = if c' = c ∧ removed ≠ [] then some removed else w.unindexings
      c') : IndexInv w' := by
  have hkeep : ∀ id sessionId, w'.owner id = some sessionId → w.owner id = some sessionId := by
    intro id sessionId hid
    rw [howner] at hid
    split at hid
    · cases hid
    · exact hid
  have hother : ∀ c' removed', w.unindexings c' = some removed' →
      w'.unindexings c' = some removed' := by
    intro c' removed' hc'
    rw [hun, if_neg, hc']
    rintro ⟨rfl, -⟩
    rw [hidle] at hc'
    cases hc'
  constructor
  · intro id sessionId hid
    exact hissued ▸ hw.stored id sessionId (hkeep id sessionId hid)
  · simpa only [hindex] using hw.nodup
  · intro sessionId id hid
    rw [hindex] at hid
    obtain ⟨hiss, hcase⟩ := hw.listed sessionId id hid
    refine ⟨hissued ▸ hiss, ?_⟩
    by_cases hrem : id ∈ removed
    · refine Or.inr ⟨by rw [howner, if_pos hrem], c, removed, ?_, hrem⟩
      rw [hun, if_pos ⟨rfl, List.ne_nil_of_mem hrem⟩]
    · rw [howner, if_neg hrem]
      refine hcase.imp_right ?_
      rintro ⟨hnone, c', removed', hc', hin⟩
      exact ⟨hnone, c', removed', hother c' removed' hc', hin⟩
  · intro id sessionId hid
    have hcase := hw.indexed id sessionId (hkeep id sessionId hid)
    simpa only [hindex, hpush] using hcase
  · intro c' r hc'
    rw [hpush] at hc'
    obtain ⟨hiss, hnot, hsess⟩ := hw.pushing c' r hc'
    exact ⟨hissued ▸ hiss, by simpa only [hindex] using hnot,
      fun sessionId hid => hsess sessionId (hkeep _ sessionId hid)⟩
  · simpa only [hpush] using hw.pushing_unique
  · intro c' removed' hc' id hid
    rw [hun] at hc'
    split at hc'
    · cases hc'
      obtain ⟨sessionId, hs⟩ := Option.isSome_iff_exists.mp (hremoved id hid)
      exact ⟨hissued ▸ hw.stored id sessionId hs, by rw [howner, if_pos hid]⟩
    · obtain ⟨hiss, hnone⟩ := hw.unindexing c' removed' hc' id hid
      refine ⟨hissued ▸ hiss, ?_⟩
      rw [howner, hnone]
      split <;> rfl

end Steps

/-! ## 4. Every step keeps the index invariant -/

theorem setCall_pushings (w : World) (c c' : CallId) (call : Option PendingCall) :
    (w.setCall c call).pushings c' = if c' = c then pushingOf call else w.pushings c' := by
  rw [World.pushings, World.setCall_lookup]
  split <;> rfl

theorem setCall_unindexings (w : World) (c c' : CallId) (call : Option PendingCall) :
    (w.setCall c call).unindexings c' =
      if c' = c then unindexingOf call else w.unindexings c' := by
  rw [World.unindexings, World.setCall_lookup]
  split <;> rfl

/-- The phase of a call moves on, but not to or from a write of the index. -/
theorem IndexInv.setCall (hw : IndexInv w) {c : CallId} {call : Option PendingCall}
    (hpush : w.pushings c = none) (hun : w.unindexings c = none) (hpush' : pushingOf call = none)
    (hun' : unindexingOf call = none) : IndexInv (w.setCall c call) := by
  refine hw.quiet (by simp) (by simp) (fun id => ?_) (fun c' => ?_) (fun c' => ?_)
  · simp only [World.owner, World.request, World.setCall_store]
  · rw [setCall_pushings]
    split
    · next heq => rw [hpush', heq, hpush]
    · rfl
  · rw [setCall_unindexings]
    split
    · next heq => rw [hun', heq, hun]
    · rfl

/-- A change of the requests that keeps every request's session. -/
theorem IndexInv.setStore (hw : IndexInv w) {store : PendingRequestStore}
    (hindex : store.sessionRequests = w.store.sessionRequests)
    (howner : ∀ id, (store.requests.lookup id).map (·.sessionId) = w.owner id) :
    IndexInv (w.setStore store) := by
  refine hw.quiet rfl (fun sessionId => ?_) howner (fun _ => rfl) (fun _ => rfl)
  rw [World.setStore_store, PendingRequestStore.indexOf, PendingRequestStore.indexOf, hindex]

theorem owner_setStatus (w : World) (id id' : String) (status : RequestStatus) :
    ((w.store.setStatus id status).requests.lookup id').map (·.sessionId) = w.owner id' := by
  rw [lookup_setStatus]
  split
  · rw [Option.map_map]
    rfl
  · rfl

theorem owner_revoked (reason : String) (o : Option PendingCapabilityRequest) :
    (o.map (PendingCapabilityRequest.revoked reason)).map (·.sessionId) =
      o.map (·.sessionId) := by
  cases o with
  | none => rfl
  | some r =>
    simp only [Option.map_some, PendingCapabilityRequest.revoked]
    split <;> rfl

theorem pushingOf_afterRemoval (removed : List String) (next : Option RequestArgs) :
    pushingOf (afterRemoval removed next) = none := by
  unfold afterRemoval
  split
  · cases next <;> rfl
  · rfl

theorem unindexingOf_afterRemoval (removed : List String) (next : Option RequestArgs) :
    unindexingOf (afterRemoval removed next) = if removed = [] then none else some removed := by
  unfold afterRemoval
  cases removed with
  | nil => cases next <;> rfl
  | cons id ids => rfl

/-- A removal of old requests, followed by the clean-up of the index if anything went. -/
theorem IndexInv.removeOld (hw : IndexInv w) {c : CallId} (retentionSecs : Nat)
    (now : SecureTimestamp) (next : Option RequestArgs) (hpush : w.pushings c = none)
    (hun : w.unindexings c = none) :
    IndexInv ((w.setStore (w.store.removeOld retentionSecs now)).setCall c
      (afterRemoval (w.store.oldIds retentionSecs now) next)) := by
  have hmem : ∀ id, id ∈ w.store.oldIds retentionSecs now ↔
      ∃ r, w.request id = some r ∧ PendingRequestStore.retained retentionSecs now r = false := by
    intro id
    rw [PendingRequestStore.oldIds, Table.mem_keysWhere]
    simp only [Bool.not_eq_true']
    rfl
  refine hw.remove (w.store.oldIds retentionSecs now) hun (by simp) (fun sessionId => ?_)
    (fun id => ?_) (fun id hid => ?_) (fun c' => ?_) (fun c' => ?_)
  · rw [World.setCall_store]
    rfl
  · rw [World.owner, World.request, World.setCall_store, World.setStore_store,
      PendingRequestStore.removeOld, Table.lookup_retain]
    split
    · next hid =>
      obtain ⟨r, hr, hold⟩ := (hmem id).mp hid
      rw [World.request] at hr
      rw [hr, Option.filter_some, if_neg (by rw [hold]; exact Bool.false_ne_true), Option.map_none]
    · next hid =>
      rw [World.owner, World.request]
      cases hr : w.store.requests.lookup id with
      | none => rfl
      | some r =>
        have hkept : PendingRequestStore.retained retentionSecs now r = true := by
          by_contra hold
          exact hid ((hmem id).mpr ⟨r, hr, Bool.eq_false_iff.mpr hold⟩)
        rw [Option.filter_some, if_pos hkept]
  · obtain ⟨r, hr, -⟩ := (hmem id).mp hid
    rw [World.owner, hr]
    rfl
  · rw [setCall_pushings, pushingOf_afterRemoval]
    split
    · next heq => rw [heq, hpush]
    · rfl
  · rw [setCall_unindexings, unindexingOf_afterRemoval]
    by_cases heq : c' = c
    · by_cases hnil : w.store.oldIds retentionSecs now = []
      · rw [if_pos heq, if_pos hnil, if_neg (fun h => h.2 hnil), heq]
        exact hun.symm
      · rw [if_pos heq, if_neg hnil, if_pos ⟨heq, hnil⟩]
    · rw [if_neg heq, if_neg (fun h => heq h.1)]
      rfl

/-- Each insertion still finds the room that was checked for, and each index entry is written
while its request is stored, or is in the hands of a removal that has yet to clean the index. -/
def keepsBounds (w : World) : Label → Prop
  | .resume c _ =>
    match w.calls.lookup c with
    | some (.inserting args) =>
      w.store.requestCount < MAX_PENDING_REQUESTS ∧
        w.pendingOf args.sessionId < MAX_PENDING_PER_SESSION
    | some (.pushing r) =>
      (w.owner r.id).isSome ∨ ∃ c' removed, w.unindexings c' = some removed ∧ r.id ∈ removed
    | _ => True
  | _ => True

/-- **The step lemma of the index.** -/
theorem IndexInv.step {l : Label} (hw : IndexInv w) (hg : keepsBounds w l)
    (h : step w l = some w') : IndexInv w' := by
  have hfree : ∀ c, ¬ (w.calls.lookup c).isSome → w.pushings c = none ∧ w.unindexings c = none := by
    intro c hc
    have hnone : w.calls.lookup c = none := by simpa using hc
    rw [World.pushings, World.unindexings, hnone]
    exact ⟨rfl, rfl⟩
  cases l with
  | createRequest c args =>
    simp only [PendingSystem.step] at h
    split at h
    · cases h
    · next hc =>
      cases h
      refine hw.setCall (hfree c hc).1 (hfree c hc).2 ?_ ?_ <;> split <;> rfl
  | cleanupExpired c clock =>
    simp only [PendingSystem.step] at h
    split at h
    · cases h
    · next hc =>
      cases h
      exact hw.setCall (hfree c hc).1 (hfree c hc).2 rfl rfl
  | cleanupOld c retentionSecs now =>
    simp only [PendingSystem.step] at h
    split at h
    · cases h
    · next hc =>
      cases h
      exact hw.removeOld retentionSecs now none (hfree c hc).1 (hfree c hc).2
  | grantRequest id token duration now =>
    cases h
    simp only [PendingRequestStore.grantRequest]
    split
    · exact hw.setStore rfl fun _ => rfl
    · split
      · exact hw.setStore rfl fun _ => rfl
      · split
        · exact hw.setStore rfl fun id' => owner_setStatus w id id' _
        · exact hw.setStore rfl fun id' => owner_setStatus w id id' _
  | denyRequest id reason =>
    cases h
    simp only [PendingRequestStore.denyRequest]
    split
    · exact hw.setStore rfl fun _ => rfl
    · split
      · exact hw.setStore rfl fun _ => rfl
      · exact hw.setStore rfl fun id' => owner_setStatus w id id' _
  | revokeRequest id =>
    cases h
    refine hw.setStore rfl fun id' => ?_
    rw [PendingRequestStore.revokeRequest, Table.lookup_modify]
    split
    · exact owner_revoked _ _
    · rfl
  | revokeAllGranted =>
    cases h
    refine hw.setStore rfl fun id' => ?_
    rw [PendingRequestStore.revokeAllGranted, Table.lookup_mapVals]
    exact owner_revoked _ _
  | resume c env =>
    obtain ⟨call, hcall, hres⟩ := Option.bind_eq_some_iff.mp h
    have hpush : w.pushings c = pushingOf (some call) := by rw [World.pushings, hcall]
    have hun : w.unindexings c = unindexingOf (some call) := by rw [World.unindexings, hcall]
    cases call with
    | collecting args =>
      cases hres
      exact hw.setCall hpush hun rfl rfl
    | rechecking args =>
      cases hres
      refine hw.setCall hpush hun ?_ ?_ <;> split <;> rfl
    | sessionChecking args =>
      cases hres
      refine hw.setCall hpush hun ?_ ?_ <;> split <;> rfl
    | marking ids next =>
      cases hres
      have hstore : IndexInv (w.setStore (w.store.markExpired ids)) := by
        refine hw.setStore rfl fun id => ?_
        have hidem : ∀ r : PendingCapabilityRequest,
            (r.withStatus .expired).withStatus .expired = r.withStatus .expired := fun _ => rfl
        rw [PendingRequestStore.markExpired, Table.lookup_modifyAll hidem]
        split
        · rw [Option.map_map]
          rfl
        · rfl
      exact hstore.setCall hpush hun (by cases next <;> rfl) (by cases next <;> rfl)
    | removing args =>
      cases hres
      exact hw.removeOld 0 env.now (some args) hpush hun
    | unindexing removed next =>
      cases hres
      refine hw.unindex hun (by simp) (fun sessionId => ?_) (fun id => ?_)
        (fun c' => ?_) (fun c' => ?_)
      · rw [World.setCall_store, World.setStore_store, PendingRequestStore.indexOf,
          PendingRequestStore.unindex, Table.lookup_mapVals, PendingRequestStore.indexOf]
        cases w.store.sessionRequests.lookup sessionId <;> rfl
      · simp only [World.owner, World.request, World.setCall_store, World.setStore_store]
        rfl
      · rw [setCall_pushings]
        split
        · next heq => rw [heq, hpush]; cases next <;> rfl
        · rfl
      · rw [setCall_unindexings]
        split
        · cases next <;> rfl
        · rfl
    | inserting args =>
      simp only [resumeCall] at hres
      split at hres
      · cases hres
      · next hfresh =>
        cases hres
        refine hw.insert hfresh (by simp) (fun sessionId => ?_) (fun id => ?_) (fun c' => ?_) hpush
          (fun c' => ?_)
        · rw [World.setCall_store]
          rfl
        · rw [World.owner, World.request, World.setCall_store, PendingRequestStore.insertRequest,
            Table.lookup_insert_eq]
          split <;> rfl
        · rw [setCall_pushings]
          rfl
        · rw [setCall_unindexings]
          split
          · next heq => rw [heq, hun]; rfl
          · rfl
    | pushing r =>
      cases hres
      simp only [keepsBounds, hcall] at hg
      refine hw.push hpush hg (by simp) (fun sessionId => ?_) (fun id => ?_)
        (fun c' => ?_) (fun c' => ?_)
      · rw [World.setCall_store, World.setStore_store, PendingRequestStore.indexOf,
          PendingRequestStore.pushIndex, Table.lookup_insert_eq]
        split
        · next heq => rw [heq, Option.getD_some]
        · rfl
      · simp only [World.owner, World.request, World.setCall_store, World.setStore_store]
        rfl
      · rw [setCall_pushings]
        rfl
      · rw [setCall_unindexings]
        split
        · next heq => rw [heq, hun]; rfl
        · rfl

/-! ## 5. Whole runs -/

/-- A new store is within its limits. -/
theorem withinLimits_initial (timeoutSecs : Nat) : WithinLimits (World.initial timeoutSecs) where
  total := Nat.zero_le _
  session := fun _ => Nat.zero_le _

/-- **The step lemma of the limits.** -/
theorem WithinLimits.step {l : Label} (hstored : StoredIssued w) (hw : WithinLimits w)
    (hg : keepsBounds w l) (h : PendingSystem.step w l = some w') : WithinLimits w' := by
  rcases step_counts hstored h with
    ⟨htotal, hsession⟩ | ⟨c, env, args, rfl, hcall, htotal, hsession⟩
  · exact ⟨Nat.le_trans htotal hw.total, fun sessionId =>
      Nat.le_trans (hsession sessionId) (hw.session sessionId)⟩
  · simp only [keepsBounds, hcall] at hg
    obtain ⟨hroom, hsessionRoom⟩ := hg
    refine ⟨by omega, fun sessionId => ?_⟩
    have hle := hsession sessionId
    have hold := hw.session sessionId
    split at hle
    · next heq =>
      rw [heq] at hle ⊢
      omega
    · omega

/-- **Limits and index over every interleaving.**  In a run of a new store in which each
insertion finds room and each index entry is written while its request is stored or still to be
cleaned up, both limits hold in every state, and the index is exact whenever no call is between
its two writes. -/
theorem capacity_of_keepsBounds (timeoutSecs : Nat) (ls : List Label) (w : World)
    (hg : Guarded step keepsBounds (World.initial timeoutSecs) ls)
    (hr : run step (World.initial timeoutSecs) ls = some w) :
    WithinLimits w ∧ (Settled w → IndexExact w) := by
  have hstep : ∀ s l t, (StoredIssued s ∧ WithinLimits s ∧ IndexInv s) → keepsBounds s l →
      step s l = some t → StoredIssued t ∧ WithinLimits t ∧ IndexInv t :=
    fun s l t hs hgl hst =>
      ⟨hs.1.step hst, hs.2.1.step hs.1 hgl hst, hs.2.2.step hgl hst⟩
  obtain ⟨-, hlimits, hindex⟩ := run_invariant hstep
    ⟨storedIssued_initial timeoutSecs, withinLimits_initial timeoutSecs,
      indexInv_initial timeoutSecs⟩ hg hr
  exact ⟨hlimits, hindex.exact⟩

section Examples

/-- A request that is denied and cleaned up before it is indexed. -/
def previewRequest : RequestArgs := ⟨"s1", ⟨"localhost://docs/a"⟩, .read, "preview"⟩

def envAt (secs : Nat) (id : String) : StepEnv :=
  ⟨fun _ => ⟨secs, 1⟩, ⟨secs, 1⟩, ⟨id, ⟨secs, 1⟩, ⟨secs, 2⟩⟩⟩

def storeR1 : List Label :=
  [.createRequest 0 previewRequest, .resume 0 (envAt 1000 "r1"), .resume 0 (envAt 1000 "r1"),
    .resume 0 (envAt 1000 "r1")]

/-- Before the creation writes its index entry, `r1` is denied, removed and dropped from the
index; then the entry is written. -/
def indexAfterRemoval : List Label :=
  storeR1 ++ [.denyRequest "r1" "no", .cleanupOld 1 0 ⟨1001, 3⟩, .resume 1 (envAt 1001 "r2"),
    .resume 0 (envAt 1001 "r2")]

/-- With no call in flight, none is between its writes. -/
theorem settled_of_calls_eq_nil {w : World} (h : w.calls.entries = []) : Settled w := by
  have hempty : w.calls = ∅ := AList.ext h
  intro c
  rw [World.pushings, World.unindexings, hempty]
  exact ⟨rfl, rfl⟩

/-- All calls have returned, and the index lists a request that does not exist. -/
theorem index_lists_removed_request :
    ∃ w, run step (World.initial 300) indexAfterRemoval = some w ∧ Settled w ∧
      ¬ (WithinLimits w ∧ IndexExact w) := by
  have hrun : (run step (World.initial 300) indexAfterRemoval).map
      (fun w => (w.calls.entries, w.store.indexOf "s1", w.owner "r1")) =
        some ([], ["r1"], none) := by decide
  obtain ⟨w, hw, hobs⟩ := Option.map_eq_some_iff.mp hrun
  simp only [Prod.mk.injEq] at hobs
  obtain ⟨hcalls, hlisted, hgone⟩ := hobs
  refine ⟨w, hw, settled_of_calls_eq_nil hcalls, fun h => ?_⟩
  have howner := (h.2.mem_iff "s1" "r1").mp (by rw [hlisted]; exact List.mem_singleton_self _)
  rw [hgone] at howner
  cases howner

theorem createR1_keeps_bounds :
    ∃ w, run step (World.initial 300) (storeR1 ++ [.resume 0 (envAt 1000 "r1")]) = some w ∧
      WithinLimits w ∧ IndexExact w := by
  have hguard : Guarded step keepsBounds (World.initial 300)
      (storeR1 ++ [.resume 0 (envAt 1000 "r1")]) :=
    Guarded.cons rfl trivial <| Guarded.cons rfl trivial <| Guarded.cons rfl trivial <|
      Guarded.cons rfl ⟨by decide, by decide⟩ <| Guarded.cons rfl (Or.inl rfl) trivial
  have hrun : (run step (World.initial 300) (storeR1 ++ [.resume 0 (envAt 1000 "r1")])).map
      (fun w => w.calls.entries) = some [] := by decide
  obtain ⟨w, hw, hcalls⟩ := Option.map_eq_some_iff.mp hrun
  obtain ⟨hlimits, hexact⟩ := capacity_of_keepsBounds 300 _ w hguard hw
  exact ⟨w, hw, hlimits, hexact (settled_of_calls_eq_nil hcalls)⟩

end Examples

end ElastosRuntime.PendingSystem
