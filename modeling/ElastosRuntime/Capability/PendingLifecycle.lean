/-
# The life cycle of a pending request

A request starts out pending and is decided once: granted, denied or expired; a granted one may
later be revoked, which denies it.  `Moves` is that life cycle and `step_change` shows that every
critical section of every operation keeps to it, with one exception.

`cleanup_expired` collects the ids of expired pending requests under the read lock and marks
them under a later write lock, without looking at their status again.  A decision that slips in
between is overwritten (`cleanup_overwrites_denial`).  In runs in which no such decision slips in
(`marksUndecided`) the life cycle holds, and each request is decided at most once.
-/
import ElastosRuntime.Capability.PendingSystem
import Mathlib.Logic.Relation

namespace ElastosRuntime.PendingSystem

open Transition

/-! ## 1. The life cycle -/

/-- The status changes a request may go through. -/
inductive Moves : RequestStatus → RequestStatus → Prop where
  | grant (token : CapabilityToken) (duration : GrantDuration) :
      Moves .pending (.granted token duration)
  | deny (reason : String) : Moves .pending (.denied reason)
  | expire : Moves .pending .expired
  | revoke (token : CapabilityToken) (duration : GrantDuration) (reason : String) :
      Moves (.granted token duration) (.denied reason)

/-- Any number of status changes, none included. -/
abbrev LifeCycle : RequestStatus → RequestStatus → Prop := Relation.ReflTransGen Moves

variable {reason id : String}

/-- A denial is final. -/
theorem LifeCycle.of_denied {t : RequestStatus} (h : LifeCycle (.denied reason) t) :
    t = .denied reason := by
  rcases Relation.ReflTransGen.cases_head h with rfl | ⟨u, hmove, -⟩
  · rfl
  · cases hmove

/-- A granted request stays granted or is denied. -/
theorem LifeCycle.of_granted {token : CapabilityToken} {duration : GrantDuration}
    {t : RequestStatus} (h : LifeCycle (.granted token duration) t) :
    t = .granted token duration ∨ ∃ reason, t = .denied reason := by
  rcases Relation.ReflTransGen.cases_head h with rfl | ⟨u, hmove, hrest⟩
  · exact Or.inl rfl
  · cases hmove with
    | revoke _ _ reason => exact Or.inr ⟨reason, LifeCycle.of_denied hrest⟩

/-- A decision by the user is never turned into an expiry. -/
theorem LifeCycle.decision_ne_expired {s t : RequestStatus} (h : LifeCycle s t)
    (hs : (∃ token duration, s = .granted token duration) ∨ ∃ reason, s = .denied reason) :
    t ≠ .expired := by
  rintro rfl
  rcases hs with ⟨token, duration, rfl⟩ | ⟨reason, rfl⟩
  · rcases h.of_granted with heq | ⟨reason, heq⟩ <;> cases heq
  · cases h.of_denied

/-! ## 2. What one step does to the status of a request -/

/-- `cleanup_expired` marks no request that was decided since it was collected. -/
def marksUndecided (w : World) : Label → Prop
  | .resume c _ => ∀ ids next, w.calls.lookup c = some (.marking ids next) →
      ∀ id ∈ ids, ∀ r, w.request id = some r → r.status = .pending ∨ r.status = .expired
  | _ => True

/-- How one state follows another: identifiers stay issued, a request that is gone stays gone,
and one that is still there has gone through its life cycle. -/
structure Follows (w w' : World) : Prop where
  issued : w.issued ⊆ w'.issued
  gone : ∀ id ∈ w.issued, w.request id = none → w'.request id = none
  status : ∀ id r r', w.request id = some r → w'.request id = some r' →
    LifeCycle r.status r'.status

theorem Follows.refl (w : World) : Follows w w where
  issued := Finset.Subset.refl _
  gone := fun _ _ h => h
  status := fun id r r' hr hr' => by
    rw [hr, Option.some.injEq] at hr'
    rw [hr']

variable {w w' : World}

theorem Follows.trans {u v : World} (hw : StoredIssued w) (hwu : Follows w u) (huv : Follows u v) :
    Follows w v where
  issued := hwu.issued.trans huv.issued
  gone := fun id hid h => huv.gone id (hwu.issued hid) (hwu.gone id hid h)
  status := fun id r r' hr hr' => by
    cases hu : u.request id with
    | none =>
      have hid : id ∈ w.issued := hw id (by rw [hr]; rfl)
      rw [huv.gone id (hwu.issued hid) hu] at hr'
      cases hr'
    | some ru => exact (hwu.status id r ru hr hu).trans (huv.status id ru r' hu hr')

/-- **The step lemma of the life cycle.** -/
theorem follows_step {l : Label} (hw : StoredIssued w) (hg : marksUndecided w l)
    (h : step w l = some w') : Follows w w' := by
  refine ⟨step_issued h, fun id hid hnone => ?_, fun id r r' hr hr' => ?_⟩
  · have hc := step_change h id
    rw [hnone] at hc
    generalize w'.request id = o' at hc ⊢
    cases hc with
    | same => rfl
    | created _ r hstatus hid' hfresh hissued => exact absurd hid hfresh
  · have hc := step_change h id
    have hid : id ∈ w.issued := hw id (by rw [hr]; rfl)
    rw [hr, hr'] at hc
    cases hc with
    | same => exact Relation.ReflTransGen.refl
    | created _ _ hstatus hid' hfresh hissued => exact absurd hid hfresh
    | granted _ token duration hstatus =>
      rw [hstatus]
      exact Relation.ReflTransGen.single (.grant token duration)
    | denied _ reason hstatus =>
      rw [hstatus]
      exact Relation.ReflTransGen.single (.deny reason)
    | expired _ hstatus =>
      rw [hstatus]
      exact Relation.ReflTransGen.single .expire
    | revoked _ reason token duration hstatus =>
      rw [hstatus]
      exact Relation.ReflTransGen.single (.revoke token duration reason)
    | marked _ c env ids next hlabel hcall hmem =>
      subst hlabel
      rcases hg ids next hcall id hmem r hr with hstatus | hstatus
      · rw [hstatus]
        exact Relation.ReflTransGen.single .expire
      · rw [hstatus]
        exact Relation.ReflTransGen.refl

/-! ## 3. A request is decided once -/

/-- Whether a report is a successful decision on a request. -/
def decides (id : String) : Report → Bool
  | .granted id' => decide (id' = id)
  | .denied id' => decide (id' = id)
  | .created _ => false

/-- The decisions a request is still open for: one before it is stored and while it is pending,
none afterwards. -/
def openDecisions (id : String) (w : World) : Nat :=
  match w.request id with
  | some r => if r.statusPending then 1 else 0
  | none => if id ∈ w.issued then 0 else 1

variable {r : PendingCapabilityRequest}

theorem openDecisions_eq_one (hr : w.request id = some r) (hstatus : r.status = .pending) :
    openDecisions id w = 1 := by
  rw [openDecisions, hr]
  dsimp only
  rw [if_pos (PendingCapabilityRequest.statusPending_iff.mpr hstatus)]

theorem openDecisions_eq_zero (hr : w.request id = some r) (hstatus : r.status ≠ .pending) :
    openDecisions id w = 0 := by
  rw [openDecisions, hr]
  dsimp only
  rw [if_neg fun h => hstatus (PendingCapabilityRequest.statusPending_iff.mp h)]

theorem openDecisions_le_one (w : World) (id : String) : openDecisions id w ≤ 1 := by
  unfold openDecisions
  split <;> split <;> omega

/-- No step opens a request for another decision. -/
theorem openDecisions_step_le {l : Label} (hw : StoredIssued w) (h : step w l = some w')
    (id : String) : openDecisions id w' ≤ openDecisions id w := by
  have hc := step_change h id
  generalize ho : w.request id = o at hc
  generalize ho' : w'.request id = o' at hc
  cases hc with
  | same =>
    cases o with
    | some r =>
      rw [openDecisions, openDecisions, ho, ho']
    | none =>
      simp only [openDecisions, ho, ho']
      have hsub := step_issued h
      split
      · exact Nat.zero_le _
      · next hnot => rw [if_neg fun hid => hnot (hsub hid)]
  | created _ r hstatus hid hfresh hissued =>
    cases o with
    | some r₀ => exact absurd (hw id (by rw [ho]; rfl)) hfresh
    | none =>
      have hone : openDecisions id w = 1 := by simp [openDecisions, ho, hfresh]
      rw [hone]
      exact openDecisions_le_one w' id
  | removed r hstatus hremoval =>
    have hid : id ∈ w'.issued := step_issued h (hw id (by rw [ho]; rfl))
    simp [openDecisions, ho', hid]
  | granted r token duration hstatus =>
    rw [openDecisions_eq_zero ho' (by simp)]
    exact Nat.zero_le _
  | denied r reason hstatus =>
    rw [openDecisions_eq_zero ho' (by simp)]
    exact Nat.zero_le _
  | expired r hstatus =>
    rw [openDecisions_eq_zero ho' (by simp)]
    exact Nat.zero_le _
  | revoked r reason token duration hstatus =>
    rw [openDecisions_eq_zero ho' (by simp)]
    exact Nat.zero_le _
  | marked r c env ids next hlabel hcall hmem =>
    rw [openDecisions_eq_zero ho' (by simp)]
    exact Nat.zero_le _

variable {store : PendingRequestStore}

/-- A grant that succeeds finds the request pending and leaves it granted. -/
theorem grantRequest_ok {token : CapabilityToken} {duration : GrantDuration} {now : SecureTimestamp}
    (h : (store.grantRequest id token duration now).1 = .ok ()) :
    ∃ r, store.requests.lookup id = some r ∧ r.status = .pending ∧
      (store.grantRequest id token duration now).2.requests.lookup id =
        some (r.withStatus (.granted token duration)) := by
  unfold PendingRequestStore.grantRequest at h ⊢
  cases hr : store.requests.lookup id with
  | none => rw [hr] at h; cases h
  | some r =>
    rw [hr] at h
    dsimp only at h ⊢
    cases hp : r.statusPending with
    | false => rw [hp] at h; cases h
    | true =>
      cases he : r.isExpired now with
      | true => rw [hp, he] at h; cases h
      | false =>
        refine ⟨r, rfl, PendingCapabilityRequest.statusPending_iff.mp hp, ?_⟩
        simp [lookup_setStatus, hr]

/-- A denial that succeeds finds the request pending and leaves it denied. -/
theorem denyRequest_ok (h : (store.denyRequest id reason).1 = .ok ()) :
    ∃ r, store.requests.lookup id = some r ∧ r.status = .pending ∧
      (store.denyRequest id reason).2.requests.lookup id =
        some (r.withStatus (.denied reason)) := by
  unfold PendingRequestStore.denyRequest at h ⊢
  cases hr : store.requests.lookup id with
  | none => rw [hr] at h; cases h
  | some r =>
    rw [hr] at h
    dsimp only at h ⊢
    cases hp : r.statusPending with
    | false => rw [hp] at h; cases h
    | true =>
      refine ⟨r, rfl, PendingCapabilityRequest.statusPending_iff.mp hp, ?_⟩
      simp [lookup_setStatus, hr]

/-- **A successful decision closes the request**: a step pays for the decision it reports. -/
theorem decides_step {l : Label} (hw : StoredIssued w) (h : step w l = some w') (id : String) :
    (reports w l).countP (decides id) + openDecisions id w' ≤ openDecisions id w := by
  have hle := openDecisions_step_le hw h id
  cases l with
  | grantRequest id' token duration now =>
    cases hres : (w.store.grantRequest id' token duration now).1 with
    | error e => simpa [reports, hres] using hle
    | ok u =>
      by_cases heq : id' = id
      · subst heq
        obtain ⟨r, hr, hstatus, hafter⟩ := grantRequest_ok hres
        cases h
        have hopen : openDecisions id' w = 1 := openDecisions_eq_one hr hstatus
        have hclosed : openDecisions id' (w.setStore
            (w.store.grantRequest id' token duration now).2) = 0 :=
          openDecisions_eq_zero hafter (by simp)
        rw [hopen, hclosed]
        simp [reports, hres, decides]
      · simpa [reports, hres, decides, heq] using hle
  | denyRequest id' reason =>
    cases hres : (w.store.denyRequest id' reason).1 with
    | error e => simpa [reports, hres] using hle
    | ok u =>
      by_cases heq : id' = id
      · subst heq
        obtain ⟨r, hr, hstatus, hafter⟩ := denyRequest_ok hres
        cases h
        have hopen : openDecisions id' w = 1 := openDecisions_eq_one hr hstatus
        have hclosed : openDecisions id' (w.setStore (w.store.denyRequest id' reason).2) = 0 :=
          openDecisions_eq_zero hafter (by simp)
        rw [hopen, hclosed]
        simp [reports, hres, decides]
      · simpa [reports, hres, decides, heq] using hle
  | resume c env =>
    have hnone : (reports w (.resume c env)).countP (decides id) = 0 := by
      rw [List.countP_eq_zero]
      intro e he
      simp only [reports] at he
      split at he
      · split at he <;> simp at he
        subst he
        simp [decides]
      · split at he <;> simp at he
        subst he
        simp [decides]
      · simp at he
        subst he
        simp [decides]
      · cases he
    omega
  | createRequest c args => simpa [reports] using hle
  | cleanupExpired c clock => simpa [reports] using hle
  | cleanupOld c retentionSecs now => simpa [reports] using hle
  | revokeRequest id' => simpa [reports] using hle
  | revokeAllGranted => simpa [reports] using hle

/-! ## 4. Whole runs -/

/-- **The life cycle over every interleaving.**  In a run of a new store in which no cleanup
marks a request decided in the meantime, every request that is stored at two moments has only
gone through its life cycle between them, so a decision is never overwritten by expiry, and every
request has at most one decision that reported success. -/
theorem lifecycle_of_marksUndecided (timeoutSecs : Nat) (ls ks : List Label) (u v : World)
    (hg : Guarded step marksUndecided (World.initial timeoutSecs) (ls ++ ks))
    (hu : run step (World.initial timeoutSecs) ls = some u) (hv : run step u ks = some v) :
    (∀ id r r', u.request id = some r → v.request id = some r' →
        LifeCycle r.status r'.status) ∧
      (∀ id r r', u.request id = some r → v.request id = some r' →
        ((∃ token duration, r.status = .granted token duration) ∨
          ∃ reason, r.status = .denied reason) → r'.status ≠ .expired) ∧
      ∀ id,
        (trace step reports (World.initial timeoutSecs) (ls ++ ks)).countP (decides id) ≤ 1 := by
  obtain ⟨hgls, hgks⟩ := hg.of_append hu
  have hinit := storedIssued_initial timeoutSecs
  have hustored : StoredIssued u :=
    run_invariant (fun s l t hs _ hst => hs.step hst) hinit hgls hu
  obtain ⟨-, hfollows⟩ := run_relation (fun s _ => Follows.refl s)
    (fun s t u hs hst htu => Follows.trans hs hst htu)
    (fun s l t hs hgl hst => ⟨hs.step hst, follows_step hs hgl hst⟩) hustored hgks hv
  refine ⟨hfollows.status, fun id r r' hr hr' hdec =>
    (hfollows.status id r r' hr hr').decision_ne_expired hdec, fun id => ?_⟩
  have hcount := trace_countP_le (fun s l t hs _ hst => ⟨StoredIssued.step hs hst,
    decides_step hs hst id⟩) hinit hg
  exact Nat.le_trans hcount (openDecisions_le_one _ id)

section Examples

/-- A request made at second 1000, and a reading of the clock after it has expired. -/
def readRequest : RequestArgs := ⟨"s1", ⟨"localhost://docs/a"⟩, .read, "preview"⟩

def atCreation : StepEnv := ⟨fun _ => ⟨1000, 1⟩, ⟨1000, 1⟩, ⟨"r1", ⟨1000, 1⟩, ⟨1000, 2⟩⟩⟩

def afterExpiry : StepEnv := ⟨fun _ => ⟨2000, 3⟩, ⟨2000, 3⟩, ⟨"r2", ⟨2000, 3⟩, ⟨2000, 4⟩⟩⟩

def createR1 : List Label :=
  [.createRequest 0 readRequest, .resume 0 atCreation, .resume 0 atCreation,
    .resume 0 atCreation, .resume 0 atCreation]

/-- A cleanup has collected `r1` as expired when the user denies it. -/
def denyDuringCleanup : List Label :=
  createR1 ++ [.cleanupExpired 1 afterExpiry.clock, .denyRequest "r1" "no"]

/-- The status of `r1` after a run of a new store. -/
def statusOfR1 (ls : List Label) : Option RequestStatus :=
  ((run step (World.initial 300) ls).bind fun w => w.request "r1").map (·.status)

/-- The cleanup goes on and turns the user's denial into an expiry. -/
theorem cleanup_overwrites_denial :
    statusOfR1 denyDuringCleanup = some (.denied "no") ∧
      statusOfR1 (denyDuringCleanup ++ [.resume 1 afterExpiry]) = some .expired ∧
      ¬ LifeCycle (.denied "no") .expired := by
  refine ⟨by decide, by decide, fun h => ?_⟩
  cases LifeCycle.of_denied h

theorem denied_once :
    (trace step reports (World.initial 300)
      (createR1 ++ [.denyRequest "r1" "no", .denyRequest "r1" "no"])).countP
        (decides "r1") ≤ 1 := by
  have hguard : Guarded step marksUndecided (World.initial 300)
      (createR1 ++ [.denyRequest "r1" "no", .denyRequest "r1" "no"]) :=
    Guarded.cons rfl trivial <| Guarded.cons rfl nofun <| Guarded.cons rfl nofun <|
      Guarded.cons rfl nofun <| Guarded.cons rfl nofun <| Guarded.cons rfl trivial <|
      Guarded.cons rfl trivial trivial
  exact (lifecycle_of_marksUndecided 300 createR1 _ _ _ hguard rfl rfl).2.2 "r1"

end Examples

end ElastosRuntime.PendingSystem
