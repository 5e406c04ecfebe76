/-
# Sessions and the virtual machines they belong to

`vm_sessions` holds one token for a VM, and `create_session` overwrites it.  A VM bound a second
time leaves its first session behind: no operation on the VM reaches it any more, and
invalidating it by its token takes the second session's index entry with it
(`rebound_session_survives`).

`Agree` is the agreement of the two maps.  Every operation but the creation of a bound session
keeps it, and that one keeps it exactly when its VM has no stored session (`agree_step_iff`), so
`agree_iff_bindsFreeVm` characterises the runs in which sessions end with their VM.
-/
import ElastosRuntime.Session.Registry
import ElastosRuntime.Lib.Transition

namespace ElastosRuntime.SessionRegistry

open Transition

/-! ## 1. The operations as steps -/

inductive Op where
  | setDefaultOwner (owner : String)
  | createSession (seed : SessionSeed) (sessionType : SessionType) (vmId : Option String)
  | validateToken (token : String)
  | touchSession (token : String) (now : SecureTimestamp)
  /-- `get_session_mut` with the only update it is used for. -/
  | setOwner (token owner : String)
  | invalidateSession (token : String)
  | invalidateVmSession (vmId : String)
  | cleanupStaleSessions (now : SecureTimestamp) (maxIdleSecs : Nat)
  | cleanupDeadVmSessions (liveVmIds : List String)

/-- The registry after an operation.  A new token is a fresh UUID. -/
def step (r : SessionRegistry) : Op → Option SessionRegistry
  | .setDefaultOwner owner => some (r.setDefaultOwner owner)
  | .createSession seed sessionType vmId =>
    if (r.sessions.lookup seed.token).isSome then none
    else some (r.createSession seed sessionType vmId).2
  | .validateToken _ => some r
  | .touchSession token now => some (r.touchSession token now)
  | .setOwner token owner =>
    some (r.getSessionMut token fun session => ((), session.setOwner owner)).2
  | .invalidateSession token => some (r.invalidateSession token).2
  | .invalidateVmSession vmId => some (r.invalidateVmSession vmId).2
  | .cleanupStaleSessions now maxIdleSecs => some (r.cleanupStaleSessions now maxIdleSecs).2
  | .cleanupDeadVmSessions liveVmIds => some (r.cleanupDeadVmSessions liveVmIds).2

/-! ## 2. The two maps agree -/

/-- **The agreement of the maps**: an index entry points to a stored session of its VM, and a
stored session of a VM is what the index has for it. -/
structure Agree (r : SessionRegistry) : Prop where
  stored : ∀ vmId token, r.vmSessions.lookup vmId = some token →
    ∃ session, r.sessions.lookup token = some session ∧ session.vmId = some vmId
  indexed : ∀ token session vmId, r.sessions.lookup token = some session →
    session.vmId = some vmId → r.vmSessions.lookup vmId = some token

theorem agree_new : Agree new where
  stored := fun _ _ h => by cases h
  indexed := fun _ _ _ h => by cases h

namespace Agree

variable {r r' : SessionRegistry}

/-- A VM the index does not have has no session. -/
theorem unbound (h : Agree r) {vmId : String} (hvm : r.vmSessions.lookup vmId = none)
    {token : String} {session : Session} (hs : r.sessions.lookup token = some session) :
    session.vmId ≠ some vmId := by
  intro hbound
  rw [h.indexed token session vmId hs hbound] at hvm
  cases hvm

/-- Updating sessions in place keeps the agreement, if they stay with their VM. -/
theorem update (h : Agree r) {token : String} {f : Session → Session}
    (hf : ∀ session, (f session).vmId = session.vmId) :
    Agree { r with sessions := Table.modify token f r.sessions } := by
  constructor
  · intro vmId token' hindex
    obtain ⟨session, hs, hvm⟩ := h.stored vmId token' hindex
    simp only [Table.lookup_modify, hs, Option.map_some]
    split
    · exact ⟨f session, rfl, (hf session).trans hvm⟩
    · exact ⟨session, rfl, hvm⟩
  · intro token' session vmId hs hvm
    simp only [Table.lookup_modify] at hs
    split at hs
    · obtain ⟨old, hold, rfl⟩ := Option.map_eq_some_iff.mp hs
      exact h.indexed token' old vmId hold ((hf old).symm.trans hvm)
    · exact h.indexed token' session vmId hs hvm

/-- **Dropping sessions** keeps the agreement, if the index forgets exactly their VMs. -/
theorem drop (h : Agree r) (dropped : String → Session → Prop)
    (hs : ∀ token session, r'.sessions.lookup token = some session ↔
      r.sessions.lookup token = some session ∧ ¬ dropped token session)
    (hv : ∀ vmId token, r'.vmSessions.lookup vmId = some token ↔
      r.vmSessions.lookup vmId = some token ∧ ∀ token' session,
        r.sessions.lookup token' = some session → dropped token' session →
          session.vmId ≠ some vmId) : Agree r' := by
  constructor
  · intro vmId token hindex
    obtain ⟨hold, hkept⟩ := (hv vmId token).mp hindex
    obtain ⟨session, hsession, hvm⟩ := h.stored vmId token hold
    have hsession' := (hs token session).mpr
      ⟨hsession, fun hd => hkept token session hsession hd hvm⟩
    exact ⟨session, hsession', hvm⟩
  · intro token session vmId hsession hvm
    obtain ⟨hold, hkept⟩ := (hs token session).mp hsession
    have hindex := h.indexed token session vmId hold hvm
    refine (hv vmId token).mpr ⟨hindex, fun token' session' hold' hd hvm' => ?_⟩
    -- The index has one token for the VM, so the dropped session would be this one.
    have heq := h.indexed token' session' vmId hold' hvm'
    rw [hindex, Option.some.injEq] at heq
    subst heq
    rw [hold, Option.some.injEq] at hold'
    subst hold'
    exact hkept hd

theorem invalidateSession (h : Agree r) (token : String) :
    Agree (r.invalidateSession token).2 := by
  cases hs : r.sessions.lookup token with
  | none =>
    simpa only [SessionRegistry.invalidateSession, hs] using h
  | some session =>
    refine h.drop (fun token' _ => token' = token) (fun token' session' => ?_)
      fun vmId token' => ?_
    · have herase : (r.invalidateSession token).2.sessions = r.sessions.erase token := by
        simp only [SessionRegistry.invalidateSession, hs]
        split <;> rfl
      rw [herase, Table.lookup_erase_eq]
      by_cases heq : token' = token
      · simp [heq]
      · simp [heq]
    · have hindex : (r.invalidateSession token).2.vmSessions.lookup vmId =
          if session.vmId = some vmId then none else r.vmSessions.lookup vmId := by
        simp only [SessionRegistry.invalidateSession, hs]
        cases hvm : session.vmId with
        | none => simp
        | some vmId' =>
          simp only [Option.some.injEq]
          rw [Table.lookup_erase_eq]
          simp only [eq_comm]
      rw [hindex]
      by_cases heq : session.vmId = some vmId
      · simp only [heq, if_true, reduceCtorEq, false_iff, not_and]
        exact fun _ hall => hall token session hs rfl heq
      · simp only [heq, if_false, iff_self_and]
        rintro - token' session' hs' rfl
        rw [hs, Option.some.injEq] at hs'
        exact hs' ▸ heq

theorem invalidateVmSession (h : Agree r) (vmId : String) :
    Agree (r.invalidateVmSession vmId).2 := by
  cases hindex : r.vmSessions.lookup vmId with
  | none =>
    simpa only [SessionRegistry.invalidateVmSession, hindex] using h
  | some token =>
    obtain ⟨session, hs, hvm⟩ := h.stored vmId token hindex
    refine h.drop (fun token' _ => token' = token) (fun token' session' => ?_)
      fun vmId' token' => ?_
    · simp only [SessionRegistry.invalidateVmSession, hindex, Table.lookup_erase_eq]
      by_cases heq : token' = token
      · simp [heq]
      · simp [heq]
    · rw [invalidateVmSession_vmSessions]
      by_cases heq : vmId' = vmId
      · simp only [heq, if_true, reduceCtorEq, false_iff, not_and]
        exact fun _ hall => hall token session hs rfl hvm
      · simp only [heq, if_false, iff_self_and]
        rintro - token' session' hs' rfl
        rw [hs, Option.some.injEq] at hs'
        rw [← hs', hvm, ne_eq, Option.some.injEq]
        exact fun hcontra => heq hcontra.symm

theorem cleanupStaleSessions (h : Agree r) (now : SecureTimestamp) (maxIdleSecs : Nat) :
    Agree (r.cleanupStaleSessions now maxIdleSecs).2 := by
  refine h.drop (fun _ session => isStale now maxIdleSecs session = true)
    (fun token session => ?_) fun vmId token => ?_
  · simp [SessionRegistry.cleanupStaleSessions, Table.lookup_retain, Option.filter_eq_some_iff]
  · simp only [SessionRegistry.cleanupStaleSessions, lookup_unindex, List.mem_filter, List.mem_map]
    refine and_congr_right fun _ => ⟨fun hall token' session hs hd => ?_, ?_⟩
    · exact hall session ⟨⟨⟨token', session⟩, Table.mem_entries_iff.mpr hs, rfl⟩, hd⟩
    · rintro hall session ⟨⟨⟨token', session'⟩, hmem, rfl⟩, hd⟩
      exact hall token' session' (Table.mem_entries_iff.mp hmem) hd

theorem invalidateVmSessions : ∀ (vmIds : List String) {r : SessionRegistry}, Agree r →
    Agree (r.invalidateVmSessions vmIds).2
  | [], _, h => h
  | vmId :: vmIds, _, h => (h.invalidateVmSession vmId).invalidateVmSessions vmIds

/-- **Creating a session** with a fresh token keeps the agreement exactly when it is bound to no
VM or to one without a stored session. -/
theorem createSession_iff (h : Agree r) {seed : SessionSeed} (sessionType : SessionType)
    (vmId : Option String) (hfresh : r.sessions.lookup seed.token = none) :
    Agree (r.createSession seed sessionType vmId).2 ↔
      ∀ token session, r.sessions.lookup token = some session → vmId ≠ none →
        session.vmId ≠ vmId := by
  have hne : ∀ token session, r.sessions.lookup token = some session → token ≠ seed.token := by
    rintro token session hs rfl
    rw [hfresh] at hs
    cases hs
  cases vmId with
  | none =>
    refine ⟨fun _ _ _ _ hnone => absurd rfl hnone, fun _ => ⟨?_, ?_⟩⟩
    · intro vmId token hindex
      obtain ⟨session, hs, hvm⟩ := h.stored vmId token hindex
      refine ⟨session, ?_, hvm⟩
      simp only [createSession, sessionFor_token, Table.lookup_insert_eq]
      rw [if_neg (hne token session hs), hs]
    · intro token session vmId hs hvm
      simp only [createSession, sessionFor_token, Table.lookup_insert_eq] at hs
      split at hs
      · rw [← Option.some.inj hs, sessionFor_vmId] at hvm
        cases hvm
      · exact h.indexed token session vmId hs hvm
  | some vmId =>
    constructor
    · intro hafter token session hs _ hvm
      have hindex := hafter.indexed token session vmId (by
        simp only [createSession, sessionFor_token, Table.lookup_insert_eq]
        rw [if_neg (hne token session hs), hs]) hvm
      simp only [createSession, sessionFor_token, Table.lookup_insert_eq, if_true,
        Option.some.injEq] at hindex
      exact hne token session hs hindex.symm
    · intro hfree
      constructor
      · intro vmId' token hindex
        simp only [createSession, sessionFor_token, Table.lookup_insert_eq] at hindex ⊢
        split at hindex
        · next heq =>
          cases hindex
          exact ⟨_, if_pos rfl, by rw [sessionFor_vmId, heq]⟩
        · obtain ⟨session, hs, hvm⟩ := h.stored vmId' token hindex
          rw [if_neg (hne token session hs)]
          exact ⟨session, hs, hvm⟩
      · intro token session vmId' hs hvm
        simp only [createSession, sessionFor_token, Table.lookup_insert_eq] at hs ⊢
        split at hs
        · next heq =>
          rw [← Option.some.inj hs, sessionFor_vmId, Option.some.injEq] at hvm
          rw [if_pos hvm.symm, heq]
        · have hdiff : vmId' ≠ vmId := by
            rintro rfl
            exact hfree token session hs (by simp) hvm
          rw [if_neg hdiff]
          exact h.indexed token session vmId' hs hvm

end Agree

/-! ## 3. Whole runs -/

/-- A session is bound to a VM only while no stored session is. -/
def bindsFreeVm (r : SessionRegistry) : Op → Prop
  | .createSession _ _ (some vmId) =>
    ∀ token session, r.sessions.lookup token = some session → session.vmId ≠ some vmId
  | _ => True

/-- **One step**: the agreement survives an operation exactly when it binds a free VM. -/
theorem agree_step_iff (r : SessionRegistry) (op : Op) (r' : SessionRegistry) (h : Agree r)
    (hstep : step r op = some r') : Agree r' ↔ bindsFreeVm r op := by
  cases op with
  | createSession seed sessionType vmId =>
    simp only [step] at hstep
    split at hstep
    · cases hstep
    · next hfresh =>
      cases hstep
      rw [h.createSession_iff sessionType vmId (by simpa using hfresh)]
      cases vmId with
      | none => simp [bindsFreeVm]
      | some vmId => simp [bindsFreeVm]
  | setDefaultOwner owner =>
    cases hstep
    exact iff_of_true ⟨h.stored, h.indexed⟩ trivial
  | validateToken token =>
    cases hstep
    exact iff_of_true h trivial
  | touchSession token now =>
    cases hstep
    exact iff_of_true (h.update fun _ => rfl) trivial
  | setOwner token owner =>
    cases hstep
    rw [getSessionMut_update]
    exact iff_of_true (h.update fun _ => rfl) trivial
  | invalidateSession token =>
    cases hstep
    exact iff_of_true (h.invalidateSession token) trivial
  | invalidateVmSession vmId =>
    cases hstep
    exact iff_of_true (h.invalidateVmSession vmId) trivial
  | cleanupStaleSessions now maxIdleSecs =>
    cases hstep
    exact iff_of_true (h.cleanupStaleSessions now maxIdleSecs) trivial
  | cleanupDeadVmSessions liveVmIds =>
    cases hstep
    exact iff_of_true (h.invalidateVmSessions _) trivial

/-- The operations that end the sessions of a VM. -/
def EndsVm (op : Op) (vmId : String) : Prop :=
  match op with
  | .invalidateVmSession vmId' => vmId' = vmId
  | .cleanupDeadVmSessions liveVmIds => vmId ∉ liveVmIds
  | _ => False

/-- From an agreement, an operation that ends a VM leaves it no session. -/
theorem no_session_after {r r' : SessionRegistry} {op : Op} {vmId : String} (h : Agree r)
    (hstep : step r op = some r') (hends : EndsVm op vmId) {token : String} {session : Session}
    (hs : r'.validateToken token = some session) : session.vmId ≠ some vmId := by
  cases op with
  | invalidateVmSession vmId' =>
    cases hends
    cases hstep
    refine (h.invalidateVmSession vmId).unbound ?_ hs
    rw [invalidateVmSession_vmSessions, if_pos rfl]
  | cleanupDeadVmSessions liveVmIds =>
    cases hstep
    exact (h.invalidateVmSessions _).unbound
      (cleanupDeadVmSessions_vmSessions r liveVmIds hends) hs
  | _ => exact hends.elim

/-- **Sessions end with their VM** in exactly the runs that never bind a VM which still has a
session: the maps agree in every state of a run just when the run is one of these, and in such a
run no session of a VM validates after the VM was ended. -/
theorem agree_iff_bindsFreeVm (ops : List Op) (r : SessionRegistry)
    (hr : run step new ops = some r) :
    (Always step Agree new ops ↔ Guarded step bindsFreeVm new ops) ∧
      (Guarded step bindsFreeVm new ops → ∀ before op after u v,
        ops = before ++ op :: after → run step new before = some u → step u op = some v →
          ∀ vmId, EndsVm op vmId → ∀ token session,
            v.validateToken token = some session → session.vmId ≠ some vmId) := by
  refine ⟨always_iff_guarded agree_step_iff agree_new hr, ?_⟩
  rintro hg before op after u v rfl hu hv vmId hends token session hs
  have hagree : Agree u := run_invariant
    (fun r op r' h hgl hstep => (agree_step_iff r op r' h hstep).mpr hgl) agree_new
    (hg.of_append hu).1 hu
  exact no_session_after hagree hv hends hs

section Examples

def seedOf (token : String) : SessionSeed := ⟨"id-" ++ token, token, ⟨1000, 1⟩⟩

def bindTwice : List Op :=
  [.createSession (seedOf "t1") .capsule (some "vm-1"),
    .createSession (seedOf "t2") .capsule (some "vm-1"), .invalidateVmSession "vm-1"]

def vmOf (token : String) (ops : List Op) : Option (Option String) :=
  (run step new ops).bind fun r => (r.validateToken token).map (·.vmId)

/-- The first session of the VM still validates after the VM was ended, and after a cleanup of
every VM as well. -/
theorem rebound_session_survives :
    vmOf "t1" bindTwice = some (some "vm-1") ∧
      vmOf "t1" (bindTwice ++ [.cleanupDeadVmSessions []]) = some (some "vm-1") := by
  decide

def bindEach : List Op :=
  [.createSession (seedOf "t1") .capsule (some "vm-1"),
    .createSession (seedOf "t2") .capsule (some "vm-2")]

theorem ended_vm_has_no_session :
    ∃ r, run step new (bindEach ++ [.cleanupDeadVmSessions ["vm-2"]]) = some r ∧
      ∀ token session, r.validateToken token = some session → session.vmId ≠ some "vm-1" := by
  have hguard : Guarded step bindsFreeVm new (bindEach ++ [.cleanupDeadVmSessions ["vm-2"]]) := by
    refine Guarded.cons rfl (fun _ _ h => nomatch h) <| Guarded.cons rfl ?_ <|
      Guarded.cons rfl trivial trivial
    intro token session hs
    simp only [createSession, Table.lookup_insert_eq] at hs
    split at hs
    · cases hs
      decide
    · cases hs
  exact ⟨_, rfl, (agree_iff_bindsFreeVm _ _ rfl).2 hguard bindEach _ [] _ _ rfl rfl rfl "vm-1"
    (show "vm-1" ∉ ["vm-2"] by decide)⟩

end Examples

end ElastosRuntime.SessionRegistry
