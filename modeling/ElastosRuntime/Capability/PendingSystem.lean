/-
# Concurrent calls on the pending request store

Any number of calls are in flight at once, and each lock acquisition of each call is one step of
the system.  A call that needs several is a `PendingCall`: what it has collected so far and what
it does next.  `create_request` runs `cleanup_expired` and `cleanup_old` inside itself when the
store is full, so those carry the arguments of the creation to go on with, if there is one.

The environment chooses the order of the steps, the clock readings and the identifiers of new
requests.  An identifier is a random UUID, so a step that would insert one that was issued
before is not enabled (`World.issued` remembers them).

Section 3 says once what a step can do to a stored request (`Change`); the life cycle and the
capacity results are read off from there.
-/
import ElastosRuntime.Capability.Pending
import ElastosRuntime.Lib.Transition
import Mathlib.Data.Finset.Basic

namespace ElastosRuntime.PendingSystem

open Transition

/-! ## 1. Calls in flight -/

abbrev CallId := Nat

/-- Where a call stands between two of its critical sections. -/
inductive PendingCall where
  /-- `create_request` found the store full and is about to look for expired requests. -/
  | collecting (args : RequestArgs)
  /-- `cleanup_expired` has collected the expired ids and is about to mark them. -/
  | marking (ids : List String) (next : Option RequestArgs)
  /-- `create_request` is about to remove old requests. -/
  | removing (args : RequestArgs)
  /-- `cleanup_old` has removed requests and is about to clean the index up. -/
  | unindexing (removed : List String) (next : Option RequestArgs)
  | rechecking (args : RequestArgs)
  | sessionChecking (args : RequestArgs)
  | inserting (args : RequestArgs)
  /-- `create_request` has stored the request and is about to add it to the index. -/
  | pushing (r : PendingCapabilityRequest)
deriving DecidableEq

/-- The store, the identifiers issued so far and the calls in flight. -/
structure World where
  store : PendingRequestStore
  issued : Finset String
  calls : Table CallId PendingCall

/-- What the environment supplies to the next critical section of a call. -/
structure StepEnv where
  clock : String → SecureTimestamp
  now : SecureTimestamp
  stamp : RequestStamp

/-- One step: a call begins with its first critical section, goes on with its next one, or has
only one. -/
inductive Label where
  | createRequest (c : CallId) (args : RequestArgs)
  | cleanupExpired (c : CallId) (clock : String → SecureTimestamp)
  | cleanupOld (c : CallId) (retentionSecs : Nat) (now : SecureTimestamp)
  | resume (c : CallId) (env : StepEnv)
  | grantRequest (id : String) (token : CapabilityToken) (duration : GrantDuration)
      (now : SecureTimestamp)
  | denyRequest (id reason : String)
  | revokeRequest (id : String)
  | revokeAllGranted

namespace World

/-- Put a call at a phase, or let it return. -/
def setCall (w : World) (c : CallId) : Option PendingCall → World
  | some call => { w with calls := w.calls.insert c call }
  | none => { w with calls := w.calls.erase c }

def setStore (w : World) (store : PendingRequestStore) : World := { w with store }

@[simp] theorem setCall_store (w : World) (c : CallId) (call : Option PendingCall) :
    (w.setCall c call).store = w.store := by
  cases call <;> rfl

@[simp] theorem setCall_issued (w : World) (c : CallId) (call : Option PendingCall) :
    (w.setCall c call).issued = w.issued := by
  cases call <;> rfl

/-- A step of a call changes that call only. -/
theorem setCall_lookup (w : World) (c c' : CallId) (call : Option PendingCall) :
    (w.setCall c call).calls.lookup c' = if c' = c then call else w.calls.lookup c' := by
  cases call with
  | some call => exact Table.lookup_insert_eq w.calls c c' call
  | none => exact Table.lookup_erase_eq w.calls c c'

@[simp] theorem setStore_issued (w : World) (store : PendingRequestStore) :
    (w.setStore store).issued = w.issued := rfl

@[simp] theorem setStore_store (w : World) (store : PendingRequestStore) :
    (w.setStore store).store = store := rfl

end World

/-! ## 2. The steps -/

/-- Where `cleanup_old` goes after its removal: the index is only locked if something went. -/
def afterRemoval (removed : List String) (next : Option RequestArgs) : Option PendingCall :=
  if removed.isEmpty then next.map .rechecking else some (.unindexing removed next)

/-- The next critical section of a call. -/
def resumeCall (w : World) (c : CallId) (env : StepEnv) : PendingCall → Option World
  | .collecting args => some (w.setCall c (some (.marking (w.store.expiredIds env.clock) args)))
  | .marking ids next =>
    some ((w.setStore (w.store.markExpired ids)).setCall c (next.map .removing))
  | .removing args =>
    some ((w.setStore (w.store.removeOld 0 env.now)).setCall c
      (afterRemoval (w.store.oldIds 0 env.now) args))
  | .unindexing removed next =>
    some ((w.setStore (w.store.unindex removed)).setCall c (next.map .rechecking))
  | .rechecking args =>
    some (w.setCall c
      (if MAX_PENDING_REQUESTS ≤ w.store.requestCount then none
        else some (.sessionChecking args)))
  | .sessionChecking args =>
    some (w.setCall c
      (if MAX_PENDING_PER_SESSION ≤ w.store.sessionPendingCount args.sessionId then none
        else some (.inserting args)))
  | .inserting args =>
    let r := PendingCapabilityRequest.newWithReason env.stamp args w.store.timeoutSecs
    if r.id ∈ w.issued then none
    else some (({ w with
        store := w.store.insertRequest r
        issued := insert r.id w.issued } : World).setCall c
      (some (.pushing r)))
  | .pushing r =>
    some ((w.setStore (w.store.pushIndex r.sessionId r.id)).setCall c none)

/-- The step function of the system. -/
def step (w : World) : Label → Option World
  | .createRequest c args =>
    if (w.calls.lookup c).isSome then none
    else some (w.setCall c (some
      (if MAX_PENDING_REQUESTS ≤ w.store.requestCount then .collecting args
        else .rechecking args)))
  | .cleanupExpired c clock =>
    if (w.calls.lookup c).isSome then none
    else some (w.setCall c (some (.marking (w.store.expiredIds clock) none)))
  | .cleanupOld c retentionSecs now =>
    if (w.calls.lookup c).isSome then none
    else some ((w.setStore (w.store.removeOld retentionSecs now)).setCall c
      (afterRemoval (w.store.oldIds retentionSecs now) none))
  | .resume c env => (w.calls.lookup c).bind (resumeCall w c env)
  | .grantRequest id token duration now =>
    some (w.setStore (w.store.grantRequest id token duration now).2)
  | .denyRequest id reason => some (w.setStore (w.store.denyRequest id reason).2)
  | .revokeRequest id => some (w.setStore (w.store.revokeRequest id))
  | .revokeAllGranted => some (w.setStore w.store.revokeAllGranted)

/-- A new store that no call has reached yet. -/
def World.initial (timeoutSecs : Nat) : World :=
  ⟨PendingRequestStore.withTimeout timeoutSecs, ∅, ∅⟩

/-- What a call reports to its caller: a decision that succeeded, or the request a creation
returns, stored or refused. -/
inductive Report where
  | granted (id : String)
  | denied (id : String)
  | created (r : PendingCapabilityRequest)
deriving DecidableEq

/-- The denied request a creation returns when it is over a limit; it is not stored. -/
def refused (stamp : RequestStamp) (args : RequestArgs) (timeoutSecs : Nat) (reason : String) :
    PendingCapabilityRequest :=
  (PendingCapabilityRequest.newWithReason stamp args timeoutSecs).withStatus (.denied reason)

/-- What a step reports. -/
def reports (w : World) : Label → List Report
  | .grantRequest id token duration now =>
    match (w.store.grantRequest id token duration now).1 with
    | .ok () => [.granted id]
    | .error _ => []
  | .denyRequest id reason =>
    match (w.store.denyRequest id reason).1 with
    | .ok () => [.denied id]
    | .error _ => []
  | .resume c env =>
    match w.calls.lookup c with
    | some (.rechecking args) =>
      if MAX_PENDING_REQUESTS ≤ w.store.requestCount then
        [.created (refused env.stamp args w.store.timeoutSecs "Too many pending requests")]
      else []
    | some (.sessionChecking args) =>
      if MAX_PENDING_PER_SESSION ≤ w.store.sessionPendingCount args.sessionId then
        [.created (refused env.stamp args w.store.timeoutSecs
          "Too many pending requests for this session")]
      else []
    | some (.pushing r) => [.created r]
    | _ => []
  | _ => []

/-! ## 3. What a step can do to a request -/

/-- The stored request of an id. -/
def World.request (w : World) (id : String) : Option PendingCapabilityRequest :=
  w.store.requests.lookup id

/-- The step is a removal of old requests, and `id` is one of them. -/
def Removal (w : World) (l : Label) (id : String) : Prop :=
  (∃ c retentionSecs now, l = .cleanupOld c retentionSecs now ∧
      id ∈ w.store.oldIds retentionSecs now) ∨
    ∃ c env args, l = .resume c env ∧ w.calls.lookup c = some (.removing args) ∧
      id ∈ w.store.oldIds 0 env.now

/-- Every way in which one step can change what is stored under an id. -/
inductive Change (w : World) (l : Label) (w' : World) (id : String) :
    Option PendingCapabilityRequest → Option PendingCapabilityRequest → Prop where
  | same (o : Option PendingCapabilityRequest) : Change w l w' id o o
  | created (o : Option PendingCapabilityRequest) (r : PendingCapabilityRequest)
      (hstatus : r.status = .pending) (hid : r.id = id) (hfresh : id ∉ w.issued)
      (hissued : id ∈ w'.issued) : Change w l w' id o (some r)
  | removed (r : PendingCapabilityRequest) (hstatus : r.status ≠ .pending)
      (hremoval : Removal w l id) : Change w l w' id (some r) none
  | granted (r : PendingCapabilityRequest) (token : CapabilityToken) (duration : GrantDuration)
      (hstatus : r.status = .pending) :
      Change w l w' id (some r) (some (r.withStatus (.granted token duration)))
  | denied (r : PendingCapabilityRequest) (reason : String) (hstatus : r.status = .pending) :
      Change w l w' id (some r) (some (r.withStatus (.denied reason)))
  | expired (r : PendingCapabilityRequest) (hstatus : r.status = .pending) :
      Change w l w' id (some r) (some (r.withStatus .expired))
  | revoked (r : PendingCapabilityRequest) (reason : String) (token : CapabilityToken)
      (duration : GrantDuration) (hstatus : r.status = .granted token duration) :
      Change w l w' id (some r) (some (r.withStatus (.denied reason)))
  | marked (r : PendingCapabilityRequest) (c : CallId) (env : StepEnv) (ids : List String)
      (next : Option RequestArgs) (hlabel : l = .resume c env)
      (hcall : w.calls.lookup c = some (.marking ids next)) (hmem : id ∈ ids) :
      Change w l w' id (some r) (some (r.withStatus .expired))

/-- Setting the status of one request changes that request, if it is stored. -/
theorem lookup_setStatus (store : PendingRequestStore) (id id' : String) (status : RequestStatus) :
    (store.setStatus id status).requests.lookup id' =
      if id' = id then (store.requests.lookup id').map (·.withStatus status)
      else store.requests.lookup id' :=
  Table.lookup_modify id _ store.requests id'

/-- A revocation changes granted requests only. -/
theorem change_revoked (w : World) (l : Label) (w' : World) (id reason : String)
    (o : Option PendingCapabilityRequest) :
    Change w l w' id o (o.map (PendingCapabilityRequest.revoked reason)) := by
  cases o with
  | none => exact .same none
  | some r =>
    rw [Option.map_some]
    unfold PendingCapabilityRequest.revoked PendingCapabilityRequest.isGranted
    cases hs : r.status with
    | granted token duration => exact .revoked r reason token duration hs
    | pending => exact .same _
    | denied reason => exact .same _
    | expired => exact .same _

/-- A removal of old requests spares the pending ones. -/
theorem change_removeOld (w : World) (l : Label) (w' : World) (id : String) (retentionSecs : Nat)
    (now : SecureTimestamp)
    (hremoval : id ∈ w.store.oldIds retentionSecs now → Removal w l id) :
    Change w l w' id (w.request id)
      ((w.store.removeOld retentionSecs now).requests.lookup id) := by
  unfold PendingRequestStore.removeOld World.request
  rw [Table.lookup_retain]
  cases hr : w.store.requests.lookup id with
  | none => exact .same none
  | some r =>
    rw [Option.filter_some]
    split
    · exact .same _
    · next hgone =>
      refine .removed r (fun hpending => hgone ?_)
        (hremoval (Table.mem_keysWhere.mpr ⟨r, hr, by simpa using hgone⟩))
      simp [PendingRequestStore.retained, PendingCapabilityRequest.statusPending_iff.mpr hpending]

/-- **The step lemma**: whatever step is taken, what is stored under an id changes in one of the
ways of `Change`. -/
theorem step_change {w w' : World} {l : Label} (h : step w l = some w') (id : String) :
    Change w l w' id (w.request id) (w'.request id) := by
  cases l with
  | createRequest c args =>
    simp only [step] at h
    split at h
    · cases h
    · cases h
      simp only [World.request, World.setCall_store]
      exact .same _
  | cleanupExpired c clock =>
    simp only [step] at h
    split at h
    · cases h
    · cases h
      simp only [World.request, World.setCall_store]
      exact .same _
  | cleanupOld c retentionSecs now =>
    simp only [step] at h
    split at h
    · cases h
    · cases h
      rw [World.request, World.request, World.setCall_store, World.setStore_store]
      exact change_removeOld w _ _ id retentionSecs now fun hid =>
        Or.inl ⟨c, retentionSecs, now, rfl, hid⟩
  | grantRequest id' token duration now =>
    cases h
    simp only [World.request, World.setStore_store, PendingRequestStore.grantRequest]
    split
    · exact .same _
    · next r hr =>
      split
      · exact .same _
      · next hp =>
        have hpending : r.status = .pending :=
          PendingCapabilityRequest.statusPending_iff.mp (by simpa using hp)
        split
        · rw [lookup_setStatus]
          split
          · next heq =>
            rw [heq, hr]
            exact .expired r hpending
          · exact .same _
        · rw [lookup_setStatus]
          split
          · next heq =>
            rw [heq, hr]
            exact .granted r token duration hpending
          · exact .same _
  | denyRequest id' reason =>
    cases h
    simp only [World.request, World.setStore_store, PendingRequestStore.denyRequest]
    split
    · exact .same _
    · next r hr =>
      split
      · exact .same _
      · next hp =>
        rw [lookup_setStatus]
        split
        · next heq =>
          rw [heq, hr]
          exact .denied r reason
            (PendingCapabilityRequest.statusPending_iff.mp (by simpa using hp))
        · exact .same _
  | revokeRequest id' =>
    cases h
    simp only [World.request, World.setStore_store, PendingRequestStore.revokeRequest]
    rw [Table.lookup_modify]
    split
    · exact change_revoked w _ _ id _ _
    · exact .same _
  | revokeAllGranted =>
    cases h
    simp only [World.request, World.setStore_store, PendingRequestStore.revokeAllGranted]
    rw [Table.lookup_mapVals]
    exact change_revoked w _ _ id _ _
  | resume c env =>
    obtain ⟨call, hcall, hres⟩ := Option.bind_eq_some_iff.mp h
    cases call with
    | collecting args =>
      cases hres
      simp only [World.request, World.setCall_store]
      exact .same _
    | marking ids next =>
      cases hres
      simp only [World.request, World.setCall_store, World.setStore_store,
        PendingRequestStore.markExpired]
      have hidem : ∀ r : PendingCapabilityRequest,
          (r.withStatus .expired).withStatus .expired = r.withStatus .expired := fun _ => rfl
      rw [Table.lookup_modifyAll hidem]
      split
      · next hmem =>
        cases w.store.requests.lookup id with
        | none => exact .same none
        | some r => exact .marked r c env ids next rfl hcall hmem
      · exact .same _
    | removing args =>
      cases hres
      rw [World.request, World.request, World.setCall_store, World.setStore_store]
      exact change_removeOld w _ _ id 0 env.now fun hid =>
        Or.inr ⟨c, env, args, rfl, hcall, hid⟩
    | unindexing removed next =>
      cases hres
      simp only [World.request, World.setCall_store, World.setStore_store,
        PendingRequestStore.unindex]
      exact .same _
    | rechecking args =>
      cases hres
      simp only [World.request, World.setCall_store]
      exact .same _
    | sessionChecking args =>
      cases hres
      simp only [World.request, World.setCall_store]
      exact .same _
    | inserting args =>
      simp only [resumeCall] at hres
      split at hres
      · cases hres
      · next hfresh =>
        cases hres
        simp only [World.request, World.setCall_store, PendingRequestStore.insertRequest]
        rw [Table.lookup_insert_eq]
        split
        · next heq =>
          subst heq
          exact .created _ _ rfl rfl hfresh (by simp)
        · exact .same _
    | pushing r =>
      cases hres
      simp only [World.request, World.setCall_store, World.setStore_store,
        PendingRequestStore.pushIndex]
      exact .same _

/-- Identifiers stay issued. -/
theorem step_issued {w w' : World} {l : Label} (h : step w l = some w') :
    w.issued ⊆ w'.issued := by
  cases l with
  | resume c env =>
    obtain ⟨call, -, hres⟩ := Option.bind_eq_some_iff.mp h
    cases call with
    | inserting args =>
      simp only [resumeCall] at hres
      split at hres
      · cases hres
      · cases hres
        simp
    | _ =>
      cases hres
      simp
  | createRequest c args =>
    simp only [step] at h
    split at h <;> cases h
    simp
  | cleanupExpired c clock =>
    simp only [step] at h
    split at h <;> cases h
    simp
  | cleanupOld c retentionSecs now =>
    simp only [step] at h
    split at h <;> cases h
    simp
  | _ =>
    cases h
    exact Finset.Subset.refl _

/-- Everything stored was issued. -/
def StoredIssued (w : World) : Prop := ∀ id, (w.request id).isSome → id ∈ w.issued

theorem storedIssued_initial (timeoutSecs : Nat) : StoredIssued (World.initial timeoutSecs) := by
  intro id h
  cases h

/-- **Only issued identifiers are ever stored.** -/
theorem StoredIssued.step {w w' : World} {l : Label} (hw : StoredIssued w)
    (h : step w l = some w') : StoredIssued w' := by
  intro id hid
  have hstored : (w.request id).isSome → id ∈ w'.issued := fun hs => step_issued h (hw id hs)
  have hc := step_change h id
  generalize w.request id = o at hc hstored
  generalize w'.request id = o' at hc hid
  cases hc with
  | same => exact hstored hid
  | created _ r hstatus hid' hfresh hissued => exact hissued
  | removed r hstatus hremoval => cases hid
  | granted r token duration hstatus => exact hstored rfl
  | denied r reason hstatus => exact hstored rfl
  | expired r hstatus => exact hstored rfl
  | revoked r reason token duration hstatus => exact hstored rfl
  | marked r c env ids next hlabel hcall hmem => exact hstored rfl

end ElastosRuntime.PendingSystem
