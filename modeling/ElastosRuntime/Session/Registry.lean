/-
# The session registry

Sessions by bearer token, and the index from a VM to the token of its session that is used when
the VM dies (`session/registry.rs`).  Every operation is a function of the registry; what a new
session draws from outside (its identifier, its token and the clock) is an argument.  The audit
log is left out.
-/
import ElastosRuntime.Primitives
import ElastosRuntime.Lib.Table

namespace ElastosRuntime

/-! ## 1. Sessions -/

inductive SessionType where
  | shell
  | capsule
deriving DecidableEq

/-- An authenticated connection to the runtime. -/
structure Session where
  id : String
  token : String
  vmId : Option String
  sessionType : SessionType
  owner : Option String
  createdAt : SecureTimestamp
  lastActive : SecureTimestamp
deriving DecidableEq

/-- What a new session draws: two UUIDs and a reading of the clock. -/
structure SessionSeed where
  id : String
  token : String
  now : SecureTimestamp

namespace Session

def new (seed : SessionSeed) (sessionType : SessionType) (vmId : Option String) : Session :=
  ⟨seed.id, seed.token, vmId, sessionType, none, seed.now, seed.now⟩

def withOwner (seed : SessionSeed) (sessionType : SessionType) (vmId : Option String)
    (owner : String) : Session :=
  ⟨seed.id, seed.token, vmId, sessionType, some owner, seed.now, seed.now⟩

def setOwner (s : Session) (owner : String) : Session := { s with owner := some owner }

def isShell (s : Session) : Bool := s.sessionType = .shell

def touch (s : Session) (now : SecureTimestamp) : Session := { s with lastActive := now }

end Session

/-! ## 2. The registry -/

/-- The two maps, and the owner a new session is given. -/
structure SessionRegistry where
  sessions : Table String Session
  vmSessions : Table String String
  defaultOwner : Option String

namespace SessionRegistry

def new : SessionRegistry := ⟨∅, ∅, none⟩

def setDefaultOwner (r : SessionRegistry) (owner : String) : SessionRegistry :=
  { r with defaultOwner := some owner }

/-- The session `create_session` registers. -/
def sessionFor (r : SessionRegistry) (seed : SessionSeed) (sessionType : SessionType)
    (vmId : Option String) : Session :=
  match r.defaultOwner with
  | some owner => Session.withOwner seed sessionType vmId owner
  | none => Session.new seed sessionType vmId

/-- Create a new session and register it, under its VM too if it is bound to one. -/
def createSession (r : SessionRegistry) (seed : SessionSeed) (sessionType : SessionType)
    (vmId : Option String) : Session × SessionRegistry :=
  let session := r.sessionFor seed sessionType vmId
  let sessions := r.sessions.insert session.token session
  match vmId with
  | some vmId =>
    (session, { r with sessions, vmSessions := r.vmSessions.insert vmId session.token })
  | none => (session, { r with sessions })

/-- Validate a bearer token. -/
def validateToken (r : SessionRegistry) (token : String) : Option Session :=
  r.sessions.lookup token

/-- Run `f` on the session of a token, if there is one. -/
def getSessionMut {α : Type} (r : SessionRegistry) (token : String)
    (f : Session → α × Session) : Option α × SessionRegistry :=
  match r.sessions.lookup token with
  | some session =>
    let (result, session) := f session
    (some result, { r with sessions := r.sessions.insert token session })
  | none => (none, r)

def touchSession (r : SessionRegistry) (token : String) (now : SecureTimestamp) :
    SessionRegistry :=
  { r with sessions := Table.modify token (·.touch now) r.sessions }

def isShell (r : SessionRegistry) (token : String) : Bool :=
  ((r.sessions.lookup token).map Session.isShell).getD false

/-- Invalidate a session by token, and forget what the index has under its VM. -/
def invalidateSession (r : SessionRegistry) (token : String) :
    Option Session × SessionRegistry :=
  match r.sessions.lookup token with
  | some session =>
    let sessions := r.sessions.erase token
    match session.vmId with
    | some vmId => (some session, { r with sessions, vmSessions := r.vmSessions.erase vmId })
    | none => (some session, { r with sessions })
  | none => (none, r)

/-- Invalidate the session the index has for a VM. -/
def invalidateVmSession (r : SessionRegistry) (vmId : String) :
    Option Session × SessionRegistry :=
  match r.vmSessions.lookup vmId with
  | some token =>
    (r.sessions.lookup token,
      { r with sessions := r.sessions.erase token, vmSessions := r.vmSessions.erase vmId })
  | none => (none, r)

def hasVmSession (r : SessionRegistry) (vmId : String) : Bool :=
  (r.vmSessions.lookup vmId).isSome

def getVmToken (r : SessionRegistry) (vmId : String) : Option String :=
  r.vmSessions.lookup vmId

/-- Whether a session has been idle for longer than allowed. -/
def isStale (now : SecureTimestamp) (maxIdleSecs : Nat) (session : Session) : Bool :=
  decide (maxIdleSecs < now.unixSecs - session.lastActive.unixSecs)

/-- Forget what the index has under the VMs of some sessions. -/
def unindex (vmSessions : Table String String) (removed : List Session) : Table String String :=
  removed.foldl (fun vmSessions session =>
    match session.vmId with
    | some vmId => vmSessions.erase vmId
    | none => vmSessions) vmSessions

/-- Remove the sessions that have been idle for too long. -/
def cleanupStaleSessions (r : SessionRegistry) (now : SecureTimestamp) (maxIdleSecs : Nat) :
    Nat × SessionRegistry :=
  let removed := (r.sessions.entries.map (·.2)).filter (isStale now maxIdleSecs)
  let sessions := Table.retain (fun _ session => !isStale now maxIdleSecs session) r.sessions
  (removed.length, { r with sessions, vmSessions := unindex r.vmSessions removed })

/-- Invalidate what the index has for each of some VMs, counting the sessions it finds. -/
def invalidateVmSessions (r : SessionRegistry) : List String → Nat × SessionRegistry
  | [] => (0, r)
  | vmId :: vmIds =>
    let (session, r) := r.invalidateVmSession vmId
    let (count, r) := r.invalidateVmSessions vmIds
    (if session.isSome then count + 1 else count, r)

/-- Invalidate what the index has for the VMs that are not in the list. -/
def cleanupDeadVmSessions (r : SessionRegistry) (liveVmIds : List String) :
    Nat × SessionRegistry :=
  r.invalidateVmSessions (Table.keysWhere (fun vmId _ => !liveVmIds.contains vmId) r.vmSessions)

/-! ## 3. What the operations leave in the maps -/

@[simp] theorem sessionFor_token (r : SessionRegistry) (seed : SessionSeed)
    (sessionType : SessionType) (vmId : Option String) :
    (r.sessionFor seed sessionType vmId).token = seed.token := by
  unfold sessionFor
  split <;> rfl

@[simp] theorem sessionFor_vmId (r : SessionRegistry) (seed : SessionSeed)
    (sessionType : SessionType) (vmId : Option String) :
    (r.sessionFor seed sessionType vmId).vmId = vmId := by
  unfold sessionFor
  split <;> rfl

/-- Running an update on a session modifies its entry. -/
theorem getSessionMut_update (r : SessionRegistry) (token : String) (f : Session → Session) :
    (r.getSessionMut token fun session => ((), f session)).2 =
      { r with sessions := Table.modify token f r.sessions } := by
  cases h : r.sessions.lookup token with
  | none => simp only [getSessionMut, Table.modify, h]
  | some session => simp only [getSessionMut, Table.modify, h]

/-- The session the index has for a VM is gone from the index afterwards, whatever it was. -/
theorem invalidateVmSession_vmSessions (r : SessionRegistry) (vmId vmId' : String) :
    (r.invalidateVmSession vmId).2.vmSessions.lookup vmId' =
      if vmId' = vmId then none else r.vmSessions.lookup vmId' := by
  unfold invalidateVmSession
  cases h : r.vmSessions.lookup vmId with
  | none =>
    by_cases heq : vmId' = vmId
    · rw [if_pos heq, heq]
      exact h
    · rw [if_neg heq]
  | some token => exact Table.lookup_erase_eq _ _ _

/-- None of several VMs is in the index after its invalidation, and the others are as before. -/
theorem invalidateVmSessions_vmSessions (vmId : String) : ∀ (vmIds : List String)
    (r : SessionRegistry), (r.invalidateVmSessions vmIds).2.vmSessions.lookup vmId =
      if vmId ∈ vmIds then none else r.vmSessions.lookup vmId
  | [], r => by simp [invalidateVmSessions]
  | vmId' :: vmIds, r => by
    have htail := invalidateVmSessions_vmSessions vmId vmIds (r.invalidateVmSession vmId').2
    rw [invalidateVmSession_vmSessions] at htail
    simp only [invalidateVmSessions, htail, List.mem_cons]
    by_cases hmem : vmId ∈ vmIds
    · simp [hmem]
    · simp [hmem]

/-- A VM that is not alive is not in the index after the cleanup. -/
theorem cleanupDeadVmSessions_vmSessions (r : SessionRegistry) (liveVmIds : List String)
    {vmId : String} (hdead : vmId ∉ liveVmIds) :
    (r.cleanupDeadVmSessions liveVmIds).2.vmSessions.lookup vmId = none := by
  rw [cleanupDeadVmSessions, invalidateVmSessions_vmSessions]
  split
  · rfl
  · next hnot =>
    cases hvm : r.vmSessions.lookup vmId with
    | none => rfl
    | some token => exact absurd (Table.mem_keysWhere.mpr ⟨token, hvm, by simp [hdead]⟩) hnot

/-- What is left of the index after forgetting the VMs of some sessions. -/
theorem lookup_unindex (vmId token : String) : ∀ (removed : List Session)
    (vmSessions : Table String String),
    (unindex vmSessions removed).lookup vmId = some token ↔
      vmSessions.lookup vmId = some token ∧ ∀ session ∈ removed, session.vmId ≠ some vmId
  | [], vmSessions => by simp [unindex]
  | session :: removed, vmSessions => by
    have htail := lookup_unindex vmId token removed
    simp only [unindex, List.foldl_cons, List.mem_cons, forall_eq_or_imp] at htail ⊢
    rw [htail]
    cases hvm : session.vmId with
    | none => simp
    | some vmId' =>
      dsimp only
      rw [Table.lookup_erase_eq]
      by_cases heq : vmId = vmId'
      · simp [heq]
      · simp [heq, Ne.symm heq]

end SessionRegistry

end ElastosRuntime
