/-
# Pending capability requests

The store of capability requests that wait for the user's decision (`pending.rs`): a map of the
requests, and an index from a session to the ids of its requests, each behind a lock of its own.

Every definition of section 2 is one critical section: what is read or written while one lock
is held (or, for the per-session count, both).  The operations of the source are sequences of
these, and other operations may run between any two; `Capability/PendingSystem.lean` puts them in
sequence.  Clock readings and fresh identifiers are arguments.
-/
import ElastosRuntime.Capability.Token
import ElastosRuntime.Lib.Table

namespace ElastosRuntime

/-! ## 1. Requests -/

abbrev SessionId := String

/-- How long a granted capability is meant to last. -/
inductive GrantDuration where
  | once
  | session
deriving DecidableEq

/-- What has become of a request. -/
inductive RequestStatus where
  | pending
  | granted (token : CapabilityToken) (duration : GrantDuration)
  | denied (reason : String)
  | expired
deriving DecidableEq

/-- A request for a capability. -/
structure PendingCapabilityRequest where
  id : String
  sessionId : SessionId
  resource : ResourceId
  action : Action
  reason : String
  requestedAt : SecureTimestamp
  expiresAt : SecureTimestamp
  status : RequestStatus
deriving DecidableEq

def DEFAULT_REQUEST_TIMEOUT_SECS : Nat := 300
def MAX_PENDING_REQUESTS : Nat := 1024
def MAX_PENDING_PER_SESSION : Nat := 32

/-- What a caller of `create_request` asks for. -/
structure RequestArgs where
  sessionId : SessionId
  resource : ResourceId
  action : Action
  reason : String
deriving DecidableEq

/-- What the random generator and the clock supply for a new request. -/
structure RequestStamp where
  id : String
  requestedAt : SecureTimestamp
  expiryBase : SecureTimestamp
deriving DecidableEq

namespace PendingCapabilityRequest

/-- A new pending request that expires `timeoutSecs` from now. -/
def newWithReason (stamp : RequestStamp) (args : RequestArgs) (timeoutSecs : Nat) :
    PendingCapabilityRequest :=
  { id := stamp.id
    sessionId := args.sessionId
    resource := args.resource
    action := args.action
    reason := args.reason
    requestedAt := stamp.requestedAt
    expiresAt := ⟨stamp.expiryBase.unixSecs + timeoutSecs, stamp.expiryBase.monotonicSeq⟩
    status := .pending }

def isExpired (r : PendingCapabilityRequest) (now : SecureTimestamp) : Bool :=
  r.expiresAt.isExpired now

def isGranted (r : PendingCapabilityRequest) : Bool :=
  match r.status with
  | .granted _ _ => true
  | _ => false

/-- Whether the stored status is `Pending`, whatever the clock says. -/
def statusPending (r : PendingCapabilityRequest) : Bool :=
  match r.status with
  | .pending => true
  | _ => false

theorem statusPending_iff {r : PendingCapabilityRequest} :
    r.statusPending = true ↔ r.status = .pending := by
  unfold statusPending
  cases r.status <;> simp

/-- The request with another status. -/
def withStatus (status : RequestStatus) (r : PendingCapabilityRequest) :
    PendingCapabilityRequest :=
  { r with status }

@[simp] theorem withStatus_status (status : RequestStatus) (r : PendingCapabilityRequest) :
    (r.withStatus status).status = status := rfl

@[simp] theorem withStatus_sessionId (status : RequestStatus) (r : PendingCapabilityRequest) :
    (r.withStatus status).sessionId = r.sessionId := rfl

/-- The status change of `revoke_request` and `revoke_all_granted`: only a granted request is
touched. -/
def revoked (reason : String) (r : PendingCapabilityRequest) : PendingCapabilityRequest :=
  if r.isGranted then r.withStatus (.denied reason) else r

end PendingCapabilityRequest

/-! ## 2. The store and its critical sections -/

/-- The two maps and the timeout of new requests. -/
structure PendingRequestStore where
  requests : Table String PendingCapabilityRequest
  sessionRequests : Table SessionId (List String)
  timeoutSecs : Nat

namespace PendingRequestStore

def withTimeout (timeoutSecs : Nat) : PendingRequestStore := ⟨∅, ∅, timeoutSecs⟩

def new : PendingRequestStore := withTimeout DEFAULT_REQUEST_TIMEOUT_SECS

/-- The ids the index lists for a session. -/
def indexOf (store : PendingRequestStore) (sessionId : SessionId) : List String :=
  (store.sessionRequests.lookup sessionId).getD []

/-- `requests.read().len()`. -/
def requestCount (store : PendingRequestStore) : Nat := Table.size store.requests

/-- How many of the session's indexed requests are stored and pending. -/
def sessionPendingCount (store : PendingRequestStore) (sessionId : SessionId) : Nat :=
  (store.indexOf sessionId).countP fun id =>
    ((store.requests.lookup id).map PendingCapabilityRequest.statusPending).getD false

/-- Store a new request. -/
def insertRequest (store : PendingRequestStore) (r : PendingCapabilityRequest) :
    PendingRequestStore :=
  { store with requests := store.requests.insert r.id r }

/-- Add an id to the session's index. -/
def pushIndex (store : PendingRequestStore) (sessionId : SessionId) (id : String) :
    PendingRequestStore :=
  { store with
    sessionRequests := store.sessionRequests.insert sessionId (store.indexOf sessionId ++ [id]) }

/-- Change the status of a stored request. -/
def setStatus (store : PendingRequestStore) (id : String) (status : RequestStatus) :
    PendingRequestStore :=
  { store with
    requests := Table.modify id (PendingCapabilityRequest.withStatus status) store.requests }

/-- Grant a pending request; one found expired is marked so and refused. -/
def grantRequest (store : PendingRequestStore) (id : String) (token : CapabilityToken)
    (duration : GrantDuration) (now : SecureTimestamp) :
    Except String Unit × PendingRequestStore :=
  match store.requests.lookup id with
  | none => (.error s!"Request not found: {id}", store)
  | some r =>
    if !r.statusPending then (.error s!"Request {id} is not pending", store)
    else if r.isExpired now then (.error s!"Request {id} has expired", store.setStatus id .expired)
    else (.ok (), store.setStatus id (.granted token duration))

/-- Deny a pending request. -/
def denyRequest (store : PendingRequestStore) (id reason : String) :
    Except String Unit × PendingRequestStore :=
  match store.requests.lookup id with
  | none => (.error s!"Request not found: {id}", store)
  | some r =>
    if !r.statusPending then (.error s!"Request {id} is not pending", store)
    else (.ok (), store.setStatus id (.denied reason))

/-- The ids of the pending requests that have expired; the clock is read for each request. -/
def expiredIds (store : PendingRequestStore) (now : String → SecureTimestamp) : List String :=
  Table.keysWhere (fun id r => r.isExpired (now id) && r.statusPending) store.requests

/-- Mark the listed requests as expired, as far as they are still stored. -/
def markExpired (store : PendingRequestStore) (ids : List String) : PendingRequestStore :=
  { store with
    requests :=
      Table.modifyAll ids (PendingCapabilityRequest.withStatus .expired) store.requests }

/-- Whether `cleanup_old` keeps a request: pending ones always, others while they are young. -/
def retained (retentionSecs : Nat) (now : SecureTimestamp) (r : PendingCapabilityRequest) : Bool :=
  r.statusPending || decide (now.unixSecs - r.requestedAt.unixSecs ≤ retentionSecs)

/-- The ids `cleanup_old` removes. -/
def oldIds (store : PendingRequestStore) (retentionSecs : Nat) (now : SecureTimestamp) :
    List String :=
  Table.keysWhere (fun _ r => !retained retentionSecs now r) store.requests

/-- Remove the old resolved requests. -/
def removeOld (store : PendingRequestStore) (retentionSecs : Nat) (now : SecureTimestamp) :
    PendingRequestStore :=
  { store with requests := Table.retain (fun _ r => retained retentionSecs now r) store.requests }

/-- Drop the removed ids from every session's index. -/
def unindex (store : PendingRequestStore) (removed : List String) : PendingRequestStore :=
  { store with
    sessionRequests :=
      Table.mapVals (fun ids => ids.filter fun id => !removed.contains id)
        store.sessionRequests }

/-- Mark one granted request as revoked. -/
def revokeRequest (store : PendingRequestStore) (id : String) : PendingRequestStore :=
  { store with
    requests :=
      Table.modify id (PendingCapabilityRequest.revoked "Revoked by user") store.requests }

/-- Mark every granted request as revoked. -/
def revokeAllGranted (store : PendingRequestStore) : PendingRequestStore :=
  { store with
    requests := Table.mapVals
      (PendingCapabilityRequest.revoked "Epoch advanced - all capabilities revoked")
      store.requests }

end PendingRequestStore

end ElastosRuntime
