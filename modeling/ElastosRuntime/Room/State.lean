/-
# The state of a room

`room_service.rs`: one device's copy of a room, kept in nine JSON files and changed under a lock:
loaded, its defaults repaired, what is over expired, changed by one operation, and saved as a whole.
An operation that is refused saves nothing.

Timestamps and counters are natural numbers.  Of the objects, requests, sessions and uploads a room
also holds, only what the operations of this development read is kept.
-/
import ElastosRuntime.Lib.Records
import ElastosRuntime.Lib.Text

namespace ElastosRuntime.Room

open Records Text

/-! ## 1. The records -/

inductive RoomRole where
  | owner
  | admin
  | member
deriving DecidableEq

inductive InviteStatus where
  | pending
  | accepted
  | revoked
  | expired
deriving DecidableEq

structure RoomProfileCardView where
  schema : String
  profileId : String
  displayName : String
  handle : Option String
  updatedAt : Nat
deriving DecidableEq

structure RoomControlRecord where
  schema : String
  roomSlug : String
  title : String
  createdAt : Nat
  updatedAt : Nat
  currentKeyEpoch : Nat
  ownerDid : Option String
  allowGuestInvites : Bool
  allowMemberInvites : Bool
  allowMembersToHostGuests : Bool
deriving DecidableEq

def RoomControlRecord.default : RoomControlRecord := ⟨"", "", "", 0, 0, 0, none, true, true, true⟩

structure RoomMemberRecord where
  memberDid : String
  role : RoomRole
  addedAt : Nat
  addedBy : String
  active : Bool
  profileCard : Option RoomProfileCardView
  removedAt : Option Nat
  removedBy : Option String
deriving DecidableEq

structure RoomInviteRecord where
  inviteId : String
  invitedDid : String
  role : RoomRole
  invitedBy : String
  inviterProfile : Option RoomProfileCardView
  createdAt : Nat
  expiresAt : Nat
  inviteEnvelopeSha256 : Option String
  acceptanceEnvelopeSha256 : Option String
  claimedJoinInviteEnvelopeSha256 : Option String
  status : InviteStatus
  actedAt : Option Nat
  actedBy : Option String
deriving DecidableEq

structure RoomKeyEpochRecord where
  epoch : Nat
  createdAt : Nat
  createdBy : String
  reason : String
deriving DecidableEq

inductive BrowserAccessStatus where
  | pending
  | approved
  | denied
  | expired
deriving DecidableEq

structure BrowserAccessRequestRecord where
  status : BrowserAccessStatus
  expiresAt : Nat
  sessionToken : Option String
  sessionExpiresAt : Option Nat
deriving DecidableEq

structure SessionRecord where
  token : String
  memberDid : Option String
  expiresAt : Nat
deriving DecidableEq

inductive ConversationObjectKind where
  | system
  | text
  | emoji
  | link
  | attachment
deriving DecidableEq

/-- Of the emoji, the link and the attachment of an object only whether there is one. -/
structure ConversationObjectRecord where
  seq : Nat
  eventId : String
  collaborationScope : Option (String × String)
  senderMemberDid : Option String
  kind : ConversationObjectKind
  body : Option String
  emoji : Bool
  link : Bool
  attachment : Bool
deriving DecidableEq

structure UploadRecord where
  uploadId : String
  token : String
  expiresAt : Nat
deriving DecidableEq

def STATE_SCHEMA : String := "elastos.room.state.v1"

def ROOM_SLUG : String := "chat-room"

def INVITE_TTL_SECS : Nat := 7 * 24 * 60 * 60

def U64_MAX : Nat := 2 ^ 64 - 1

structure RoomState where
  schema : String
  roomSlug : String
  nextSeq : Nat
  control : RoomControlRecord
  members : List RoomMemberRecord
  invites : List RoomInviteRecord
  keyEpochs : List RoomKeyEpochRecord
  pendingRequests : List BrowserAccessRequestRecord
  sessions : List SessionRecord
  objects : List ConversationObjectRecord
  uploads : List UploadRecord
deriving DecidableEq

def RoomState.default : RoomState :=
  ⟨STATE_SCHEMA, ROOM_SLUG, 1, .default, [], [], [], [], [], [], []⟩

/-! ## 2. Members and key epochs -/

section

variable (state : RoomState)

def activeMemberRecord (did : String) : Option RoomMemberRecord :=
  state.members.find? fun member => member.active && member.memberDid = did

/-- The record of a member as it is made active. -/
def RoomMemberRecord.activated (member : RoomMemberRecord) (role : RoomRole)
    (profileCard : Option RoomProfileCardView) : RoomMemberRecord :=
  { member with
    role
    active := true
    removedAt := none
    removedBy := none
    profileCard := profileCard.or member.profileCard }

def ensureActiveMemberWithProfile (memberDid : String) (role : RoomRole) (addedBy : String)
    (now : Nat) (profileCard : Option RoomProfileCardView) : RoomMemberRecord × RoomState :=
  match state.members.find? fun member => member.memberDid = memberDid with
  | some member =>
    (member.activated role profileCard, { state with
      members := modifyFirst (fun member => member.memberDid = memberDid)
        (fun member => member.activated role profileCard) state.members })
  | none =>
    let member : RoomMemberRecord := ⟨memberDid, role, now, addedBy, true, profileCard, none, none⟩
    (member, { state with members := state.members ++ [member] })

def ensureActiveMember (memberDid : String) (role : RoomRole) (addedBy : String) (now : Nat) :
    RoomState :=
  (ensureActiveMemberWithProfile state memberDid role addedBy now none).2

def rotateKeyEpochRecord (actorDid reason : String) (now : Nat) : RoomKeyEpochRecord × RoomState :=
  let nextEpoch :=
    match state.keyEpochs.getLast? with
    | some item => item.epoch + 1
    | none => 1
  let record : RoomKeyEpochRecord := ⟨nextEpoch, now, actorDid, reason⟩
  (record, { state with
    keyEpochs := state.keyEpochs ++ [record]
    control := { state.control with currentKeyEpoch := nextEpoch, updatedAt := now } })

/-! ## 3. Loading -/

def retainedNextSeq : Nat :=
  min ((state.objects.map ConversationObjectRecord.seq).foldl max 0 + 1) U64_MAX

def RoomControlRecord.normalized (control : RoomControlRecord) (now : Nat) : RoomControlRecord :=
  let createdAt := if control.createdAt = 0 then now else control.createdAt
  { control with
    createdAt
    updatedAt := if control.updatedAt = 0 then createdAt else control.updatedAt
    schema := if trim control.schema = "" then STATE_SCHEMA else control.schema
    roomSlug := if trim control.roomSlug = "" then ROOM_SLUG else control.roomSlug
    title := if trim control.title = "" then "Room" else control.title
    currentKeyEpoch := if control.currentKeyEpoch = 0 then 1 else control.currentKeyEpoch }

/-- The first record of an empty list of key epochs. -/
def RoomControlRecord.initialEpoch (control : RoomControlRecord) : RoomKeyEpochRecord :=
  ⟨control.currentKeyEpoch, control.createdAt, control.ownerDid.getD "unseeded-room",
    "initial room epoch"⟩

def ConversationObjectRecord.normalized (object : ConversationObjectRecord) :
    ConversationObjectRecord :=
  if trim object.eventId = "" then { object with eventId := s!"event-{max object.seq 1}" }
  else object

def normalizeStateDefaults (now : Nat) : RoomState :=
  let control := state.control.normalized now
  let state := { state with
    nextSeq := max state.nextSeq (retainedNextSeq state)
    control
    keyEpochs := if state.keyEpochs = [] then [control.initialEpoch] else state.keyEpochs }
  let state :=
    match control.ownerDid with
    | some ownerDid => ensureActiveMember state ownerDid .owner ownerDid control.createdAt
    | none => state
  { state with objects := state.objects.map ConversationObjectRecord.normalized }

def BrowserAccessRequestRecord.afterExpiry (request : BrowserAccessRequestRecord) (now : Nat) :
    BrowserAccessRequestRecord :=
  let request :=
    if request.status = .pending ∧ request.expiresAt ≤ now then
      { request with status := .expired, sessionToken := none, sessionExpiresAt := none }
    else request
  if request.status = .approved ∧ request.sessionExpiresAt.any (· ≤ now) then
    { request with status := .expired, sessionToken := none }
  else request

def RoomInviteRecord.afterExpiry (invite : RoomInviteRecord) (now : Nat) : RoomInviteRecord :=
  if invite.status = .pending ∧ invite.expiresAt ≤ now then
    { invite with status := .expired, actedAt := some now }
  else invite

/-- `expire_state_in_place`, without the uploads whose staging files are to be removed. -/
def expireStateInPlace (now : Nat) : RoomState :=
  let sessions := state.sessions.filter fun session => now < session.expiresAt
  { state with
    pendingRequests := state.pendingRequests.map (·.afterExpiry now)
    invites := state.invites.map (·.afterExpiry now)
    sessions
    uploads := state.uploads.filter fun upload =>
      now < upload.expiresAt ∧ upload.token ∈ sessions.map SessionRecord.token }

end

/-! ## 4. Files -/

structure RoomMeta where
  schema : String
  roomSlug : String
  nextSeq : Nat
deriving DecidableEq

def RoomMeta.default : RoomMeta := ⟨"", "", 0⟩

/-- The nine files, each as what it holds; none where there is none or it is empty. -/
structure RoomFiles where
  roomMeta : Option RoomMeta
  control : Option RoomControlRecord
  members : Option (List RoomMemberRecord)
  invites : Option (List RoomInviteRecord)
  keyEpochs : Option (List RoomKeyEpochRecord)
  pairRequests : Option (List BrowserAccessRequestRecord)
  sessions : Option (List SessionRecord)
  objects : Option (List ConversationObjectRecord)
  uploads : Option (List UploadRecord)
deriving DecidableEq

def RoomFiles.absent : RoomFiles := ⟨none, none, none, none, none, none, none, none, none⟩

def loadSplitState (files : RoomFiles) : RoomState :=
  let roomMeta := files.roomMeta.getD .default
  { schema := if trim roomMeta.schema = "" then STATE_SCHEMA else roomMeta.schema
    roomSlug := if trim roomMeta.roomSlug = "" then ROOM_SLUG else roomMeta.roomSlug
    nextSeq := if roomMeta.nextSeq = 0 then 1 else roomMeta.nextSeq
    control := files.control.getD .default
    members := files.members.getD []
    invites := files.invites.getD []
    keyEpochs := files.keyEpochs.getD []
    pendingRequests := files.pairRequests.getD []
    sessions := files.sessions.getD []
    objects := files.objects.getD []
    uploads := files.uploads.getD [] }

/-- `load_state`: without any file, the state that `load_split_state` makes of none. -/
def loadState (now : Nat) (files : RoomFiles) : RoomState :=
  normalizeStateDefaults (if files = .absent then .default else loadSplitState files) now

def saveState (state : RoomState) : RoomFiles where
  roomMeta := some ⟨state.schema, state.roomSlug, state.nextSeq⟩
  control := some state.control
  members := some state.members
  invites := some state.invites
  keyEpochs := some state.keyEpochs
  pairRequests := some state.pendingRequests
  sessions := some state.sessions
  objects := some state.objects
  uploads := some state.uploads

/-- Why an operation is refused; what a crate or the file system reports is dropped. -/
inductive RoomError where
  | message (text : String)
  | cause
deriving DecidableEq

abbrev RoomResult := Except RoomError

/-- `with_locked_state`: what the operation makes of the loaded state is saved, if it succeeds. -/
def withLockedState {α : Type} (loadedAt : Nat) (files : RoomFiles)
    (f : RoomState → RoomResult (α × RoomState)) : RoomResult α × RoomFiles :=
  match f (expireStateInPlace (loadState loadedAt files) loadedAt) with
  | .error e => (.error e, files)
  | .ok (result, state) => (.ok result, saveState state)

end ElastosRuntime.Room
