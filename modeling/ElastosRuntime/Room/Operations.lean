/-
# The operations on a room

What `room_service.rs` does to the loaded state, operation by operation.  A signed envelope is its
payload with what checking it comes to: the digest of its text, whether its signature verifies, and
the Profile that authorises its signer.
-/
import ElastosRuntime.Room.State

namespace ElastosRuntime.Room

open Records Text

/-! ## 1. Inputs and answers -/

def normalizeMemberDid (input : String) : RoomResult String :=
  let trimmed := trim input
  if trimmed = "" then .error (.message "member DID must not be empty")
  else if !startsWith trimmed "did:" then .error (.message "member DID must start with did:")
  else if 240 < trimmed.toList.length then
    .error (.message "member DID must be 240 characters or fewer")
  else .ok trimmed

def normalizeRoomTitle (input : String) : RoomResult String :=
  let trimmed := trim input
  if trimmed = "" then .error (.message "room title must not be empty")
  else if 80 < trimmed.toList.length then
    .error (.message "room title must be 80 characters or fewer")
  else .ok trimmed

def normalizeKeyRotationReason (input : String) : RoomResult String :=
  let trimmed := trim input
  if trimmed = "" then .error (.message "key rotation reason must not be empty")
  else if 200 < trimmed.toList.length then
    .error (.message "key rotation reason must be 200 characters or fewer")
  else .ok trimmed

def actorRoleLabel : RoomRole → String
  | .owner => "owner"
  | .admin => "admin"
  | .member => "member"

/-- A role as Rust's `Debug` writes it. -/
def roleDebug : RoomRole → String
  | .owner => "Owner"
  | .admin => "Admin"
  | .member => "Member"

def canInviteRole : RoomRole → RoomRole → Bool
  | .owner, .admin => true
  | .owner, .member => true
  | .admin, .member => true
  | .member, .member => true
  | _, _ => false

def canRemoveRole : RoomRole → RoomRole → Bool
  | .owner, .admin => true
  | .owner, .member => true
  | .admin, .member => true
  | _, _ => false

structure RoomMemberView where
  memberDid : String
  role : RoomRole
  addedAt : Nat
  addedBy : String
  profileCard : Option RoomProfileCardView
deriving DecidableEq

structure RoomInviteView where
  inviteId : String
  invitedDid : String
  role : RoomRole
  invitedBy : String
  createdAt : Nat
  expiresAt : Nat
deriving DecidableEq

def RoomMemberRecord.view (record : RoomMemberRecord) : RoomMemberView :=
  ⟨record.memberDid, record.role, record.addedAt, record.addedBy, record.profileCard⟩

def RoomInviteRecord.view (record : RoomInviteRecord) : RoomInviteView :=
  ⟨record.inviteId, record.invitedDid, record.role, record.invitedBy, record.createdAt,
    record.expiresAt⟩

/-- A Profile whose signature has been verified. -/
structure VerifiedProfile where
  profileDid : String
  displayName : String
  handle : Option String
  updatedAt : Nat
deriving DecidableEq

def COLLABORATION_PROFILE_DOCUMENT_SCHEMA_V1 : String :=
  "elastos.profile-document/v1"

def roomProfileCardFromVerified (profile : VerifiedProfile) : RoomProfileCardView :=
  ⟨COLLABORATION_PROFILE_DOCUMENT_SCHEMA_V1, profile.profileDid, profile.displayName,
    profile.handle, profile.updatedAt⟩

/-- An envelope that has been read: `profile` is the Profile it carries, if that verifies. -/
structure SignedEnvelope (α : Type) where
  payload : α
  envelopeSha256 : String
  signatureValid : Bool
  signerMatches : Bool
  profile : Option VerifiedProfile
  authorized : Bool

def verifyRoomAuthorityProfile {α : Type} (envelope : SignedEnvelope α)
    (expectedProfileDid : String) : RoomResult VerifiedProfile :=
  match envelope.profile with
  | none => .error .cause
  | some verified =>
    match normalizeMemberDid expectedProfileDid with
    | .error e => .error e
    | .ok expectedProfileDid =>
      if verified.profileDid ≠ expectedProfileDid then
        .error (.message "room authority Profile does not match the claimed member DID")
      else if !envelope.authorized then
        .error (.message "room signer is not authorized by the signed Profile")
      else .ok verified

structure SignedRoomInvitePayload where
  schema : String
  roomSlug : String
  roomTitle : String
  ownerProfileDid : String
  currentKeyEpoch : Nat
  inviteId : String
  invitedProfileDid : String
  role : RoomRole
  invitedByProfileDid : String
  createdAt : Nat
  expiresAt : Nat

structure SignedRoomAcceptPayload where
  schema : String
  roomSlug : String
  roomTitle : String
  ownerProfileDid : String
  currentKeyEpoch : Nat
  inviteId : String
  memberProfileDid : String
  role : RoomRole
  invitedByProfileDid : String
  acceptedAt : Nat

def ROOM_INVITE_ENVELOPE_SCHEMA : String := "elastos.room.invite.v1"

def ROOM_ACCEPT_ENVELOPE_SCHEMA : String := "elastos.room.accept.v1"

/-! ## 2. The owner and the policy -/

section

variable (state : RoomState)

def requireActiveMemberRole (did : String) : RoomResult RoomRole :=
  match activeMemberRecord state did with
  | some member => .ok member.role
  | none => .error (.message "member DID is not active in this room")

def requireRoomOwnerSeeded : RoomResult Unit :=
  if state.control.ownerDid = none then .error (.message "room owner is not seeded yet")
  else .ok ()

/-- The only key epoch of a room without an owner becomes the owner's. -/
def RoomState.claimedEpochs (ownerDid : String) (wasUnseeded : Bool) : List RoomKeyEpochRecord :=
  match state.keyEpochs with
  | [record] =>
    if wasUnseeded ∧ record.createdBy = "unseeded-room" ∧
        record.epoch = state.control.currentKeyEpoch then
      [⟨record.epoch, state.control.createdAt, ownerDid, "initial room epoch"⟩]
    else [record]
  | records => records

def requireUnownedOr (ownerDid : String) : RoomResult Unit :=
  match state.control.ownerDid with
  | some existingOwner =>
    if existingOwner ≠ ownerDid then
      .error (.message s!"room owner already set to {existingOwner}")
    else .ok ()
  | none => .ok ()

def seedRoomOwner (ownerDid title : String) (now : Nat) : RoomResult RoomState := do
  requireUnownedOr state ownerDid
  let wasUnseeded := state.control.ownerDid.isNone
  let createdAt := if state.control.createdAt = 0 then now else state.control.createdAt
  let seeded := { state with
    control := { state.control with ownerDid := some ownerDid, title, createdAt } }
  let ensured := ensureActiveMember seeded ownerDid .owner ownerDid createdAt
  .ok { ensured with
    keyEpochs := ensured.claimedEpochs ownerDid wasUnseeded
    control := { ensured.control with updatedAt := now } }

def updateRoomAccessPolicy (actorDid : String) (guests members hosts : Bool) (now : Nat) :
    RoomResult RoomState := do
  requireRoomOwnerSeeded state
  let actorRole ← requireActiveMemberRole state actorDid
  if actorRole ≠ .owner then
    .error (.message "only the room owner can update room access policy")
  .ok { state with control := { state.control with
    allowGuestInvites := guests
    allowMemberInvites := members
    allowMembersToHostGuests := hosts
    updatedAt := now } }

/-! ## 3. Invites -/

structure RoomInviteInput where
  actorDid : String
  invitedDid : String
  role : RoomRole
  inviterProfile : Option RoomProfileCardView
  claim : Option String

/-- `invite_room_member_with_profile`; the id of a new invite is drawn. -/
def inviteRoomMember (input : RoomInviteInput) (drawnId : String) (now : Nat) :
    RoomResult (RoomInviteView × RoomState) := do
  requireRoomOwnerSeeded state
  if !state.control.allowMemberInvites then
    .error (.message "ElastOS user invites are disabled for this conversation")
  let actorRole ← requireActiveMemberRole state input.actorDid
  if !canInviteRole actorRole input.role then
    .error (.message s!"{actorRoleLabel actorRole} cannot invite {roleDebug input.role}")
  if (activeMemberRecord state input.invitedDid).isSome then
    .error (.message "member is already active in the room")
  match state.invites.find? fun invite =>
      input.claim.isSome && invite.claimedJoinInviteEnvelopeSha256 = input.claim with
  | some existing =>
    if existing.status ≠ .pending then
      .error (.message "conversation join link is already settled")
    else if existing.invitedDid ≠ input.invitedDid ∨ existing.role ≠ input.role ∨
        existing.invitedBy ≠ input.actorDid ∨ existing.inviterProfile ≠ input.inviterProfile then
      .error (.message "conversation join link replay does not match the stored invite")
    else .ok (existing.view, state)
  | none =>
    match state.invites.find? fun invite =>
        invite.status = .pending && invite.invitedDid = input.invitedDid with
    | some existing =>
      if input.claim.isSome then
        .error (.message "member already has a different pending invite")
      else if existing.role ≠ input.role ∨ existing.invitedBy ≠ input.actorDid ∨
          existing.inviterProfile ≠ input.inviterProfile then
        .error (.message "pending invite already exists with different authority")
      else .ok (existing.view, state)
    | none =>
      let invite : RoomInviteRecord :=
        ⟨drawnId, input.invitedDid, input.role, input.actorDid, input.inviterProfile, now,
          now + INVITE_TTL_SECS, none, none, input.claim, .pending, none, none⟩
      .ok (invite.view, { state with
        invites := state.invites ++ [invite]
        control := { state.control with updatedAt := now } })

/-- The last part of `export_room_invite_envelope`: the digest of the envelope is kept. -/
def recordInviteEnvelope (inviteId envelopeSha256 : String) : RoomResult RoomState :=
  match state.invites.find? fun record => record.inviteId = inviteId with
  | none => .error (.message "invite disappeared before digest update")
  | some record =>
    match record.inviteEnvelopeSha256 with
    | some existing =>
      if existing ≠ envelopeSha256 then
        .error (.message "invite envelope digest does not match the stored invite")
      else .ok state
    | none => .ok { state with
        invites := modifyFirst (fun record => record.inviteId = inviteId)
          (fun record => { record with inviteEnvelopeSha256 := some envelopeSha256 })
          state.invites }

/-- The pending invite of an id for a DID. -/
def isPending (inviteId did : String) (invite : RoomInviteRecord) : Bool :=
  invite.inviteId = inviteId && invite.status = .pending && invite.invitedDid = did

def acceptRoomInviteInState (actorDid inviteId : String) (now : Nat) :
    RoomResult (RoomMemberView × RoomState) :=
  match state.invites.find? (isPending inviteId actorDid) with
  | none => .error (.message "invite is not pending for this DID")
  | some invite =>
    let state := { state with
      invites := modifyFirst (isPending inviteId actorDid) (fun invite => { invite with
        status := .accepted, actedAt := some now, actedBy := some actorDid }) state.invites }
    let ensured :=
      ensureActiveMemberWithProfile state actorDid invite.role invite.invitedBy now none
    let reason := s!"membership changed: {actorDid} accepted room invite"
    .ok (ensured.1.view, (rotateKeyEpochRecord ensured.2 actorDid reason now).2)

def revokeRoomInvite (actorDid inviteId : String) (now : Nat) :
    RoomResult (Option RoomInviteView × RoomState) := do
  requireRoomOwnerSeeded state
  let actorRole ← requireActiveMemberRole state actorDid
  let found : RoomInviteRecord → Bool := fun invite =>
    invite.inviteId = inviteId && invite.status = .pending
  match state.invites.find? found with
  | none => .ok (none, state)
  | some invite =>
    if !canInviteRole actorRole invite.role then
      .error (.message s!"{actorRoleLabel actorRole} cannot revoke {roleDebug invite.role} invites")
    else .ok (some invite.view, { state with
      invites := modifyFirst found (fun invite => { invite with
        status := .revoked, actedAt := some now, actedBy := some actorDid }) state.invites
      control := { state.control with updatedAt := now } })

/-! ## 4. Invites from elsewhere -/

end

structure ValidatedRoomInvite where
  envelopeSha256 : String
  payload : SignedRoomInvitePayload
  localProfileDid : String
  inviterProfile : VerifiedProfile

def validateRoomInviteEnvelope (envelope : SignedEnvelope SignedRoomInvitePayload)
    (localProfile : VerifiedProfile) (now : Nat) : RoomResult ValidatedRoomInvite := do
  if !envelope.signatureValid then .error .cause
  let payload := envelope.payload
  if payload.schema ≠ ROOM_INVITE_ENVELOPE_SCHEMA then
    .error (.message s!"unsupported room invite schema: {payload.schema}")
  if payload.roomSlug ≠ ROOM_SLUG then
    .error (.message s!"invite is for room '{payload.roomSlug}' not '{ROOM_SLUG}'")
  if !envelope.signerMatches then
    .error (.message "invite signer does not match envelope signer DID")
  let inviterProfile ← verifyRoomAuthorityProfile envelope payload.invitedByProfileDid
  let localDid ← normalizeMemberDid localProfile.profileDid
  let invitedDid ← normalizeMemberDid payload.invitedProfileDid
  if invitedDid ≠ localDid then
    .error (.message
      s!"invite is addressed to {invitedDid} but local signed Profile is {localDid}")
  if payload.expiresAt ≤ now then
    .error (.message s!"invite {payload.inviteId} is already expired")
  let ownerProfileDid ← normalizeMemberDid payload.ownerProfileDid
  .ok ⟨envelope.envelopeSha256,
    { payload with invitedProfileDid := invitedDid, ownerProfileDid }, localDid, inviterProfile⟩

/-- Whether a stored invite is the one an envelope was made from. -/
def inviteRecordMatchesImportedEnvelope (record : RoomInviteRecord)
    (payload : SignedRoomInvitePayload) (inviterProfile : VerifiedProfile)
    (localOwnerDid : Option String) : Bool :=
  record.inviteId = payload.inviteId && record.invitedDid = payload.invitedProfileDid &&
    record.role = payload.role && record.invitedBy = payload.invitedByProfileDid &&
    record.inviterProfile = some (roomProfileCardFromVerified inviterProfile) &&
    record.createdAt = payload.createdAt && record.expiresAt = payload.expiresAt &&
    localOwnerDid = some payload.ownerProfileDid

section

variable (state : RoomState)

/-- The record of an invite that is imported. -/
def ValidatedRoomInvite.record (invite : ValidatedRoomInvite) : RoomInviteRecord :=
  ⟨invite.payload.inviteId, invite.localProfileDid, invite.payload.role,
    invite.payload.invitedByProfileDid, some (roomProfileCardFromVerified invite.inviterProfile),
    invite.payload.createdAt, invite.payload.expiresAt, some invite.envelopeSha256, none, none,
    .pending, none, none⟩

/-- Whoever claims an owner of a room that has one claims that one. -/
def requireSameOwner (ownerDid claimant : String) : RoomResult Unit :=
  match state.control.ownerDid with
  | some existing =>
    if existing ≠ ownerDid then
      .error (.message
        s!"room owner mismatch: local room expects {existing} but {claimant} claims {ownerDid}")
    else .ok ()
  | none => .ok ()

/-- The control record and the members with what a new invite says of them. -/
def RoomState.withInviter (invite : ValidatedRoomInvite) (now : Nat) : RoomState :=
  let payload := invite.payload
  let roomWasUninitialized := state.control.ownerDid = none ∨ state.control.createdAt = 0
  let owned := { state with control := { state.control with
    ownerDid := some (state.control.ownerDid.getD payload.ownerProfileDid) } }
  let joined :=
    if payload.ownerProfileDid ≠ invite.localProfileDid then
      (ensureActiveMemberWithProfile owned payload.ownerProfileDid .owner payload.ownerProfileDid
        payload.createdAt (if payload.ownerProfileDid = payload.invitedByProfileDid then
          some (roomProfileCardFromVerified invite.inviterProfile) else none)).2
    else owned
  { joined with control := { joined.control with
    title := if roomWasUninitialized then payload.roomTitle else joined.control.title
    createdAt :=
      if joined.control.createdAt = 0 then payload.createdAt else joined.control.createdAt
    updatedAt := now
    currentKeyEpoch := max joined.control.currentKeyEpoch payload.currentKeyEpoch } }

def importRoomInviteIntoState (invite : ValidatedRoomInvite) (now : Nat) :
    RoomResult (RoomInviteView × RoomState) :=
  let payload := invite.payload
  match state.invites.find? (isPending payload.inviteId invite.localProfileDid) with
  | some existing =>
    match existing.inviteEnvelopeSha256 with
    | some existingSha256 =>
      if existingSha256 ≠ invite.envelopeSha256 then
        .error (.message "invite replay does not match the stored envelope")
      else .ok (existing.view, state)
    | none =>
      if !inviteRecordMatchesImportedEnvelope existing payload invite.inviterProfile
          state.control.ownerDid then
        .error (.message "invite replay conflicts with the stored pending invite")
      else .ok (existing.view, { state with
        invites := modifyFirst (isPending payload.inviteId invite.localProfileDid)
          (fun record => { record with inviteEnvelopeSha256 := some invite.envelopeSha256 })
          state.invites })
  | none =>
    if (activeMemberRecord state invite.localProfileDid).isSome then
      .error (.message "this device is already part of this conversation")
    else do
      requireSameOwner state payload.ownerProfileDid "invite"
      let joined := state.withInviter invite now
      .ok (invite.record.view, { joined with invites := joined.invites ++ [invite.record] })

/-- What `unused_local_conversation` asks of the state, before it counts files. -/
def looksUnused (localDid : String) : Bool :=
  let defaultMember :=
    match state.members with
    | [member] => member.memberDid = localDid && member.role = .owner &&
        member.addedAt = state.control.createdAt && member.addedBy = localDid && member.active &&
        member.profileCard = none && member.removedAt = none && member.removedBy = none
    | _ => false
  let defaultEpoch :=
    match state.keyEpochs with
    | [record] => record.epoch = 1 && record.createdAt = state.control.createdAt &&
        record.createdBy = localDid && record.reason = "initial room epoch"
    | _ => false
  let onlyLocalShellEvents := state.objects.all fun object =>
    object.kind = .system && object.senderMemberDid = some localDid &&
      (object.body = some "joined the room" || object.body = some "left the room") &&
      !object.emoji && !object.link && !object.attachment
  let onlyLocalSessions := state.sessions.all fun session => session.memberDid = some localDid
  state.schema = STATE_SCHEMA && state.roomSlug = ROOM_SLUG &&
    state.control.schema = STATE_SCHEMA && state.control.roomSlug = ROOM_SLUG &&
    state.control.title = "Chat" && 0 < state.control.createdAt &&
    state.control.createdAt ≤ state.control.updatedAt && state.control.currentKeyEpoch = 1 &&
    state.control.ownerDid = some localDid && state.control.allowGuestInvites &&
    state.control.allowMemberInvites && state.control.allowMembersToHostGuests &&
    defaultMember && defaultEpoch && state.invites = [] && state.pendingRequests = [] &&
    state.uploads = [] && onlyLocalSessions && onlyLocalShellEvents

/-- The numbers of files in the two directories, as far as they can be counted. -/
structure RoomDirs where
  attachments : RoomResult Nat
  uploads : RoomResult Nat

def unusedLocalConversation (dirs : RoomDirs) (localDid : String) : RoomResult Bool :=
  if !looksUnused state localDid then .ok false
  else do
    let attachments ← dirs.attachments
    if attachments ≠ 0 then .ok false
    else do
      let uploads ← dirs.uploads
      .ok (decide (uploads = 0))

def resetUnusedLocalConversation (now : Nat) : RoomState :=
  normalizeStateDefaults { state with
    nextSeq := 1
    control := .default
    members := []
    invites := []
    keyEpochs := []
    pendingRequests := []
    objects := []
    uploads := [] } now

/-- The state an invite is adopted in. -/
def preparedForAdoption (invite : ValidatedRoomInvite) (dirs : RoomDirs) (now : Nat) :
    RoomResult RoomState :=
  if state.control.ownerDid.any (· ≠ invite.payload.ownerProfileDid) then do
    let unused ← unusedLocalConversation state dirs invite.localProfileDid
    if !unused then
      .error (.message
        "room owner mismatch: the existing conversation is not an unused local bootstrap")
    else .ok (resetUnusedLocalConversation state now)
  else .ok state

/-- `adopt_room_invite_envelope`, after the envelope has been validated. -/
def adoptRoomInvite (invite : ValidatedRoomInvite) (dirs : RoomDirs) (now : Nat) :
    RoomResult ((RoomInviteView × RoomMemberView) × RoomState) := do
  let prepared ← preparedForAdoption state invite dirs now
  let imported ← importRoomInviteIntoState prepared invite now
  let accepted ←
    acceptRoomInviteInState imported.2 invite.localProfileDid imported.1.inviteId now
  .ok ((imported.1, accepted.1), accepted.2)

/-! ## 5. Acceptances from elsewhere -/

end

structure ValidatedRoomAcceptance where
  envelopeSha256 : String
  payload : SignedRoomAcceptPayload
  memberProfile : VerifiedProfile
  memberDid : String

/-- What `import_room_acceptance_envelope` checks before it takes the lock. -/
def validateRoomAcceptanceEnvelope (envelope : SignedEnvelope SignedRoomAcceptPayload) :
    RoomResult ValidatedRoomAcceptance := do
  if !envelope.signatureValid then .error .cause
  let payload := envelope.payload
  if payload.schema ≠ ROOM_ACCEPT_ENVELOPE_SCHEMA then
    .error (.message s!"unsupported room acceptance schema: {payload.schema}")
  if payload.roomSlug ≠ ROOM_SLUG then
    .error (.message s!"acceptance is for room '{payload.roomSlug}' not '{ROOM_SLUG}'")
  if !envelope.signerMatches then
    .error (.message "acceptance signer does not match envelope signer DID")
  let memberProfile ← verifyRoomAuthorityProfile envelope payload.memberProfileDid
  let memberDid ← normalizeMemberDid memberProfile.profileDid
  .ok ⟨envelope.envelopeSha256, payload, memberProfile, memberDid⟩

section

variable (state : RoomState)

/-- The invite an acceptance is for: the first of its id and of the accepting member. -/
def ValidatedRoomAcceptance.answers (acceptance : ValidatedRoomAcceptance)
    (invite : RoomInviteRecord) : Bool :=
  invite.inviteId = acceptance.payload.inviteId && invite.invitedDid = acceptance.memberDid

/-- The control record with what an acceptance says of the room. -/
def RoomState.withAcceptance (acceptance : ValidatedRoomAcceptance) (ownerDid : String) :
    RoomState :=
  { state with control := { state.control with
    ownerDid := some (state.control.ownerDid.getD ownerDid)
    title :=
      if trim state.control.title = "" then acceptance.payload.roomTitle
      else state.control.title
    currentKeyEpoch := max state.control.currentKeyEpoch acceptance.payload.currentKeyEpoch } }

/-- An acceptance of an invite that has been accepted: it must be the same one. -/
def replayAcceptance (acceptance : ValidatedRoomAcceptance) (invite : RoomInviteRecord) :
    RoomResult (RoomMemberView × RoomState) :=
  if ¬(invite.actedBy = some acceptance.memberDid ∧
      invite.actedAt = some acceptance.payload.acceptedAt) then
    .error (.message "acceptance replay conflicts with the stored invite")
  else if invite.acceptanceEnvelopeSha256.any (· ≠ acceptance.envelopeSha256) then
    .error (.message "acceptance replay does not match the stored envelope")
  else
    let kept := modifyFirst acceptance.answers (fun invite =>
      { invite with acceptanceEnvelopeSha256 := some acceptance.envelopeSha256 }) state.invites
    match activeMemberRecord state acceptance.memberDid with
    | none => .error (.message "accepted invite has no active member")
    | some existing =>
      let withCard : RoomMemberRecord → RoomMemberRecord := fun member =>
        { member with profileCard := some (roomProfileCardFromVerified acceptance.memberProfile) }
      .ok ((withCard existing).view, { state with
        invites := kept
        members := modifyFirst
          (fun member => member.active && member.memberDid = acceptance.memberDid) withCard
          state.members })

/-- An acceptance of a pending invite. -/
def enterAcceptance (acceptance : ValidatedRoomAcceptance) (invite : RoomInviteRecord) :
    RoomResult (RoomMemberView × RoomState) :=
  let payload := acceptance.payload
  if (activeMemberRecord state acceptance.memberDid).isSome then
    .error (.message "acceptance conflicts with an already-active member")
  else if invite.status ≠ .pending then
    .error (.message "invite is not pending for acceptance envelope")
  else
    let accepted := { state with
      invites := modifyFirst acceptance.answers (fun invite => { invite with
        status := .accepted
        actedAt := some payload.acceptedAt
        actedBy := some acceptance.memberDid
        acceptanceEnvelopeSha256 := some acceptance.envelopeSha256 }) state.invites }
    let ensured := ensureActiveMemberWithProfile accepted acceptance.memberDid payload.role
      payload.invitedByProfileDid payload.acceptedAt
      (some (roomProfileCardFromVerified acceptance.memberProfile))
    let reason := s!"membership changed: {acceptance.memberDid} accepted room invite"
    .ok (ensured.1.view,
      (rotateKeyEpochRecord ensured.2 acceptance.memberDid reason payload.acceptedAt).2)

def importRoomAcceptanceIntoState (acceptance : ValidatedRoomAcceptance) :
    RoomResult (RoomMemberView × RoomState) := do
  let payload := acceptance.payload
  let ownerDid ← normalizeMemberDid payload.ownerProfileDid
  requireSameOwner state ownerDid "acceptance"
  let claimed := state.withAcceptance acceptance ownerDid
  match claimed.invites.find? acceptance.answers with
  | none => .error (.message "invite not found for acceptance envelope")
  | some invite =>
    if invite.role ≠ payload.role then
      .error (.message (s!"invite role mismatch: local invite is {actorRoleLabel invite.role} " ++
        s!"but acceptance claims {actorRoleLabel payload.role}"))
    else if invite.invitedBy ≠ payload.invitedByProfileDid then
      .error (.message (s!"inviter mismatch: local invite is from {invite.invitedBy} " ++
        s!"but acceptance claims {payload.invitedByProfileDid}"))
    else if invite.status = .accepted then replayAcceptance claimed acceptance invite
    else enterAcceptance claimed acceptance invite

/-! ## 6. Removal, rotation and reset -/

def removeRoomMember (actorDid memberDid : String) (now : Nat) :
    RoomResult (Option RoomMemberView × RoomState) := do
  let actorRole ← requireActiveMemberRole state actorDid
  match activeMemberRecord state memberDid with
  | none => .ok (none, state)
  | some member =>
    if member.role = .owner then .error (.message "owner cannot be removed")
    else if !canRemoveRole actorRole member.role then
      .error (.message
        s!"{actorRoleLabel actorRole} cannot remove {actorRoleLabel member.role}")
    else
      let removed := { state with
        members := modifyFirst (fun member => member.active && member.memberDid = memberDid)
          (fun member => { member with
            active := false, removedAt := some now, removedBy := some actorDid }) state.members }
      let reason := s!"membership changed: {memberDid} removed from room"
      .ok (some member.view, (rotateKeyEpochRecord removed actorDid reason now).2)

def rotateRoomKeyEpoch (actorDid reason : String) (now : Nat) :
    RoomResult (RoomKeyEpochRecord × RoomState) := do
  let actorRole ← requireActiveMemberRole state actorDid
  if actorRole ≠ .owner then
    .error (.message "only the room owner can rotate room keys directly")
  .ok (rotateKeyEpochRecord state actorDid reason now)

/-- `reset_room`; counting and removing the files of the two directories may fail. -/
def resetRoom (dirs : RoomDirs) (removes : RoomResult Unit) (now : Nat) : RoomResult RoomState := do
  let _ ← dirs.attachments
  let objects := state.objects.filter fun object => object.collaborationScope.isSome
  let nextSeq :=
    match (objects.map ConversationObjectRecord.seq).max? with
    | some seq => max state.nextSeq (min (seq + 1) U64_MAX)
    | none => 1
  removes
  .ok { state with
    nextSeq
    control := { state.control with updatedAt := now }
    pendingRequests := []
    sessions := []
    objects
    uploads := [] }

/-- What the other operations may change: objects, requests, sessions and uploads. -/
structure RoomTraffic where
  nextSeq : Nat
  pendingRequests : List BrowserAccessRequestRecord
  sessions : List SessionRecord
  objects : List ConversationObjectRecord
  uploads : List UploadRecord

def RoomState.withTraffic (traffic : RoomTraffic) : RoomState :=
  { state with
    nextSeq := traffic.nextSeq
    pendingRequests := traffic.pendingRequests
    sessions := traffic.sessions
    objects := traffic.objects
    uploads := traffic.uploads }

end

end ElastosRuntime.Room
