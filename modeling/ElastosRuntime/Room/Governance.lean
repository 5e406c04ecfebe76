/-
# What an operation can do to the governance of a room

`Governance` is what of a room decides who belongs to it: its owner, its members, its invites and
its key epochs.  `Move` says once what each operation can do to it, guards included, and `run_move`
that every operation that is not refused does only that.

Adopting an invite is an import and an acceptance, after a reset where the room was an unused one.
-/
import ElastosRuntime.Room.System

namespace ElastosRuntime.Room

open Records Text

/-! ## 1. Governance -/

structure Governance where
  ownerDid : Option String
  current : Nat
  epochs : List Nat
  members : List RoomMemberRecord
  invites : List RoomInviteRecord

def RoomState.governance (state : RoomState) : Governance where
  ownerDid := state.control.ownerDid
  current := state.control.currentKeyEpoch
  epochs := state.keyEpochs.map RoomKeyEpochRecord.epoch
  members := state.members
  invites := state.invites

/-- The members with one of them made active. -/
def activate (members : List RoomMemberRecord) (memberDid : String) (role : RoomRole)
    (addedBy : String) (now : Nat) (profileCard : Option RoomProfileCardView) :
    List RoomMemberRecord :=
  match members.find? fun member => member.memberDid = memberDid with
  | some _ => modifyFirst (fun member => member.memberDid = memberDid)
      (fun member => member.activated role profileCard) members
  | none => members ++ [⟨memberDid, role, now, addedBy, true, profileCard, none, none⟩]

@[simp] theorem RoomMemberRecord.activated_memberDid (member : RoomMemberRecord) (role : RoomRole)
    (profileCard : Option RoomProfileCardView) :
    (member.activated role profileCard).memberDid = member.memberDid := rfl

def activeMember (members : List RoomMemberRecord) (did : String) : Option RoomMemberRecord :=
  members.find? fun member => member.active && member.memberDid = did

/-- A record of an invite that has at most other digests. -/
def RoomInviteRecord.SameInvite (invite other : RoomInviteRecord) : Prop :=
  other = { invite with
    inviteEnvelopeSha256 := other.inviteEnvelopeSha256
    acceptanceEnvelopeSha256 := other.acceptanceEnvelopeSha256 }

namespace Governance

def nextEpoch (g : Governance) : Nat :=
  match g.epochs.getLast? with
  | some epoch => epoch + 1
  | none => 1

def rotated (g : Governance) : Governance :=
  { g with current := g.nextEpoch, epochs := g.epochs ++ [g.nextEpoch] }

/-- With a new invite from elsewhere on record. -/
def imported (g : Governance) (invite : ValidatedRoomInvite) : Governance :=
  { g with
    ownerDid := some (g.ownerDid.getD invite.payload.ownerProfileDid)
    current := max g.current invite.payload.currentKeyEpoch
    members :=
      if invite.payload.ownerProfileDid ≠ invite.localProfileDid then
        activate g.members invite.payload.ownerProfileDid .owner invite.payload.ownerProfileDid
          invite.payload.createdAt
          (if invite.payload.ownerProfileDid = invite.payload.invitedByProfileDid then
            some (roomProfileCardFromVerified invite.inviterProfile) else none)
      else g.members
    invites := g.invites ++ [invite.record] }

/-- With the pending invite of an id accepted by a DID. -/
def accepted (g : Governance) (inviteId did : String) (invite : RoomInviteRecord) (now : Nat) :
    Governance :=
  rotated { g with
    invites := modifyFirst (isPending inviteId did) (fun invite => { invite with
      status := .accepted, actedAt := some now, actedBy := some did }) g.invites
    members := activate g.members did invite.role invite.invitedBy now none }

/-- With an invite accepted elsewhere. -/
def entered (g : Governance) (acceptance : ValidatedRoomAcceptance) (ownerDid : String) :
    Governance :=
  rotated { g with
    ownerDid := some (g.ownerDid.getD ownerDid)
    current := max g.current acceptance.payload.currentKeyEpoch
    invites := modifyFirst acceptance.answers (fun invite => { invite with
      status := .accepted
      actedAt := some acceptance.payload.acceptedAt
      actedBy := some acceptance.memberDid
      acceptanceEnvelopeSha256 := some acceptance.envelopeSha256 }) g.invites
    members := activate g.members acceptance.memberDid acceptance.payload.role
      acceptance.payload.invitedByProfileDid acceptance.payload.acceptedAt
      (some (roomProfileCardFromVerified acceptance.memberProfile)) }

/-- With the Profile card of an acceptance that was on record. -/
def replayed (g : Governance) (acceptance : ValidatedRoomAcceptance) (ownerDid : String) :
    Governance :=
  { g with
    ownerDid := some (g.ownerDid.getD ownerDid)
    current := max g.current acceptance.payload.currentKeyEpoch
    invites := modifyFirst acceptance.answers (fun invite =>
      { invite with acceptanceEnvelopeSha256 := some acceptance.envelopeSha256 }) g.invites
    members := modifyFirst
      (fun member => member.active && member.memberDid = acceptance.memberDid)
      (fun member => { member with
        profileCard := some (roomProfileCardFromVerified acceptance.memberProfile) }) g.members }

/-- With a member removed. -/
def removed (g : Governance) (actorDid did : String) (now : Nat) : Governance :=
  rotated { g with
    members := modifyFirst (fun member => member.active && member.memberDid = did)
      (fun member => { member with
        active := false, removedAt := some now, removedBy := some actorDid }) g.members }

/-! ## 2. Moves -/

/-- An invite that is stored: it is not on record as pending, to a DID that is not active, and names
the owner the room has, if it has one. -/
structure Imports (g : Governance) (invite : ValidatedRoomInvite) : Prop where
  hnone : g.invites.find? (isPending invite.payload.inviteId invite.localProfileDid) = none
  hinactive : activeMember g.members invite.localProfileDid = none
  howner : g.ownerDid = none ∨ g.ownerDid = some invite.payload.ownerProfileDid

/-- The invite of an acceptance, whose terms they agree on. -/
structure Answers (g : Governance) (acceptance : ValidatedRoomAcceptance) (ownerDid : String)
    (invite : RoomInviteRecord) : Prop where
  hownerDid : normalizeMemberDid acceptance.payload.ownerProfileDid = .ok ownerDid
  howner : g.ownerDid = none ∨ g.ownerDid = some ownerDid
  hfind : g.invites.find? acceptance.answers = some invite
  hrole : invite.role = acceptance.payload.role
  hinviter : invite.invitedBy = acceptance.payload.invitedByProfileDid

/-- An acceptance that is on record. -/
structure Replays (g : Governance) (acceptance : ValidatedRoomAcceptance) (ownerDid : String)
    (invite : RoomInviteRecord) : Prop extends Answers g acceptance ownerDid invite where
  haccepted : invite.status = .accepted
  hacted : invite.actedBy = some acceptance.memberDid ∧
    invite.actedAt = some acceptance.payload.acceptedAt
  hdigest : invite.acceptanceEnvelopeSha256.any (· ≠ acceptance.envelopeSha256) = false
  hactive : activeMember g.members acceptance.memberDid ≠ none

/-- An acceptance of a pending invite. -/
structure Enters (g : Governance) (acceptance : ValidatedRoomAcceptance) (ownerDid : String)
    (invite : RoomInviteRecord) : Prop extends Answers g acceptance ownerDid invite where
  hinactive : activeMember g.members acceptance.memberDid = none
  hpending : invite.status = .pending

/-- What importing an invite can do. -/
inductive ImportMove (g : Governance) (invite : ValidatedRoomInvite) : Governance → Prop
  | found {invites : List RoomInviteRecord}
      (hsame : List.Forall₂ RoomInviteRecord.SameInvite g.invites invites) :
      ImportMove g invite { g with invites }
  | stored (himports : g.Imports invite) : ImportMove g invite (g.imported invite)

end Governance

/-- A room that an invite of another owner may replace, and what is left of it. -/
structure Replaceable (state : RoomState) (invite : ValidatedRoomInvite) : Prop where
  howner : state.control.ownerDid.any (· ≠ invite.payload.ownerProfileDid) = true
  hunused : looksUnused state invite.localProfileDid = true

/-- The governance an invite is adopted in. -/
inductive AdoptionStart (state : RoomState) (invite : ValidatedRoomInvite) : Governance → Prop
  | same (howner : state.control.ownerDid.any (· ≠ invite.payload.ownerProfileDid) = false) :
      AdoptionStart state invite state.governance
  | fresh (hreplaceable : Replaceable state invite) :
      AdoptionStart state invite ⟨none, 1, [1], [], []⟩

open Governance in
/-- What an operation that is not refused can do to the state it is run on. -/
inductive Move (clock : Clock) (state : RoomState) : Operation → Governance → Prop
  | kept {op : Operation} : Move clock state op state.governance
  | seeded {input title ownerDid : String} {createdAt : Nat}
      (hfree : state.control.ownerDid = none ∨ state.control.ownerDid = some ownerDid) :
      Move clock state (.seedOwner input title) { state.governance with
        ownerDid := some ownerDid
        members := activate state.members ownerDid .owner ownerDid createdAt none }
  | invited {input : RoomInviteInput} {drawnId : String} {invite : RoomInviteRecord}
      (howner : state.control.ownerDid ≠ none)
      (hrole : ∃ role, canInviteRole role invite.role = true)
      (hinactive : activeMember state.members invite.invitedDid = none)
      (hid : invite.inviteId = drawnId) (hdid : normalizeMemberDid input.invitedDid = .ok
        invite.invitedDid)
      (hpending : invite.status = .pending) (hcreated : invite.createdAt = clock.now) :
      Move clock state (.invite input drawnId)
        { state.governance with invites := state.invites ++ [invite] }
  | noted {inviteId envelopeSha256 : String} {invites : List RoomInviteRecord}
      (hsame : List.Forall₂ RoomInviteRecord.SameInvite state.invites invites) :
      Move clock state (.recordEnvelope inviteId envelopeSha256) { state.governance with invites }
  | imported {envelope : SignedEnvelope SignedRoomInvitePayload} {localProfile : VerifiedProfile}
      {invite : ValidatedRoomInvite} {g : Governance}
      (hvalid : validateRoomInviteEnvelope envelope localProfile clock.checkedAt = .ok invite)
      (himport : ImportMove state.governance invite g) :
      Move clock state (.importInvite envelope localProfile) g
  | adopted {envelope : SignedEnvelope SignedRoomInvitePayload} {localProfile : VerifiedProfile}
      {dirs : RoomDirs} {invite : ValidatedRoomInvite} {record : RoomInviteRecord}
      {start mid : Governance}
      (hvalid : validateRoomInviteEnvelope envelope localProfile clock.checkedAt = .ok invite)
      (hstart : AdoptionStart state invite start) (himport : ImportMove start invite mid)
      (hfind : mid.invites.find? (isPending invite.payload.inviteId invite.localProfileDid) =
        some record) :
      Move clock state (.adoptInvite envelope localProfile dirs)
        (mid.accepted invite.payload.inviteId invite.localProfileDid record clock.now)
  | accepted {actorDid inviteId did : String} {invite : RoomInviteRecord}
      (hdid : normalizeMemberDid actorDid = .ok did)
      (hfind : state.invites.find? (isPending inviteId did) = some invite) :
      Move clock state (.accept actorDid inviteId)
        (state.governance.accepted inviteId did invite clock.now)
  | entered {envelope : SignedEnvelope SignedRoomAcceptPayload}
      {acceptance : ValidatedRoomAcceptance} {ownerDid : String} {invite : RoomInviteRecord}
      (hvalid : validateRoomAcceptanceEnvelope envelope = .ok acceptance)
      (henters : state.governance.Enters acceptance ownerDid invite) :
      Move clock state (.importAcceptance envelope) (state.governance.entered acceptance ownerDid)
  | replayed {envelope : SignedEnvelope SignedRoomAcceptPayload}
      {acceptance : ValidatedRoomAcceptance} {ownerDid : String} {invite : RoomInviteRecord}
      (hvalid : validateRoomAcceptanceEnvelope envelope = .ok acceptance)
      (hreplays : state.governance.Replays acceptance ownerDid invite) :
      Move clock state (.importAcceptance envelope)
        (state.governance.replayed acceptance ownerDid)
  | revoked {actorDid inviteId did : String} :
      Move clock state (.revoke actorDid inviteId) { state.governance with
        invites := modifyFirst (fun invite => invite.inviteId = inviteId &&
          invite.status = .pending) (fun invite => { invite with
            status := .revoked, actedAt := some clock.now, actedBy := some did }) state.invites }
  | removed {actorDid actor memberDid did : String} {member : RoomMemberRecord}
      (hdid : normalizeMemberDid memberDid = .ok did)
      (hfind : activeMember state.members did = some member) (hrole : member.role ≠ .owner) :
      Move clock state (.remove actorDid memberDid) (state.governance.removed actor did clock.now)
  | rotated {actorDid reason : String} :
      Move clock state (.rotate actorDid reason) state.governance.rotated

/-! ## 3. What the helpers do -/

section

variable {state : RoomState}

section

variable (memberDid : String) (role : RoomRole) (addedBy : String) (now : Nat)
  (profileCard : Option RoomProfileCardView)

@[simp] theorem ensureActiveMemberWithProfile_control :
    (ensureActiveMemberWithProfile state memberDid role addedBy now profileCard).2.control =
      state.control := by
  unfold ensureActiveMemberWithProfile
  split <;> rfl

@[simp] theorem ensureActiveMemberWithProfile_keyEpochs :
    (ensureActiveMemberWithProfile state memberDid role addedBy now profileCard).2.keyEpochs =
      state.keyEpochs := by
  unfold ensureActiveMemberWithProfile
  split <;> rfl

@[simp] theorem ensureActiveMemberWithProfile_invites :
    (ensureActiveMemberWithProfile state memberDid role addedBy now profileCard).2.invites =
      state.invites := by
  unfold ensureActiveMemberWithProfile
  split <;> rfl

@[simp] theorem ensureActiveMemberWithProfile_members :
    (ensureActiveMemberWithProfile state memberDid role addedBy now profileCard).2.members =
      activate state.members memberDid role addedBy now profileCard := by
  unfold ensureActiveMemberWithProfile activate
  cases state.members.find? fun member => member.memberDid = memberDid <;> rfl

end

theorem ensureActiveMemberWithProfile_governance (memberDid : String) (role : RoomRole)
    (addedBy : String) (now : Nat) (profileCard : Option RoomProfileCardView) :
    (ensureActiveMemberWithProfile state memberDid role addedBy now profileCard).2.governance =
      { state.governance with
        members := activate state.members memberDid role addedBy now profileCard } := by
  simp [RoomState.governance]

theorem rotateKeyEpochRecord_governance (actorDid reason : String) (now : Nat) :
    (rotateKeyEpochRecord state actorDid reason now).2.governance = state.governance.rotated := by
  have hnext : state.governance.nextEpoch =
      (rotateKeyEpochRecord state actorDid reason now).1.epoch := by
    unfold Governance.nextEpoch rotateKeyEpochRecord
    rw [show state.governance.epochs.getLast? =
      state.keyEpochs.getLast?.map RoomKeyEpochRecord.epoch from List.getLast?_map ..]
    cases state.keyEpochs.getLast? <;> rfl
  unfold Governance.rotated
  rw [hnext]
  simp [RoomState.governance, rotateKeyEpochRecord]

theorem epochs_claimedEpochs (ownerDid : String) (wasUnseeded : Bool) :
    (state.claimedEpochs ownerDid wasUnseeded).map RoomKeyEpochRecord.epoch =
      state.keyEpochs.map RoomKeyEpochRecord.epoch := by
  unfold RoomState.claimedEpochs
  split
  · rename_i record hone
    split <;> simp [hone]
  · rfl

theorem sameInvite_refl (invites : List RoomInviteRecord) :
    List.Forall₂ RoomInviteRecord.SameInvite invites invites :=
  List.forall₂_same.mpr fun _ _ => rfl

/-- Changing the digests of one record. -/
theorem sameInvite_modifyFirst {p : RoomInviteRecord → Bool}
    {f : RoomInviteRecord → RoomInviteRecord}
    (hf : ∀ invite : RoomInviteRecord, invite.SameInvite (f invite)) :
    ∀ invites : List RoomInviteRecord,
      List.Forall₂ RoomInviteRecord.SameInvite invites (modifyFirst p f invites)
  | [] => .nil
  | invite :: invites => by
    rw [modifyFirst]
    split
    · exact .cons (hf invite) (sameInvite_refl invites)
    · exact .cons rfl (sameInvite_modifyFirst hf invites)

theorem requireSameOwner_eq_ok {ownerDid claimant : String} {u : Unit} :
    requireSameOwner state ownerDid claimant = .ok u ↔
      state.control.ownerDid = none ∨ state.control.ownerDid = some ownerDid := by
  unfold requireSameOwner
  cases howner : state.control.ownerDid with
  | none => simp
  | some existing => by_cases h : existing = ownerDid <;> simp [h]

/-- What follows a check that refuses. -/
theorem refuse_eq_ok {β : Type} {c : Prop} [Decidable c] {e : RoomError} {f : Unit → RoomResult β}
    {b : β} : (if c then (Except.error e : RoomResult Unit) >>= f else f ()) = .ok b ↔
      ¬c ∧ f () = .ok b := by
  by_cases hc : c <;> simp [hc, bind, Except.bind]

theorem isPending_iff {inviteId did : String} {invite : RoomInviteRecord} :
    isPending inviteId did invite = true ↔
      invite.inviteId = inviteId ∧ invite.status = .pending ∧ invite.invitedDid = did := by
  simp [isPending, and_assoc]

end

/-! ## 4. Loading -/

/-- The governance of what the files hold, before any repair. -/
def RoomFiles.governance (files : RoomFiles) : Governance := (loadSplitState files).governance

/-- What loading repairs: the epochs of a new room, and the owner's membership. -/
def Governance.repaired (g : Governance) (createdAt : Nat) : Governance :=
  { g with
    current := if g.current = 0 then 1 else g.current
    epochs := if g.epochs = [] then [if g.current = 0 then 1 else g.current] else g.epochs
    members :=
      match g.ownerDid with
      | some ownerDid => activate g.members ownerDid .owner ownerDid createdAt none
      | none => g.members }

theorem normalize_governance (state : RoomState) (now : Nat) :
    (normalizeStateDefaults state now).governance =
      state.governance.repaired (if state.control.createdAt = 0 then now
        else state.control.createdAt) := by
  unfold normalizeStateDefaults Governance.repaired
  cases howner : state.control.ownerDid with
  | none =>
    by_cases hepochs : state.keyEpochs = [] <;>
      simp [RoomState.governance, RoomControlRecord.normalized, howner, hepochs,
        RoomControlRecord.initialEpoch]
  | some ownerDid =>
    by_cases hepochs : state.keyEpochs = [] <;>
      simp [RoomState.governance, RoomControlRecord.normalized, howner, hepochs,
        RoomControlRecord.initialEpoch, ensureActiveMember]

theorem loadState_governance (now : Nat) (files : RoomFiles) :
    ∃ createdAt, (loadState now files).governance = files.governance.repaired createdAt := by
  have hload : loadState now files = normalizeStateDefaults (loadSplitState files) now := by
    unfold loadState
    split
    · rename_i habsent
      rw [habsent]
      rfl
    · rfl
  rw [hload, normalize_governance]
  exact ⟨_, rfl⟩

theorem expire_governance (state : RoomState) (now : Nat) :
    (expireStateInPlace state now).governance =
      { state.governance with invites := state.invites.map (·.afterExpiry now) } := rfl

theorem room_governance (w : World) :
    ∃ createdAt, w.room.governance = w.files.governance.repaired createdAt :=
  loadState_governance w.time w.files

theorem loaded_governance (w : World) (clock : Clock) :
    ∃ createdAt, (w.loaded clock).governance = { w.files.governance.repaired createdAt with
      invites := w.files.governance.invites.map (·.afterExpiry clock.loadedAt) } := by
  obtain ⟨createdAt, hload⟩ := loadState_governance clock.loadedAt w.files
  refine ⟨createdAt, ?_⟩
  have hinvites : (loadState clock.loadedAt w.files).invites = w.files.governance.invites :=
    congrArg Governance.invites hload
  unfold World.loaded
  rw [expire_governance, hload, hinvites]

theorem saveState_governance (state : RoomState) :
    (saveState state).governance = state.governance := by
  simp only [RoomFiles.governance, loadSplitState, saveState, RoomState.governance, Option.getD_some]

/-! ## 5. What the operations do -/

section

variable {state state' : RoomState} {clock : Clock}

theorem withInviter_governance (invite : ValidatedRoomInvite) (now : Nat) :
    { state.withInviter invite now with
      invites := (state.withInviter invite now).invites ++ [invite.record] }.governance =
      state.governance.imported invite := by
  unfold RoomState.withInviter
  by_cases howner : invite.payload.ownerProfileDid ≠ invite.localProfileDid
  · simp [howner, RoomState.governance, Governance.imported]
  · simp [howner, RoomState.governance, Governance.imported]

variable {invite : ValidatedRoomInvite} {now : Nat}

variable {view : RoomInviteView}

theorem importRoomInvite_cases
    (h : importRoomInviteIntoState state invite now = .ok (view, state')) :
    view.inviteId = invite.payload.inviteId ∧
      Governance.ImportMove state.governance invite state'.governance := by
  unfold importRoomInviteIntoState at h
  dsimp only at h
  split at h
  · rename_i existing hfind
    have hid : existing.view.inviteId = invite.payload.inviteId :=
      (isPending_iff.mp (List.find?_some hfind)).1
    split at h
    · split at h
      · cases h
      · cases h
        exact ⟨hid, .found (sameInvite_refl _)⟩
    · split at h
      · cases h
      · cases h
        exact ⟨hid, .found (sameInvite_modifyFirst (f := fun record => { record with
          inviteEnvelopeSha256 := some invite.envelopeSha256 }) (fun _ => rfl) _)⟩
  · rename_i hnone
    split at h
    · cases h
    · rename_i hinactive
      obtain ⟨_, howner, h⟩ := bind_eq_ok.mp h
      cases h
      rw [withInviter_governance]
      exact ⟨rfl, .stored ⟨hnone, Option.not_isSome_iff_eq_none.mp hinactive,
        requireSameOwner_eq_ok.mp howner⟩⟩

/-- An invite that can be stored is. -/
theorem importRoomInvite_stored (now : Nat) (h : state.governance.Imports invite) :
    ∃ view state', importRoomInviteIntoState state invite now = .ok (view, state') ∧
      state'.governance = state.governance.imported invite := by
  have hnone : state.invites.find? (isPending invite.payload.inviteId invite.localProfileDid) =
    none := h.hnone
  have hinactive : activeMemberRecord state invite.localProfileDid = none := h.hinactive
  have howner : requireSameOwner state invite.payload.ownerProfileDid "invite" = .ok () :=
    requireSameOwner_eq_ok.mpr h.howner
  refine ⟨invite.record.view, { state.withInviter invite now with
    invites := (state.withInviter invite now).invites ++ [invite.record] }, ?_,
    withInviter_governance invite now⟩
  simp only [importRoomInviteIntoState, hnone, hinactive, Option.isSome_none, Bool.false_eq_true,
    if_false, howner]
  rfl

variable {did inviteId actorDid : String}

theorem acceptRoomInvite_governance {view : RoomMemberView}
    (h : acceptRoomInviteInState state did inviteId now = .ok (view, state')) :
    ∃ invite, state.invites.find? (isPending inviteId did) = some invite ∧
      state'.governance = state.governance.accepted inviteId did invite now := by
  unfold acceptRoomInviteInState at h
  split at h
  · cases h
  · rename_i invite hfind
    cases h
    refine ⟨invite, hfind, ?_⟩
    rw [rotateKeyEpochRecord_governance, ensureActiveMemberWithProfile_governance]
    rfl

theorem resetUnused_governance (now : Nat) :
    (resetUnusedLocalConversation state now).governance = ⟨none, 1, [1], [], []⟩ := rfl

theorem preparedForAdoption_governance {dirs : RoomDirs}
    (h : preparedForAdoption state invite dirs now = .ok state') :
    AdoptionStart state invite state'.governance := by
  unfold preparedForAdoption at h
  split at h
  · rename_i howner
    obtain ⟨unused, hunused, h⟩ := bind_eq_ok.mp h
    split at h
    · cases h
    · rename_i hdone
      cases h
      rw [resetUnused_governance]
      refine .fresh ⟨howner, ?_⟩
      unfold unusedLocalConversation at hunused
      split at hunused
      · cases hunused
        exact absurd rfl hdone
      · rename_i hlooks
        simpa using hlooks
  · rename_i howner
    cases h
    exact .same (by simpa using howner)

variable {acceptance : ValidatedRoomAcceptance}

/-- What importing an acceptance does, where it is not refused. -/
theorem importRoomAcceptance_cases {view : RoomMemberView}
    (h : importRoomAcceptanceIntoState state acceptance = .ok (view, state')) :
    (∃ ownerDid invite, state.governance.Enters acceptance ownerDid invite ∧
      state'.governance = state.governance.entered acceptance ownerDid) ∨
    (∃ ownerDid invite, state.governance.Replays acceptance ownerDid invite ∧
      state'.governance = state.governance.replayed acceptance ownerDid) := by
  obtain ⟨ownerDid, hownerDid, h⟩ := bind_eq_ok.mp h
  obtain ⟨_, howner, h⟩ := bind_eq_ok.mp h
  have howner := requireSameOwner_eq_ok.mp howner
  dsimp only at h
  split at h
  · cases h
  · rename_i invite hfind
    split at h
    · cases h
    · rename_i hrole
      split at h
      · cases h
      · rename_i hinviter
        have hanswers : state.governance.Answers acceptance ownerDid invite :=
          ⟨hownerDid, howner, hfind, not_not.mp hrole, not_not.mp hinviter⟩
        split at h
        · rename_i haccepted
          right
          unfold replayAcceptance at h
          split at h
          · cases h
          · rename_i hacted
            split at h
            · cases h
            · rename_i hdigest
              dsimp only at h
              split at h
              · cases h
              · rename_i existing hactive
                cases h
                refine ⟨ownerDid, invite, ⟨hanswers, haccepted, not_not.mp hacted, ?_, ?_⟩, ?_⟩
                · simpa using hdigest
                · exact fun hnone => Option.some_ne_none existing (hactive.symm.trans hnone)
                · simp only [RoomState.governance, Governance.replayed, RoomState.withAcceptance]
        · left
          unfold enterAcceptance at h
          dsimp only at h
          split at h
          · cases h
          · rename_i hinactive
            split at h
            · cases h
            · rename_i hpending
              cases h
              refine ⟨ownerDid, invite, ⟨hanswers, ?_, not_not.mp hpending⟩, ?_⟩
              · exact Option.not_isSome_iff_eq_none.mp hinactive
              · rw [rotateKeyEpochRecord_governance, ensureActiveMemberWithProfile_governance]
                simp only [RoomState.governance, Governance.entered, RoomState.withAcceptance]

/-- An acceptance that is on record is imported again. -/
theorem importRoomAcceptance_replayed {ownerDid : String} {invite : RoomInviteRecord}
    (h : state.governance.Replays acceptance ownerDid invite) :
    ∃ view state', importRoomAcceptanceIntoState state acceptance = .ok (view, state') ∧
      state'.governance = state.governance.replayed acceptance ownerDid := by
  obtain ⟨existing, hactive⟩ := Option.ne_none_iff_exists'.mp h.hactive
  have howner : requireSameOwner state ownerDid "acceptance" = .ok () :=
    requireSameOwner_eq_ok.mpr h.howner
  have hfind : (state.withAcceptance acceptance ownerDid).invites.find? acceptance.answers =
    some invite := h.hfind
  have hactive' : activeMemberRecord (state.withAcceptance acceptance ownerDid)
    acceptance.memberDid = some existing := hactive
  have hreplay : ∃ done, replayAcceptance (state.withAcceptance acceptance ownerDid) acceptance
      invite = .ok done := by
    unfold replayAcceptance
    rw [if_neg (not_not.mpr h.hacted), if_neg (by rw [h.hdigest]; exact Bool.false_ne_true),
      hactive']
    exact ⟨_, rfl⟩
  obtain ⟨⟨view, state'⟩, hreplay⟩ := hreplay
  have hok : importRoomAcceptanceIntoState state acceptance = .ok (view, state') := by
    unfold importRoomAcceptanceIntoState
    refine bind_eq_ok.mpr ⟨ownerDid, h.hownerDid, bind_eq_ok.mpr ⟨(), howner, ?_⟩⟩
    simp only [hfind]
    rw [if_neg (not_not.mpr h.hrole), if_neg (not_not.mpr h.hinviter), if_pos h.haccepted, hreplay]
  refine ⟨view, state', hok, ?_⟩
  rcases importRoomAcceptance_cases hok with ⟨_, other, henters, _⟩ | ⟨other, _, hreplays, hdone⟩
  · have hsame : other = invite := Option.some.inj (henters.hfind.symm.trans h.hfind)
    have hpending := henters.hpending
    rw [hsame, h.haccepted] at hpending
    cases hpending
  · have hsame : other = ownerDid := Except.ok.inj (hreplays.hownerDid.symm.trans h.hownerDid)
    rw [hdone, hsame]

theorem seedRoomOwner_move {input title ownerDid roomTitle : String}
    (h : seedRoomOwner state ownerDid roomTitle now = .ok state') :
    Move clock state (.seedOwner input title) state'.governance := by
  obtain ⟨_, hunowned, h⟩ := bind_eq_ok.mp h
  have hfree : state.control.ownerDid = none ∨ state.control.ownerDid = some ownerDid := by
    unfold requireUnownedOr at hunowned
    cases howner : state.control.ownerDid with
    | none => exact Or.inl rfl
    | some existing =>
      simp only [howner] at hunowned
      split at hunowned
      · cases hunowned
      · rename_i hsame
        exact Or.inr (congrArg some (not_not.mp hsame))
  cases h
  have hmove : Move clock state (.seedOwner input title) { state.governance with
      ownerDid := some ownerDid
      members := activate state.members ownerDid .owner ownerDid
        (if state.control.createdAt = 0 then now else state.control.createdAt) none } :=
    .seeded hfree
  simpa [RoomState.governance, ensureActiveMember, epochs_claimedEpochs] using hmove

theorem inviteRoomMember_move {input : RoomInviteInput} {invitedDid drawnId : String}
    (hdid : normalizeMemberDid input.invitedDid = .ok invitedDid)
    (h : inviteRoomMember state { input with actorDid, invitedDid } drawnId clock.now = .ok (view,
      state')) :
    Move clock state (.invite input drawnId) state'.governance := by
  unfold inviteRoomMember at h
  obtain ⟨_, hseeded, h⟩ := bind_eq_ok.mp h
  obtain ⟨_, h⟩ := refuse_eq_ok.mp h
  obtain ⟨actorRole, hactor, h⟩ := bind_eq_ok.mp h
  obtain ⟨hcan, h⟩ := refuse_eq_ok.mp h
  obtain ⟨hinactive, h⟩ := refuse_eq_ok.mp h
  split at h
  · split at h
    · cases h
    · split at h
      · cases h
      · cases h
        exact .kept
  · split at h
    · split at h
      · cases h
      · split at h
        · cases h
        · cases h
          exact .kept
    · have howner : state.control.ownerDid ≠ none := by
        intro hnone
        rw [requireRoomOwnerSeeded, if_pos hnone] at hseeded
        cases hseeded
      cases h
      have hmove : Move clock state (.invite input drawnId) { state.governance with
          invites := state.invites ++ [⟨drawnId, invitedDid, input.role, actorDid,
            input.inviterProfile, clock.now, clock.now + INVITE_TTL_SECS, none, none, input.claim,
            .pending, none, none⟩] } :=
        .invited howner ⟨actorRole, by simpa using hcan⟩
          (Option.not_isSome_iff_eq_none.mp hinactive) rfl hdid rfl rfl
      exact hmove

theorem recordInviteEnvelope_move {envelopeSha256 : String}
    (h : recordInviteEnvelope state inviteId envelopeSha256 = .ok state') :
    Move clock state (.recordEnvelope inviteId envelopeSha256) state'.governance := by
  unfold recordInviteEnvelope at h
  split at h
  · cases h
  · split at h
    · split at h
      · cases h
      · cases h
        exact .kept
    · cases h
      exact .noted (sameInvite_modifyFirst (f := fun record => { record with
        inviteEnvelopeSha256 := some envelopeSha256 }) (fun _ => rfl) _)

theorem adoptRoomInvite_move {envelope : SignedEnvelope SignedRoomInvitePayload}
    {localProfile : VerifiedProfile} {dirs : RoomDirs} {views : RoomInviteView × RoomMemberView}
    (hvalid : validateRoomInviteEnvelope envelope localProfile clock.checkedAt = .ok invite)
    (h : adoptRoomInvite state invite dirs clock.now = .ok (views, state')) :
    Move clock state (.adoptInvite envelope localProfile dirs) state'.governance := by
  obtain ⟨prepared, hprepared, h⟩ := bind_eq_ok.mp h
  obtain ⟨⟨view, imported⟩, himport, h⟩ := bind_eq_ok.mp h
  obtain ⟨⟨member, accepted⟩, haccept, h⟩ := bind_eq_ok.mp h
  cases h
  obtain ⟨hid, himport⟩ := importRoomInvite_cases himport
  obtain ⟨record, hfind, hgovernance⟩ := acceptRoomInvite_governance haccept
  dsimp only at hfind hgovernance
  rw [hid] at hfind hgovernance
  rw [hgovernance]
  exact .adopted hvalid (preparedForAdoption_governance hprepared) himport hfind

theorem revokeRoomInvite_move {view : Option RoomInviteView}
    (h : revokeRoomInvite state did inviteId clock.now = .ok (view, state')) :
    Move clock state (.revoke actorDid inviteId) state'.governance := by
  obtain ⟨_, _, h⟩ := bind_eq_ok.mp h
  obtain ⟨actorRole, _, h⟩ := bind_eq_ok.mp h
  dsimp only at h
  split at h
  · cases h
    exact .kept
  · split at h
    · cases h
    · cases h
      exact .revoked

theorem removeRoomMember_move {memberDid actor : String} {view : Option RoomMemberView}
    (hdid : normalizeMemberDid memberDid = .ok did)
    (h : removeRoomMember state actor did clock.now = .ok (view, state')) :
    Move clock state (.remove actorDid memberDid) state'.governance := by
  obtain ⟨actorRole, _, h⟩ := bind_eq_ok.mp h
  split at h
  · cases h
    exact .kept
  · rename_i member hmember
    split at h
    · cases h
    · rename_i hrole
      split at h
      · cases h
      · cases h
        rw [rotateKeyEpochRecord_governance]
        exact .removed hdid hmember hrole

theorem run_move {op : Operation} {f : RoomState → RoomResult RoomState}
    (hrun : op.run clock = .ok f) (h : f state = .ok state') :
    Move clock state op state'.governance := by
  cases op with
  | seedOwner ownerDid title =>
    obtain ⟨_, _, hrun⟩ := bind_eq_ok.mp hrun
    obtain ⟨_, _, hrun⟩ := bind_eq_ok.mp hrun
    cases hrun
    exact seedRoomOwner_move h
  | updatePolicy actorDid guests members hosts =>
    obtain ⟨_, _, hrun⟩ := bind_eq_ok.mp hrun
    cases hrun
    obtain ⟨_, _, h⟩ := bind_eq_ok.mp h
    obtain ⟨_, _, h⟩ := bind_eq_ok.mp h
    split at h
    · cases h
    · cases h
      exact .kept
  | invite input drawnId =>
    obtain ⟨actorDid, _, hrun⟩ := bind_eq_ok.mp hrun
    obtain ⟨invitedDid, hdid, hrun⟩ := bind_eq_ok.mp hrun
    split at hrun
    · cases hrun
    · cases hrun
      obtain ⟨⟨view, done⟩, hdone, rfl⟩ := map_eq_ok.mp h
      exact inviteRoomMember_move hdid hdone
  | recordEnvelope inviteId envelopeSha256 =>
    cases hrun
    exact recordInviteEnvelope_move h
  | importInvite envelope localProfile =>
    obtain ⟨invite, hvalid, hrun⟩ := bind_eq_ok.mp hrun
    cases hrun
    obtain ⟨⟨view, done⟩, hdone, rfl⟩ := map_eq_ok.mp h
    exact .imported hvalid (importRoomInvite_cases hdone).2
  | adoptInvite envelope localProfile dirs =>
    obtain ⟨invite, hvalid, hrun⟩ := bind_eq_ok.mp hrun
    cases hrun
    obtain ⟨⟨views, done⟩, hdone, rfl⟩ := map_eq_ok.mp h
    exact adoptRoomInvite_move hvalid hdone
  | accept actorDid inviteId =>
    obtain ⟨did, hdid, hrun⟩ := bind_eq_ok.mp hrun
    cases hrun
    obtain ⟨⟨view, done⟩, hdone, rfl⟩ := map_eq_ok.mp h
    obtain ⟨invite, hfind, hgovernance⟩ := acceptRoomInvite_governance hdone
    rw [hgovernance]
    exact .accepted hdid hfind
  | importAcceptance envelope =>
    obtain ⟨acceptance, hvalid, hrun⟩ := bind_eq_ok.mp hrun
    cases hrun
    obtain ⟨⟨view, done⟩, hdone, rfl⟩ := map_eq_ok.mp h
    rcases importRoomAcceptance_cases hdone with ⟨_, _, henters, hg⟩ | ⟨_, _, hreplays, hg⟩
    · rw [hg]
      exact .entered hvalid henters
    · rw [hg]
      exact .replayed hvalid hreplays
  | revoke actorDid inviteId =>
    obtain ⟨did, _, hrun⟩ := bind_eq_ok.mp hrun
    cases hrun
    obtain ⟨⟨view, done⟩, hdone, rfl⟩ := map_eq_ok.mp h
    exact revokeRoomInvite_move hdone
  | remove actorDid memberDid =>
    obtain ⟨actor, _, hrun⟩ := bind_eq_ok.mp hrun
    obtain ⟨did, hdid, hrun⟩ := bind_eq_ok.mp hrun
    cases hrun
    obtain ⟨⟨view, done⟩, hdone, rfl⟩ := map_eq_ok.mp h
    exact removeRoomMember_move hdid hdone
  | rotate actorDid reason =>
    obtain ⟨actor, _, hrun⟩ := bind_eq_ok.mp hrun
    obtain ⟨why, _, hrun⟩ := bind_eq_ok.mp hrun
    cases hrun
    obtain ⟨⟨record, done⟩, hdone, rfl⟩ := map_eq_ok.mp h
    obtain ⟨actorRole, _, hdone⟩ := bind_eq_ok.mp hdone
    obtain ⟨_, hdone⟩ := refuse_eq_ok.mp hdone
    have hsame := congrArg Prod.snd (Except.ok.inj hdone)
    dsimp only at hsame
    rw [← hsame, rotateKeyEpochRecord_governance]
    exact .rotated
  | reset dirs removes =>
    cases hrun
    obtain ⟨_, _, h⟩ := bind_eq_ok.mp h
    obtain ⟨_, _, h⟩ := bind_eq_ok.mp h
    cases h
    exact .kept
  | other traffic =>
    cases hrun
    cases h
    exact .kept

end

end ElastosRuntime.Room
