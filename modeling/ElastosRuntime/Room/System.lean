/-
# Runs of the room operations

One device's room under any sequence of operations, each at a time.  The clock does not go back; an
operation reads it when it checks its input, when it has loaded the state, and when it acts.
-/
import ElastosRuntime.Room.Operations
import ElastosRuntime.Lib.Transition

namespace ElastosRuntime.Room

open Records Text

/-! ## 1. Operations and steps -/

structure Clock where
  checkedAt : Nat
  loadedAt : Nat
  now : Nat

/-- An operation with its input.  `other` is any operation that leaves the control record, the
members, the invites and the key epochs alone. -/
inductive Operation where
  | seedOwner (ownerDid title : String)
  | updatePolicy (actorDid : String) (guests members hosts : Bool)
  | invite (input : RoomInviteInput) (drawnId : String)
  | recordEnvelope (inviteId envelopeSha256 : String)
  | importInvite (envelope : SignedEnvelope SignedRoomInvitePayload)
      (localProfile : VerifiedProfile)
  | adoptInvite (envelope : SignedEnvelope SignedRoomInvitePayload)
      (localProfile : VerifiedProfile) (dirs : RoomDirs)
  | accept (actorDid inviteId : String)
  | importAcceptance (envelope : SignedEnvelope SignedRoomAcceptPayload)
  | revoke (actorDid inviteId : String)
  | remove (actorDid memberDid : String)
  | rotate (actorDid reason : String)
  | reset (dirs : RoomDirs) (removes : RoomResult Unit)
  | other (traffic : RoomTraffic)

/-- What an operation does to the loaded state, once its input has been checked. -/
def Operation.run (clock : Clock) : Operation → RoomResult (RoomState → RoomResult RoomState)
  | .seedOwner ownerDid title => do
    let ownerDid ← normalizeMemberDid ownerDid
    let title ← normalizeRoomTitle title
    .ok fun state => seedRoomOwner state ownerDid title clock.now
  | .updatePolicy actorDid guests members hosts => do
    let actorDid ← normalizeMemberDid actorDid
    .ok fun state => updateRoomAccessPolicy state actorDid guests members hosts clock.now
  | .invite input drawnId => do
    let actorDid ← normalizeMemberDid input.actorDid
    let invitedDid ← normalizeMemberDid input.invitedDid
    if actorDid = invitedDid then .error (.message "actor DID must differ from invited DID")
    .ok fun state =>
      (inviteRoomMember state { input with actorDid, invitedDid } drawnId clock.now).map Prod.snd
  | .recordEnvelope inviteId envelopeSha256 =>
    .ok fun state => recordInviteEnvelope state inviteId envelopeSha256
  | .importInvite envelope localProfile => do
    let invite ← validateRoomInviteEnvelope envelope localProfile clock.checkedAt
    .ok fun state => (importRoomInviteIntoState state invite clock.now).map Prod.snd
  | .adoptInvite envelope localProfile dirs => do
    let invite ← validateRoomInviteEnvelope envelope localProfile clock.checkedAt
    .ok fun state => (adoptRoomInvite state invite dirs clock.now).map Prod.snd
  | .accept actorDid inviteId => do
    let actorDid ← normalizeMemberDid actorDid
    .ok fun state => (acceptRoomInviteInState state actorDid inviteId clock.now).map Prod.snd
  | .importAcceptance envelope => do
    let acceptance ← validateRoomAcceptanceEnvelope envelope
    .ok fun state => (importRoomAcceptanceIntoState state acceptance).map Prod.snd
  | .revoke actorDid inviteId => do
    let actorDid ← normalizeMemberDid actorDid
    .ok fun state => (revokeRoomInvite state actorDid inviteId clock.now).map Prod.snd
  | .remove actorDid memberDid => do
    let actorDid ← normalizeMemberDid actorDid
    let memberDid ← normalizeMemberDid memberDid
    .ok fun state => (removeRoomMember state actorDid memberDid clock.now).map Prod.snd
  | .rotate actorDid reason => do
    let actorDid ← normalizeMemberDid actorDid
    let reason ← normalizeKeyRotationReason reason
    .ok fun state => (rotateRoomKeyEpoch state actorDid reason clock.now).map Prod.snd
  | .reset dirs removes => .ok fun state => resetRoom state dirs removes clock.now
  | .other traffic => .ok fun state => .ok (state.withTraffic traffic)

structure World where
  files : RoomFiles
  time : Nat

def World.empty : World := ⟨.absent, 0⟩

/-- What the next operation finds. -/
def World.room (w : World) : RoomState := loadState w.time w.files

/-- The state an operation is run on. -/
def World.loaded (w : World) (clock : Clock) : RoomState :=
  expireStateInPlace (loadState clock.loadedAt w.files) clock.loadedAt

abbrev Label := Operation × Clock

def step (w : World) (l : Label) : Option World :=
  if w.time ≤ l.2.checkedAt ∧ l.2.checkedAt ≤ l.2.loadedAt ∧ l.2.loadedAt ≤ l.2.now then
    match l.1.run l.2 with
    | .error _ => some { w with time := l.2.now }
    | .ok f =>
      let done := withLockedState l.2.loadedAt w.files fun state => (f state).map fun s => ((), s)
      some ⟨done.2, l.2.now⟩
  else none

/-! ## 2. What a step comes to -/

theorem bind_eq_ok {α β : Type} {x : RoomResult α} {f : α → RoomResult β} {b : β} :
    (x >>= f) = .ok b ↔ ∃ a, x = .ok a ∧ f a = .ok b := by
  cases x with
  | error e => simp [bind, Except.bind]
  | ok a => simp [bind, Except.bind]

theorem map_eq_ok {α β : Type} {x : RoomResult α} {f : α → β} {b : β} :
    x.map f = .ok b ↔ ∃ a, x = .ok a ∧ f a = b := by
  cases x with
  | error e => simp [Except.map]
  | ok a => simp [Except.map]

/-- An operation is refused for its input, or for the state it finds. -/
inductive Refused (w : World) (l : Label) : Prop
  | input {e : RoomError} (hrun : l.1.run l.2 = .error e)
  | state {f : RoomState → RoomResult RoomState} {e : RoomError} (hrun : l.1.run l.2 = .ok f)
      (hf : f (w.loaded l.2) = .error e)

/-- A step is refused, and leaves the files alone, or saves what its operation makes of the loaded
state. -/
inductive StepCase (w : World) (l : Label) : World → Prop
  | refused (hclock : w.time ≤ l.2.loadedAt ∧ l.2.loadedAt ≤ l.2.now) (hrefused : Refused w l) :
      StepCase w l ⟨w.files, l.2.now⟩
  | done {f : RoomState → RoomResult RoomState} {state : RoomState}
      (hclock : w.time ≤ l.2.loadedAt ∧ l.2.loadedAt ≤ l.2.now) (hrun : l.1.run l.2 = .ok f)
      (hf : f (w.loaded l.2) = .ok state) : StepCase w l ⟨saveState state, l.2.now⟩

theorem step_cases {w w' : World} {l : Label} (h : step w l = some w') : StepCase w l w' := by
  unfold step at h
  split at h
  · rename_i hclock
    have hclock' : w.time ≤ l.2.loadedAt ∧ l.2.loadedAt ≤ l.2.now :=
      ⟨hclock.1.trans hclock.2.1, hclock.2.2⟩
    split at h
    · rename_i hrun
      cases h
      exact .refused hclock' (.input hrun)
    · rename_i f hrun
      cases hf : f (w.loaded l.2) with
      | error e =>
        have hf' : f (expireStateInPlace (loadState l.2.loadedAt w.files) l.2.loadedAt) =
          .error e := hf
        simp only [withLockedState, hf', Except.map, Option.some.injEq] at h
        rw [← h]
        exact .refused hclock' (.state hrun hf)
      | ok state =>
        have hf' : f (expireStateInPlace (loadState l.2.loadedAt w.files) l.2.loadedAt) =
          .ok state := hf
        simp only [withLockedState, hf', Except.map, Option.some.injEq] at h
        rw [← h]
        exact .done hclock' hrun hf
  · cases h

theorem not_refused {w : World} {l : Label} {f : RoomState → RoomResult RoomState}
    {state : RoomState} (hrun : l.1.run l.2 = .ok f) (hf : f (w.loaded l.2) = .ok state) :
    ¬Refused w l := by
  intro h
  cases h with
  | input hinput => cases hrun.symm.trans hinput
  | state hstate hrefused =>
    cases Except.ok.inj (hrun.symm.trans hstate)
    cases hf.symm.trans hrefused

end ElastosRuntime.Room
