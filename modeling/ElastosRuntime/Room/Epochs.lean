/-
# The key epochs of a room

A room's current key epoch moves by two rules.  Rotating takes the epoch after the last record and
writes its record.  Storing an invite, or an acceptance that is on record, takes the epoch the
envelope names when that is larger, and writes no record.  An epoch raised by the second rule has no
record, and the next rotation falls back behind it.

`Raises` says when the second rule raises the epoch for good.  The epochs of a run move only forward
exactly when no step of it does.
-/
import ElastosRuntime.Room.Governance

namespace ElastosRuntime.Room

open Records Text Transition

/-! ## 1. What a run shows of the epochs -/

def World.currentEpoch (w : World) : Nat := w.room.control.currentKeyEpoch

def World.recordedEpochs (w : World) : List Nat := w.room.keyEpochs.map RoomKeyEpochRecord.epoch

def World.isActive (w : World) (did : String) : Bool := (activeMemberRecord w.room did).isSome

/-- The room is an unused local conversation. -/
def World.unused (w : World) (clock : Clock) : Bool :=
  (w.loaded clock).control.ownerDid.any (looksUnused (w.loaded clock))

/-- Adopting an invite has replaced an unused local conversation. -/
def replaces (w : World) (l : Label) (w' : World) : Bool :=
  (match l.1 with
    | .adoptInvite .. => w.unused l.2
    | _ => false) && decide (w'.room.control.ownerDid ≠ w.room.control.ownerDid)

/-- Seeding an owner, and importing an invite that names one, make the owner a member. -/
def Operation.seatsOwner : Operation → Bool
  | .seedOwner .. => true
  | .importInvite .. => true
  | _ => false

/-- A member is made active by an accepted invite, or inactive by a removal. -/
def ChangesMembers (w : World) (l : Label) (w' : World) : Prop :=
  ∃ did, w.isActive did ≠ w'.isActive did ∧
    (l.1.seatsOwner = true → w'.room.control.ownerDid ≠ some did)

/-- What a step has to do with the epochs that have been current. -/
structure EpochStep (before : List Nat) (w : World) (l : Label) (w' : World) : Prop where
  hforward : ∀ e ∈ before, e ≤ w'.currentEpoch
  hrecord : w'.currentEpoch ∈ w'.recordedEpochs
  hunique : w'.recordedEpochs.Nodup
  hstrict : ChangesMembers w l w' → ∀ e ∈ before, e < w'.currentEpoch

/-- Every step of a run moves the epochs forward.  `before` is what has been current since the room
was last replaced. -/
def EpochsForward : List Nat → World → List Label → Prop
  | _, _, [] => True
  | before, w, l :: ls => ∀ w', step w l = some w' →
      EpochStep (if replaces w l w' then [] else before) w l w' ∧
        EpochsForward (w'.currentEpoch :: if replaces w l w' then [] else before) w' ls

/-- An envelope with a larger epoch than the room's is stored as a new invite, or is an acceptance
that is on record. -/
inductive Raises (clock : Clock) (state : RoomState) : Operation → Prop
  | invite {envelope : SignedEnvelope SignedRoomInvitePayload} {localProfile : VerifiedProfile}
      {invite : ValidatedRoomInvite}
      (hvalid : validateRoomInviteEnvelope envelope localProfile clock.checkedAt = .ok invite)
      (himports : state.governance.Imports invite)
      (hlarger : state.control.currentKeyEpoch < invite.payload.currentKeyEpoch) :
      Raises clock state (.importInvite envelope localProfile)
  | acceptance {envelope : SignedEnvelope SignedRoomAcceptPayload}
      {acceptance : ValidatedRoomAcceptance} {ownerDid : String} {invite : RoomInviteRecord}
      (hvalid : validateRoomAcceptanceEnvelope envelope = .ok acceptance)
      (hreplays : state.governance.Replays acceptance ownerDid invite)
      (hlarger : state.control.currentKeyEpoch < acceptance.payload.currentKeyEpoch) :
      Raises clock state (.importAcceptance envelope)

/-- The condition on a step, where it can be taken. -/
def KeepsEpoch (w : World) (l : Label) : Prop :=
  step w l ≠ none → ¬Raises l.2 (w.loaded l.2) l.1

/-! ## 2. Active members -/

section

variable {members : List RoomMemberRecord} {did : String}

theorem isSome_activeMember :
    (activeMember members did).isSome = true ↔
      ∃ member ∈ members, member.active = true ∧ member.memberDid = did := by
  rw [activeMember, List.find?_isSome]
  simp

theorem activeMember_modifyFirst {p : RoomMemberRecord → Bool}
    {f : RoomMemberRecord → RoomMemberRecord}
    (hf : ∀ member, (f member).active = member.active ∧ (f member).memberDid = member.memberDid) :
    (activeMember (modifyFirst p f members) did).isSome = (activeMember members did).isSome := by
  induction members with
  | nil => rfl
  | cons member members ih =>
    rw [modifyFirst]
    split
    · simp only [activeMember, List.find?_cons, (hf member).1, (hf member).2]
      split <;> rfl
    · simp only [activeMember, List.find?_cons]
      split
      · rfl
      · exact ih

/-- Making a member active makes no other member active or inactive. -/
theorem isSome_activeMember_activate (memberDid : String) (role : RoomRole) (addedBy : String)
    (now : Nat) (profileCard : Option RoomProfileCardView) :
    (activeMember (activate members memberDid role addedBy now profileCard) did).isSome =
      (decide (did = memberDid) || (activeMember members did).isSome) := by
  rw [Bool.eq_iff_iff, Bool.or_eq_true, decide_eq_true_eq]
  unfold activate
  split
  · rename_i found hfound
    rw [isSome_activeMember, isSome_activeMember]
    constructor
    · rintro ⟨member, hmem, hactive, rfl⟩
      rcases mem_of_mem_modifyFirst hmem with hold | ⟨other, hother, rfl⟩
      · exact Or.inr ⟨member, hold, hactive, rfl⟩
      · exact Or.inl (by simpa using List.find?_some hother)
    · rintro (rfl | ⟨member, hmem, hactive, rfl⟩)
      · exact ⟨_, mem_modifyFirst hfound, rfl, by simpa using List.find?_some hfound⟩
      · by_cases hsame : member.memberDid = memberDid
        · exact ⟨_, mem_modifyFirst hfound, rfl,
            (by simpa using List.find?_some hfound : found.memberDid = memberDid).trans hsame.symm⟩
        · exact ⟨member, mem_modifyFirst_of_neg (by simpa using hsame) hmem, hactive, rfl⟩
  · rw [isSome_activeMember, isSome_activeMember]
    simp only [List.mem_append, List.mem_singleton]
    constructor
    · rintro ⟨member, hmem | rfl, hactive, hdid⟩
      · exact Or.inr ⟨member, hmem, hactive, hdid⟩
      · exact Or.inl hdid.symm
    · rintro (rfl | ⟨member, hmem, hactive, hdid⟩)
      · exact ⟨_, Or.inr rfl, rfl, rfl⟩
      · exact ⟨member, Or.inl hmem, hactive, hdid⟩

end

/-! ## 3. What a step does to the epochs -/

section

variable {w w' : World} {l : Label} {clock : Clock}

/-- What a step finds is what its room shows. -/
structure Shown (w : World) (g : Governance) : Prop where
  hcurrent : g.current = w.currentEpoch
  hepochs : g.epochs = w.recordedEpochs
  howner : g.ownerDid = w.room.control.ownerDid
  hactive : ∀ did, (activeMember g.members did).isSome = w.isActive did

theorem Governance.isActive_repaired (g : Governance) (createdAt : Nat) (did : String) :
    (activeMember (g.repaired createdAt).members did).isSome =
      (decide (g.ownerDid = some did) || (activeMember g.members did).isSome) := by
  unfold Governance.repaired
  cases g.ownerDid with
  | none => simp
  | some ownerDid => simp [isSome_activeMember_activate, eq_comm]

theorem shown_repaired (w : World) (createdAt : Nat) :
    Shown w (w.files.governance.repaired createdAt) := by
  obtain ⟨at', hroom⟩ := room_governance w
  refine ⟨?_, ?_, ?_, fun did => ?_⟩
  · exact (congrArg Governance.current hroom).symm
  · exact (congrArg Governance.epochs hroom).symm
  · exact (congrArg Governance.ownerDid hroom).symm
  · have hmembers : w.room.members = (w.files.governance.repaired at').members :=
      congrArg Governance.members hroom
    change _ = (activeMember w.room.members did).isSome
    rw [hmembers, Governance.isActive_repaired, Governance.isActive_repaired]

theorem shown_loaded (w : World) (clock : Clock) : Shown w (w.loaded clock).governance := by
  obtain ⟨createdAt, hloaded⟩ := loaded_governance w clock
  have hshown := shown_repaired w createdAt
  rw [hloaded]
  exact ⟨hshown.hcurrent, hshown.hepochs, hshown.howner, hshown.hactive⟩

/-- A world of the same files shows the same. -/
theorem shown_room_of_files {w w' : World} (h : w'.files = w.files) :
    Shown w w'.room.governance := by
  obtain ⟨createdAt, hroom⟩ := room_governance w'
  rw [hroom, h]
  exact shown_repaired w createdAt

theorem invites_room (w : World) : w.room.invites = w.files.governance.invites := by
  obtain ⟨createdAt, hroom⟩ := room_governance w
  exact congrArg Governance.invites hroom

theorem invites_saved (state : RoomState) (now : Nat) :
    (World.room ⟨saveState state, now⟩).invites = state.governance.invites := by
  rw [invites_room, saveState_governance]

theorem invites_loaded (w : World) (clock : Clock) :
    (w.loaded clock).invites = w.room.invites.map (·.afterExpiry clock.loadedAt) := by
  obtain ⟨createdAt, hloaded⟩ := loaded_governance w clock
  rw [invites_room]
  exact congrArg Governance.invites hloaded

/-- The owner of a room is an active member. -/
theorem isActive_owner {w : World} {did : String} (h : w.room.control.ownerDid = some did) :
    w.isActive did = true := by
  obtain ⟨createdAt, hroom⟩ := room_governance w
  have howner : w.room.control.ownerDid = w.files.governance.ownerDid :=
    congrArg Governance.ownerDid hroom
  rw [← (shown_repaired w createdAt).hactive, Governance.isActive_repaired, ← howner, h]
  simp

theorem recordedEpochs_saved {state : RoomState} (now : Nat)
    (hepochs : state.governance.epochs ≠ []) :
    World.recordedEpochs ⟨saveState state, now⟩ = state.governance.epochs := by
  obtain ⟨createdAt, hroom⟩ := room_governance ⟨saveState state, now⟩
  rw [saveState_governance] at hroom
  exact (congrArg Governance.epochs hroom).trans (if_neg hepochs)

/-- What a room shows of what was saved. -/
theorem shown_saved {state : RoomState} (now : Nat) (hcurrent : state.governance.current ≠ 0)
    (hepochs : state.governance.epochs ≠ []) :
    let w' : World := ⟨saveState state, now⟩
    w'.currentEpoch = state.governance.current ∧ w'.recordedEpochs = state.governance.epochs ∧
      w'.room.control.ownerDid = state.governance.ownerDid ∧ ∀ did, w'.isActive did =
        (decide (state.governance.ownerDid = some did) ||
          (activeMember state.governance.members did).isSome) := by
  intro w'
  obtain ⟨createdAt, hroom⟩ := room_governance w'
  rw [saveState_governance] at hroom
  refine ⟨?_, recordedEpochs_saved now hepochs, congrArg Governance.ownerDid hroom, fun did => ?_⟩
  · exact (congrArg Governance.current hroom).trans (if_neg hcurrent)
  · have hmembers : w'.room.members = (state.governance.repaired createdAt).members :=
      congrArg Governance.members hroom
    change (activeMember w'.room.members did).isSome = _
    rw [hmembers, Governance.isActive_repaired]

end

/-- What an operation can do to the epochs of the state it is run on. -/
inductive EpochMove (clock : Clock) (state : RoomState) (op : Operation) (g : Governance) : Prop
  | kept (hcurrent : g.current = state.governance.current)
      (hepochs : g.epochs = state.governance.epochs)
      (howner : op.seatsOwner = false → g.ownerDid = state.control.ownerDid)
      (hactive : ∀ did, g.ownerDid ≠ some did →
        (activeMember g.members did).isSome = (activeMember state.members did).isSome)
  | rotated (hcurrent : g.current = state.governance.nextEpoch)
      (hepochs : g.epochs = state.governance.epochs ++ [state.governance.nextEpoch])
  | raised (hraises : Raises clock state op) (hepochs : g.epochs = state.governance.epochs)
  | replaced {envelope : SignedEnvelope SignedRoomInvitePayload} {localProfile : VerifiedProfile}
      {dirs : RoomDirs} {ownerDid : String} (hop : op = .adoptInvite envelope localProfile dirs)
      (hunused : state.control.ownerDid.any (looksUnused state) = true)
      (hnew : g.ownerDid = some ownerDid) (hother : state.control.ownerDid ≠ some ownerDid)
      (hcurrent : g.current = 2) (hepochs : g.epochs = [1, 2])

section

variable {clock : Clock} {state : RoomState} {op : Operation} {g : Governance}

theorem max_eq_left_of_not_lt {current epoch : Nat} (h : ¬current < epoch) :
    max current epoch = current := max_eq_left (not_lt.mp h)

theorem looksUnused_ownerDid {did : String} (h : looksUnused state did = true) :
    state.control.ownerDid = some did := by
  simp only [looksUnused, Bool.and_eq_true, decide_eq_true_eq] at h
  tauto

/-- Importing an invite makes nobody but the owner a member. -/
theorem Governance.isActive_imported {invite : ValidatedRoomInvite} {did : String}
    (howner : g.ownerDid = none ∨ g.ownerDid = some invite.payload.ownerProfileDid)
    (hdid : (g.imported invite).ownerDid ≠ some did) :
    (activeMember (g.imported invite).members did).isSome =
      (activeMember g.members did).isSome := by
  have hnew : (g.imported invite).ownerDid = some invite.payload.ownerProfileDid := by
    rcases howner with howner | howner <;> simp [Governance.imported, howner]
  have hne : did ≠ invite.payload.ownerProfileDid := fun hsame => hdid (hsame ▸ hnew)
  simp only [Governance.imported]
  split
  · simp [isSome_activeMember_activate, hne]
  · rfl

theorem AdoptionStart.epochMove {invite : ValidatedRoomInvite} {record : RoomInviteRecord}
    {start mid : Governance} {envelope : SignedEnvelope SignedRoomInvitePayload}
    {localProfile : VerifiedProfile} {dirs : RoomDirs} {inviteId did : String} {now : Nat}
    (hstart : AdoptionStart state invite start) (himport : start.ImportMove invite mid)
    (hfind : mid.invites.find? (isPending inviteId did) = some record) :
    EpochMove clock state (.adoptInvite envelope localProfile dirs)
      (mid.accepted inviteId did record now) := by
  cases hstart with
  | same howner =>
    have hepochs : mid.epochs = state.governance.epochs := by cases himport <;> rfl
    have hnext : mid.nextEpoch = state.governance.nextEpoch := by
      simp only [Governance.nextEpoch, hepochs]
    refine .rotated hnext ?_
    change mid.epochs ++ [mid.nextEpoch] = _
    rw [hepochs, hnext]
  | fresh hreplaceable =>
    have hlooks := looksUnused_ownerDid hreplaceable.hunused
    cases himport with
    | found hsame =>
      cases hsame
      cases hfind
    | stored himports =>
      refine .replaced rfl ?_ rfl (fun hsame => ?_) rfl rfl
      · rw [hlooks]
        exact hreplaceable.hunused
      · have howner := hreplaceable.howner
        rw [hsame] at howner
        simp at howner

theorem Move.epochMove (hunowned : state.control.ownerDid = none → state.invites = [])
    (h : Move clock state op g) : EpochMove clock state op g := by
  cases h with
  | kept => exact .kept rfl rfl (fun _ => rfl) fun _ _ => rfl
  | seeded hfree =>
    refine .kept rfl rfl (fun h => by cases h) fun did hdid => ?_
    have hne : did ≠ _ := fun hsame => hdid (congrArg some hsame.symm)
    simp [isSome_activeMember_activate, hne]
  | invited => exact .kept rfl rfl (fun _ => rfl) fun _ _ => rfl
  | noted => exact .kept rfl rfl (fun _ => rfl) fun _ _ => rfl
  | @imported envelope localProfile invite g hvalid himport =>
    cases himport with
    | found => exact .kept rfl rfl (fun _ => rfl) fun _ _ => rfl
    | stored himports =>
      by_cases hlarger : state.control.currentKeyEpoch < invite.payload.currentKeyEpoch
      · exact .raised (.invite hvalid himports hlarger) rfl
      · refine .kept (max_eq_left_of_not_lt hlarger) rfl (fun h => by cases h) fun did hdid => ?_
        exact Governance.isActive_imported himports.howner hdid
  | adopted hvalid hstart himport hfind => exact hstart.epochMove himport hfind
  | accepted => exact .rotated rfl rfl
  | entered => exact .rotated rfl rfl
  | @replayed envelope acceptance ownerDid invite hvalid hreplays =>
    by_cases hlarger : state.control.currentKeyEpoch < acceptance.payload.currentKeyEpoch
    · exact .raised (.acceptance hvalid hreplays hlarger) rfl
    · have howner : state.control.ownerDid = some ownerDid := by
        refine hreplays.howner.resolve_left fun hnone => ?_
        have hfind : state.invites.find? acceptance.answers = some invite := hreplays.hfind
        rw [hunowned hnone] at hfind
        cases hfind
      refine .kept (max_eq_left_of_not_lt hlarger) rfl (fun _ => ?_) fun did _ => ?_
      · simp [Governance.replayed, RoomState.governance, howner]
      · exact activeMember_modifyFirst fun _ => ⟨rfl, rfl⟩
  | revoked => exact .kept rfl rfl (fun _ => rfl) fun _ _ => rfl
  | removed => exact .rotated rfl rfl
  | rotated => exact .rotated rfl rfl

/-- An operation that raises the epoch is not refused. -/
theorem Raises.done (h : Raises clock state op) : ∃ f state', op.run clock = .ok f ∧
    f state = .ok state' ∧ state.governance.current < state'.governance.current ∧
      state'.governance.epochs = state.governance.epochs := by
  cases h with
  | @invite envelope localProfile invite hvalid himports hlarger =>
    obtain ⟨view, state', himport, hg⟩ := importRoomInvite_stored clock.now himports
    refine ⟨_, state', bind_eq_ok.mpr ⟨invite, hvalid, rfl⟩,
      map_eq_ok.mpr ⟨_, himport, rfl⟩, ?_, ?_⟩
    · rw [hg]
      exact lt_max_of_lt_right hlarger
    · rw [hg]
      rfl
  | @acceptance envelope acceptance ownerDid invite hvalid hreplays hlarger =>
    obtain ⟨view, state', himport, hg⟩ := importRoomAcceptance_replayed hreplays
    refine ⟨_, state', bind_eq_ok.mpr ⟨acceptance, hvalid, rfl⟩,
      map_eq_ok.mpr ⟨_, himport, rfl⟩, ?_, ?_⟩
    · rw [hg]
      exact lt_max_of_lt_right hlarger
    · rw [hg]
      rfl

end

/-! ## 4. Runs -/

/-- What holds of the epochs of a room whose epochs have moved forward. -/
structure InStep (before : List Nat) (w : World) : Prop where
  hlast : w.recordedEpochs.getLast? = some w.currentEpoch
  hsorted : w.recordedEpochs.Pairwise (· < ·)
  hpos : 0 < w.currentEpoch
  hbefore : ∀ e ∈ before, e ≤ w.currentEpoch
  hunowned : w.room.control.ownerDid = none → w.room.invites = []

theorem Move.unowned {clock : Clock} {state : RoomState} {op : Operation} {g : Governance}
    (hunowned : state.control.ownerDid = none → state.invites = []) (h : Move clock state op g)
    (hnone : g.ownerDid = none) : g.invites = [] := by
  cases h with
  | kept => exact hunowned hnone
  | seeded => cases hnone
  | invited howner => exact absurd hnone howner
  | noted hsame =>
    have hnil := hunowned hnone
    rw [hnil] at hsame
    exact List.forall₂_nil_left_iff.mp hsame
  | imported hvalid himport =>
    cases himport with
    | found hsame =>
      have hnil := hunowned hnone
      change List.Forall₂ _ state.invites _ at hsame
      rw [hnil] at hsame
      exact List.forall₂_nil_left_iff.mp hsame
    | stored => cases hnone
  | adopted hvalid hstart himport hfind =>
    cases himport with
    | stored => cases hnone
    | found hsame =>
      cases hstart with
      | same =>
        have hnil := hunowned hnone
        change List.Forall₂ _ state.invites _ at hsame
        rw [hnil] at hsame
        rw [List.forall₂_nil_left_iff.mp hsame] at hfind
        cases hfind
      | fresh =>
        cases hsame
        cases hfind
  | @accepted actorDid inviteId did invite hdid hfind =>
    rw [hunowned hnone] at hfind
    cases hfind
  | entered => cases hnone
  | replayed => cases hnone
  | revoked =>
    have hnil := hunowned hnone
    simp [hnil, modifyFirst]
  | removed => exact hunowned hnone
  | rotated => exact hunowned hnone

section

variable {before : List Nat} {w w' : World} {l : Label}

theorem InStep.unique (h : InStep before w) : w.recordedEpochs.Nodup :=
  h.hsorted.imp fun hlt => hlt.ne

theorem InStep.record (h : InStep before w) : w.currentEpoch ∈ w.recordedEpochs :=
  List.mem_of_getLast? h.hlast

theorem InStep.recorded_le (h : InStep before w) : ∀ e ∈ w.recordedEpochs, e ≤ w.currentEpoch := by
  intro e he
  have hlast := h.hlast
  have hsorted := h.hsorted
  revert hlast hsorted he
  generalize w.recordedEpochs = epochs
  intro he hlast hsorted
  obtain ⟨init, rfl⟩ := List.getLast?_eq_some_iff.mp hlast
  rcases List.mem_append.mp he with hinit | hend
  · exact (List.pairwise_append.mp hsorted).2.2 e hinit _ (List.mem_singleton_self _) |>.le
  · exact (List.mem_singleton.mp hend).le

theorem InStep.since (h : InStep before w) : ∀ e ∈ if replaces w l w' then [] else before,
    e ≤ w.currentEpoch := by
  intro e he
  split at he
  · cases he
  · exact h.hbefore e he

theorem replaces_eq_true {envelope : SignedEnvelope SignedRoomInvitePayload}
    {localProfile : VerifiedProfile} {dirs : RoomDirs}
    (hop : l.1 = .adoptInvite envelope localProfile dirs) (hunused : w.unused l.2 = true)
    (hne : w'.room.control.ownerDid ≠ w.room.control.ownerDid) : replaces w l w' = true := by
  unfold replaces
  rw [hop]
  exact Bool.and_eq_true_iff.mpr ⟨hunused, decide_eq_true hne⟩

theorem InStep.governance (h : InStep before w) (clock : Clock) :
    (w.loaded clock).control.ownerDid = none → (w.loaded clock).invites = [] := by
  intro hnone
  have howner : (w.loaded clock).control.ownerDid = w.room.control.ownerDid :=
    (shown_loaded w clock).howner
  rw [invites_loaded, h.hunowned (howner.symm.trans hnone), List.map_nil]

theorem InStep.nextEpoch (h : InStep before w) (clock : Clock) :
    (w.loaded clock).governance.nextEpoch = w.currentEpoch + 1 := by
  rw [Governance.nextEpoch, (shown_loaded w clock).hepochs, h.hlast]

/-- A room whose epochs and members are as they were. -/
theorem InStep.same (h : InStep before w) (hcurrent : w'.currentEpoch = w.currentEpoch)
    (hepochs : w'.recordedEpochs = w.recordedEpochs)
    (hunowned : w'.room.control.ownerDid = none → w'.room.invites = [])
    (hsame : ¬ChangesMembers w l w') :
    EpochStep (if replaces w l w' then [] else before) w l w' ∧
      InStep (w'.currentEpoch :: if replaces w l w' then [] else before) w' := by
  have hsince : ∀ e ∈ if replaces w l w' then [] else before, e ≤ w'.currentEpoch := by
    rw [hcurrent]
    exact h.since
  refine ⟨⟨hsince, ?_, ?_, fun hchanges => absurd hchanges hsame⟩, ?_, ?_, ?_, ?_, hunowned⟩
  · rw [hcurrent, hepochs]
    exact h.record
  · rw [hepochs]
    exact h.unique
  · rw [hcurrent, hepochs]
    exact h.hlast
  · rw [hepochs]
    exact h.hsorted
  · rw [hcurrent]
    exact h.hpos
  · exact List.forall_mem_cons.mpr ⟨le_rfl, hsince⟩

/-- A room whose epoch has been rotated. -/
theorem InStep.rotated (h : InStep before w) (hcurrent : w'.currentEpoch = w.currentEpoch + 1)
    (hepochs : w'.recordedEpochs = w.recordedEpochs ++ [w.currentEpoch + 1])
    (hunowned : w'.room.control.ownerDid = none → w'.room.invites = []) :
    EpochStep (if replaces w l w' then [] else before) w l w' ∧
      InStep (w'.currentEpoch :: if replaces w l w' then [] else before) w' := by
  have hlt : ∀ e ∈ if replaces w l w' then [] else before, e < w'.currentEpoch := fun e he => by
    rw [hcurrent]
    exact Nat.lt_succ_of_le (h.since e he)
  have hsorted : w'.recordedEpochs.Pairwise (· < ·) := by
    rw [hepochs]
    refine List.pairwise_append.mpr ⟨h.hsorted, List.pairwise_singleton _ _, fun e he e' he' => ?_⟩
    rw [List.mem_singleton.mp he']
    exact Nat.lt_succ_of_le (h.recorded_le e he)
  have hlast : w'.recordedEpochs.getLast? = some w'.currentEpoch := by
    rw [hepochs, hcurrent, List.getLast?_concat]
  refine ⟨⟨fun e he => (hlt e he).le, List.mem_of_getLast? hlast, hsorted.imp fun hlt => hlt.ne,
    fun _ => hlt⟩, hlast, hsorted, ?_, ?_, hunowned⟩
  · rw [hcurrent]
    exact Nat.succ_pos _
  · exact List.forall_mem_cons.mpr ⟨le_rfl, fun e he => (hlt e he).le⟩

/-- A room that has been replaced by an adopted one. -/
theorem inStep_replaced (hcurrent : w'.currentEpoch = 2) (hepochs : w'.recordedEpochs = [1, 2])
    (hunowned : w'.room.control.ownerDid = none → w'.room.invites = []) :
    EpochStep [] w l w' ∧ InStep [w'.currentEpoch] w' := by
  have hlast : w'.recordedEpochs.getLast? = some w'.currentEpoch := by
    rw [hepochs, hcurrent]
    rfl
  have hsorted : w'.recordedEpochs.Pairwise (· < ·) := by
    rw [hepochs]
    decide
  refine ⟨⟨List.forall_mem_nil _, List.mem_of_getLast? hlast, hsorted.imp fun hlt => hlt.ne,
    fun _ => List.forall_mem_nil _⟩, hlast, hsorted, ?_, ?_, hunowned⟩
  · rw [hcurrent]
    decide
  · exact List.forall_mem_singleton.mpr le_rfl

theorem EpochMove.positive {clock : Clock} {op : Operation} {g : Governance}
    (hmove : EpochMove clock (w.loaded clock) op g) (h : InStep before w)
    (hkeeps : ¬Raises clock (w.loaded clock) op) : g.current ≠ 0 ∧ g.epochs ≠ [] := by
  have hshown := shown_loaded w clock
  cases hmove with
  | kept hcurrent hepochs =>
    rw [hcurrent, hepochs, hshown.hcurrent, hshown.hepochs]
    refine ⟨h.hpos.ne', fun hnil => ?_⟩
    have hrecord := h.record
    rw [hnil] at hrecord
    cases hrecord
  | rotated hcurrent hepochs =>
    rw [hcurrent, hepochs, h.nextEpoch]
    exact ⟨Nat.succ_ne_zero _, List.append_ne_nil_of_right_ne_nil _ (List.cons_ne_nil _ _)⟩
  | raised hraises => exact absurd hraises hkeeps
  | replaced hop hunused hnew hother hcurrent hepochs =>
    rw [hcurrent, hepochs]
    exact ⟨by decide, by decide⟩

/-- **What a step keeps**, unless it raises the epoch. -/
theorem InStep.next (h : InStep before w) (hstep : step w l = some w')
    (hkeeps : ¬Raises l.2 (w.loaded l.2) l.1) :
    EpochStep (if replaces w l w' then [] else before) w l w' ∧
      InStep (w'.currentEpoch :: if replaces w l w' then [] else before) w' := by
  cases step_cases hstep with
  | refused hclock =>
    have hshown : Shown w (World.room ⟨w.files, l.2.now⟩).governance := shown_room_of_files rfl
    refine h.same hshown.hcurrent hshown.hepochs (fun hnone => ?_) ?_
    · rw [invites_room]
      rw [← invites_room w]
      exact h.hunowned (hshown.howner.symm.trans hnone)
    · rintro ⟨did, hdid, _⟩
      exact hdid (hshown.hactive did).symm
  | @done f state hclock hrun hf =>
    have hshown := shown_loaded w l.2
    have hmove := run_move hrun hf
    have hmoved := hmove.epochMove (h.governance l.2)
    have hpos : state.governance.current ≠ 0 ∧ state.governance.epochs ≠ [] :=
      hmoved.positive h hkeeps
    obtain ⟨hcurrent, hepochs, howner, hactive⟩ := shown_saved l.2.now hpos.1 hpos.2
    have hunowned : (World.room ⟨saveState state, l.2.now⟩).control.ownerDid = none →
        (World.room ⟨saveState state, l.2.now⟩).invites = [] := by
      rw [invites_saved, howner]
      exact hmove.unowned (h.governance l.2)
    have hloaded := h.nextEpoch l.2
    cases hmoved with
    | kept hkept hrecords hsame hmembers =>
      refine h.same (hcurrent.trans (hkept.trans hshown.hcurrent))
        (hepochs.trans (hrecords.trans hshown.hepochs)) hunowned ?_
      rintro ⟨did, hdid, hseats⟩
      refine hdid ?_
      rw [hactive]
      by_cases hnew : state.governance.ownerDid = some did
      · have hseated : l.1.seatsOwner = false := by
          by_contra htrue
          exact hseats (by simpa using htrue) (howner.trans hnew)
        have hold : w.room.control.ownerDid = some did :=
          hshown.howner.symm.trans ((hsame hseated).symm.trans hnew)
        simp [isActive_owner hold, hnew]
      · rw [hmembers did hnew, ← hshown.hactive did, decide_eq_false hnew, Bool.false_or]
        rfl
    | rotated hnext hrecords =>
      rw [hloaded] at hnext hrecords
      refine h.rotated (hcurrent.trans hnext) ?_ hunowned
      rw [hepochs, hrecords, hshown.hepochs]
    | raised hraises => exact absurd hraises hkeeps
    | replaced hop hunused hnew hother hsecond hrecords =>
      have hreplaces : replaces w l ⟨saveState state, l.2.now⟩ = true := by
        refine replaces_eq_true hop hunused ?_
        rw [howner, hnew, ← hshown.howner]
        exact fun hsame => hother hsame.symm
      rw [hreplaces, if_pos rfl]
      exact inStep_replaced (hcurrent.trans hsecond) (hepochs.trans hrecords) hunowned

/-- A step that raises the epoch leaves it without a record. -/
theorem InStep.raised (h : InStep before w) {since : List Nat} (hstep : step w l = some w')
    (hraises : Raises l.2 (w.loaded l.2) l.1) : ¬EpochStep since w l w' := by
  intro hepochStep
  obtain ⟨f, state, hrun, hf, hlarger, hepochs⟩ := hraises.done
  have hshown := shown_loaded w l.2
  rw [hshown.hcurrent] at hlarger
  rw [hshown.hepochs] at hepochs
  cases step_cases hstep with
  | refused _ hrefused => exact not_refused hrun hf hrefused
  | @done f' state' hclock hrun' hf' =>
    cases Except.ok.inj (hrun.symm.trans hrun')
    cases Except.ok.inj (hf.symm.trans hf')
    have hnonempty : state.governance.epochs ≠ [] := by
      intro hnil
      have hrecord := h.record
      rw [← hepochs, hnil] at hrecord
      cases hrecord
    obtain ⟨hcurrent', hepochs', _⟩ := shown_saved l.2.now hlarger.ne_bot hnonempty
    have hrecord := hepochStep.hrecord
    rw [hcurrent', hepochs', hepochs] at hrecord
    exact absurd (h.recorded_le _ hrecord) (not_le.mpr hlarger)

theorem epochsForward_iff_of_inStep : ∀ {ls : List Label} {before : List Nat} {w : World},
    InStep before w → (EpochsForward before w ls ↔ Guarded step KeepsEpoch w ls)
  | [], _, _, _ => ⟨fun _ => trivial, fun _ => trivial⟩
  | l :: ls, before, w, h => by
    constructor
    · intro hforward
      have hkeeps : KeepsEpoch w l := by
        intro henabled hraises
        obtain ⟨w', hstep⟩ := Option.ne_none_iff_exists'.mp henabled
        exact h.raised hstep hraises (hforward w' hstep).1
      refine ⟨hkeeps, fun w' hstep => ?_⟩
      have hnext := h.next hstep (hkeeps (Option.ne_none_iff_exists'.mpr ⟨w', hstep⟩))
      exact (epochsForward_iff_of_inStep hnext.2).mp (hforward w' hstep).2
    · intro hguarded w' hstep
      have hnext := h.next hstep (hguarded.1 (Option.ne_none_iff_exists'.mpr ⟨w', hstep⟩))
      exact ⟨hnext.1, (epochsForward_iff_of_inStep hnext.2).mpr (hguarded.2 w' hstep)⟩

end

theorem inStep_empty : InStep [1] World.empty := by
  refine ⟨rfl, List.pairwise_singleton _ _, Nat.one_pos, fun e he => ?_, fun _ => rfl⟩
  exact (List.mem_singleton.mp he).le

/-! ## 5. The next epoch -/

/-- The epoch that the next rotation takes. -/
def World.nextEpoch (w : World) : Nat := w.room.governance.nextEpoch

/-- A room's records start at 1, and each was added by a rotation. -/
structure Counted (n : Nat) (w : World) : Prop where
  hlow : 2 ≤ w.nextEpoch
  hhigh : w.nextEpoch ≤ n + 2
  hunowned : w.room.control.ownerDid = none → w.room.invites = []

section

variable {n : Nat} {w w' : World} {l : Label}

theorem nextEpoch_eq_of_epochs {g g' : Governance} (h : g.epochs = g'.epochs) :
    g.nextEpoch = g'.nextEpoch := by
  simp only [Governance.nextEpoch, h]

theorem nextEpoch_of_last {g : Governance} {init : List Nat} {last : Nat}
    (h : g.epochs = init ++ [last]) : g.nextEpoch = last + 1 := by
  simp [Governance.nextEpoch, h]

theorem Counted.nonempty (h : Counted n w) : w.recordedEpochs ≠ [] := by
  intro hnil
  have hlow := h.hlow
  have hepochs : w.room.governance.epochs = [] := hnil
  rw [World.nextEpoch, Governance.nextEpoch, hepochs] at hlow
  exact absurd hlow (by decide)

/-- No envelope moves the next epoch; only a rotation does, by one. -/
theorem Counted.next (h : Counted n w) (hstep : step w l = some w') : Counted (n + 1) w' := by
  cases step_cases hstep with
  | refused =>
    have hshown : Shown w (World.room ⟨w.files, l.2.now⟩).governance := shown_room_of_files rfl
    have hnext : World.nextEpoch ⟨w.files, l.2.now⟩ = w.nextEpoch :=
      nextEpoch_eq_of_epochs hshown.hepochs
    refine ⟨hnext ▸ h.hlow, hnext ▸ h.hhigh.trans (by omega), fun hnone => ?_⟩
    rw [invites_room, ← invites_room w]
    exact h.hunowned (hshown.howner.symm.trans hnone)
  | @done f state hclock hrun hf =>
    have hshown := shown_loaded w l.2
    have hloaded : (w.loaded l.2).governance.nextEpoch = w.nextEpoch :=
      nextEpoch_eq_of_epochs hshown.hepochs
    have hbefore : (w.loaded l.2).control.ownerDid = none → (w.loaded l.2).invites = [] := by
      intro hnone
      rw [invites_loaded, h.hunowned (hshown.howner.symm.trans hnone), List.map_nil]
    have hmove := run_move hrun hf
    have hcases : state.governance.epochs = w.recordedEpochs ∨
        state.governance.epochs = w.recordedEpochs ++ [w.nextEpoch] ∨
        state.governance.epochs = [1, 2] := by
      rw [← hloaded, ← hshown.hepochs]
      cases hmove.epochMove hbefore with
      | kept _ hepochs => exact Or.inl hepochs
      | rotated _ hepochs => exact Or.inr (Or.inl hepochs)
      | raised _ hepochs => exact Or.inl hepochs
      | replaced _ _ _ _ _ hepochs => exact Or.inr (Or.inr hepochs)
    have hnonempty : state.governance.epochs ≠ [] := by
      rcases hcases with hepochs | hepochs | hepochs <;> rw [hepochs]
      · exact h.nonempty
      · simp
      · simp
    have hsaved := recordedEpochs_saved l.2.now hnonempty
    have hnext : World.nextEpoch ⟨saveState state, l.2.now⟩ = state.governance.nextEpoch :=
      nextEpoch_eq_of_epochs hsaved
    have hbounds : 2 ≤ state.governance.nextEpoch ∧ state.governance.nextEpoch ≤ n + 3 := by
      have hlow := h.hlow
      have hhigh := h.hhigh
      rcases hcases with hepochs | hepochs | hepochs
      · have hsame : state.governance.nextEpoch = w.nextEpoch := nextEpoch_eq_of_epochs hepochs
        omega
      · have hone := nextEpoch_of_last hepochs
        omega
      · have hthree : state.governance.nextEpoch = 3 :=
          nextEpoch_of_last (show _ = [1] ++ [2] from hepochs)
        omega
    refine ⟨hnext ▸ hbounds.1, hnext ▸ hbounds.2, fun hnone => ?_⟩
    obtain ⟨createdAt, hroom⟩ := room_governance ⟨saveState state, l.2.now⟩
    rw [saveState_governance] at hroom
    rw [invites_saved]
    exact hmove.unowned hbefore ((congrArg Governance.ownerDid hroom).symm.trans hnone)

theorem counted_run : ∀ {ls : List Label} {n : Nat} {w w' : World}, Counted n w →
    run step w ls = some w' → Counted (n + ls.length) w'
  | [], n, w, w', h, hrun => by
    rw [run_nil, Option.some.injEq] at hrun
    exact hrun ▸ h
  | l :: ls, n, w, w', h, hrun => by
    obtain ⟨mid, hstep, hrest⟩ := run_cons_eq_some.mp hrun
    have hdone := counted_run (h.next hstep) hrest
    rwa [List.length_cons, Nat.add_comm ls.length 1, ← Nat.add_assoc]

end

theorem counted_empty : Counted 0 World.empty := ⟨le_rfl, le_rfl, fun _ => rfl⟩

/-- **The key epochs of a room move forward in exactly the runs without a raising step**, and no run
takes the next epoch further than it has steps. -/
theorem epochs_move_forward (ls : List Label) :
    (EpochsForward [World.empty.currentEpoch] World.empty ls ↔
      Guarded step KeepsEpoch World.empty ls) ∧
    ∀ w : World, run step World.empty ls = some w → w.nextEpoch ≤ ls.length + 2 := by
  refine ⟨epochsForward_iff_of_inStep inStep_empty, fun w hrun => ?_⟩
  have hcounted := counted_run counted_empty hrun
  rw [Nat.zero_add] at hcounted
  exact hcounted.hhigh

def sampleOwned : List Label :=
  [(.seedOwner "did:o" "Team", ⟨1, 1, 1⟩),
    (.invite ⟨"did:o", "did:g", .member, none, none⟩ "i1", ⟨2, 2, 2⟩),
    (.accept "did:g" "i1", ⟨3, 3, 3⟩), (.remove "did:o" "did:g", ⟨4, 4, 4⟩)]

theorem sampleOwned_run : (run step World.empty sampleOwned).isSome = true := by decide +kernel

theorem epochs_move_forward_owned :
    EpochsForward [World.empty.currentEpoch] World.empty sampleOwned ∧
      ∃ w, run step World.empty sampleOwned = some w ∧ w.nextEpoch ≤ 6 := by
  constructor
  · refine (epochs_move_forward _).1.mpr (Guarded.of_forall_mem fun l hl w _ hraises => ?_)
    simp only [sampleOwned, List.mem_cons, List.not_mem_nil, or_false] at hl
    rcases hl with rfl | rfl | rfl | rfl <;> cases hraises
  · obtain ⟨w, hrun⟩ := Option.isSome_iff_exists.mp sampleOwned_run
    exact ⟨w, hrun, (epochs_move_forward _).2 w hrun⟩

/-! ## 6. A run that falls back -/

def sampleGuest : VerifiedProfile := ⟨"did:g", "Guest", none, 1⟩

/-- An invite of the owner `did:o` to the guest, of a room whose epoch is 10. -/
def sampleInvite : SignedEnvelope SignedRoomInvitePayload where
  payload := ⟨ROOM_INVITE_ENVELOPE_SCHEMA, ROOM_SLUG, "Team", "did:o", 10, "i1", "did:g", .member,
    "did:o", 1, 100⟩
  envelopeSha256 := "e1"
  signatureValid := true
  signerMatches := true
  profile := some ⟨"did:o", "Owner", none, 1⟩
  authorized := true

def sampleJoin : List Label :=
  [(.importInvite sampleInvite sampleGuest, ⟨1, 1, 1⟩), (.accept "did:g" "i1", ⟨2, 2, 2⟩)]

theorem sampleJoin_run :
    (run step World.empty (sampleJoin.take 1)).map
        (fun w => (w.currentEpoch, w.recordedEpochs)) = some (10, [1]) ∧
      (run step World.empty sampleJoin).map (fun w => (w.currentEpoch, w.recordedEpochs)) =
        some (2, [1, 2]) := by decide +kernel

/-- The invite leaves the epoch at 10 without a record, and accepting it takes the epoch back
to 2. -/
theorem epoch_falls_back :
    (run step World.empty (sampleJoin.take 1)).map World.currentEpoch = some 10 ∧
      (run step World.empty sampleJoin).map World.currentEpoch = some 2 ∧
        ¬∀ ls, EpochsForward [World.empty.currentEpoch] World.empty ls := by
  obtain ⟨hfirst, hsecond⟩ := sampleJoin_run
  obtain ⟨w, hw, hshown⟩ := Option.map_eq_some_iff.mp hfirst
  obtain ⟨w', hw', hshown'⟩ := Option.map_eq_some_iff.mp hsecond
  rw [Prod.mk.injEq] at hshown hshown'
  refine ⟨by rw [hw, Option.map_some, hshown.1], by rw [hw', Option.map_some, hshown'.1],
    fun hforward => ?_⟩
  obtain ⟨mid, hstep, hnil⟩ := run_cons_eq_some.mp hw
  have hrecord := (hforward (sampleJoin.take 1) mid hstep).1.hrecord
  cases Option.some.inj hnil
  rw [hshown.1, hshown.2] at hrecord
  exact absurd hrecord (by decide)

end ElastosRuntime.Room
