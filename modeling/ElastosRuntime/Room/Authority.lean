/-
# Who belongs to a room

The governance of a room over any run of its operations: one record a member, one owner, invites
that settle once, and members that come back only by an invite that is newer than their removal.

Five paths make a member active.  Two of them take their data from envelopes that others signed, and
check less of it than the local ones.  `Allowed` says what such an envelope must keep to, and
`authority_holds` that every run of allowed steps keeps the authority.
-/
import ElastosRuntime.Room.Epochs

namespace ElastosRuntime.Room

open Records Text Transition

/-! ## 1. What a run shows of the members and the invites -/

def RoomInviteRecord.key (invite : RoomInviteRecord) : String × String :=
  (invite.inviteId, invite.invitedDid)

/-- A later record of an invite: a pending one may have settled, a settled one is as it was. -/
structure RoomInviteRecord.Later (invite later : RoomInviteRecord) : Prop where
  hterms : later.inviteId = invite.inviteId ∧ later.invitedDid = invite.invitedDid ∧
    later.role = invite.role ∧ later.invitedBy = invite.invitedBy ∧
    later.createdAt = invite.createdAt ∧ later.expiresAt = invite.expiresAt
  hsettled : invite.status ≠ .pending → later.status = invite.status ∧
    later.actedAt = invite.actedAt ∧ later.actedBy = invite.actedBy

/-- What every room shows. -/
structure Authority (w : World) : Prop where
  hmembers : Unique RoomMemberRecord.memberDid w.room.members
  howner : ∀ did, w.room.control.ownerDid = some did → ∃ member ∈ w.room.members,
    member.memberDid = did ∧ member.active = true ∧ member.role = .owner
  hrole : ∀ member ∈ w.room.members, member.role = .owner →
    w.room.control.ownerDid = some member.memberDid
  hinvites : Unique RoomInviteRecord.key w.room.invites

/-- A step accepts an invite: one that was pending or is new, before it expires, by the DID it was
issued to, and with its role. -/
structure Accepts (w : World) (l : Label) (w' : World) (invite : RoomInviteRecord) : Prop where
  hmem : invite ∈ w'.room.invites
  hstatus : invite.status = .accepted
  hpending : ∀ earlier ∈ (w.loaded l.2).invites, earlier.key = invite.key →
    earlier.status = .pending
  hexpires : l.2.loadedAt < invite.expiresAt
  hacted : invite.actedBy = some invite.invitedDid
  hmember : ∃ member ∈ w'.room.members, member.memberDid = invite.invitedDid ∧
    member.active = true ∧ member.role = invite.role

/-- What every step keeps to. -/
structure AuthorityStep (w : World) (l : Label) (w' : World) : Prop where
  hrefused : Refused w l → w'.files = w.files
  howner : ∀ did, w.room.control.ownerDid = some did →
    w'.room.control.ownerDid = some did ∨ replaces w l w' = true
  hinvites : ∀ invite ∈ w.room.invites, ∃ later ∈ w'.room.invites, invite.Later later
  haccepted : ∀ later ∈ w'.room.invites, later.status = .accepted →
    (∃ invite ∈ w.room.invites, invite.key = later.key ∧ invite.status = .accepted) ∨
      Accepts w l w' later
  hreturned : ∀ member ∈ w.room.members, member.active = false →
    w'.isActive member.memberDid = true → ∃ invite, Accepts w l w' invite ∧
      invite.invitedDid = member.memberDid ∧
        ∃ removedAt, member.removedAt = some removedAt ∧ removedAt ≤ invite.createdAt

/-- The authority of a room holds all along a run. -/
def AuthorityHolds : World → List Label → Prop
  | w, [] => Authority w
  | w, l :: ls => Authority w ∧ ∀ w', step w l = some w' →
      AuthorityStep w l w' ∧ AuthorityHolds w' ls

/-! ## 2. What a step must keep to -/

/-- An invite from elsewhere that may be stored: it offers no ownership, is not of the owner's own,
is not on record, and is newer than the removal of the member it is to. -/
structure Storable (g : Governance) (invite : ValidatedRoomInvite) : Prop where
  hrole : invite.payload.role ≠ .owner
  howner : invite.payload.ownerProfileDid ≠ invite.localProfileDid
  hnew : ∀ record ∈ g.invites, record.key ≠ (invite.payload.inviteId, invite.localProfileDid)
  hnewer : ∀ member ∈ g.members, member.memberDid = invite.localProfileDid →
    ∀ removedAt ∈ member.removedAt, removedAt ≤ invite.payload.createdAt

/-- The condition on an operation: the envelopes it stores are storable, the ids it draws are new,
and it removes no member with a pending invite. -/
def Operation.Allowed (clock : Clock) (state : RoomState) : Operation → Prop
  | .invite _ drawnId => ∀ invite ∈ state.invites, invite.inviteId ≠ drawnId
  | .importInvite envelope localProfile => ∀ invite,
      validateRoomInviteEnvelope envelope localProfile clock.checkedAt = .ok invite →
        state.governance.Imports invite → Storable state.governance invite
  | .adoptInvite envelope localProfile _ => ∀ invite start,
      validateRoomInviteEnvelope envelope localProfile clock.checkedAt = .ok invite →
        AdoptionStart state invite start → start.Imports invite →
          Storable start invite ∧ clock.loadedAt < invite.payload.expiresAt
  | .remove _ memberDid => ∀ did, normalizeMemberDid memberDid = .ok did →
      ∀ invite ∈ state.invites, invite.invitedDid = did → invite.status ≠ .pending
  | _ => True

def Allowed (w : World) (l : Label) : Prop := l.1.Allowed l.2 (w.loaded l.2)

/-! ## 3. The members after one is made active -/

section

variable {members : List RoomMemberRecord} {did : String} {role : RoomRole} {addedBy : String}
  {now : Nat} {profileCard : Option RoomProfileCardView} {member : RoomMemberRecord}

/-- The record of a member that has been made active. -/
structure Activated (did : String) (role : RoomRole) (member : RoomMemberRecord) : Prop where
  hdid : member.memberDid = did
  hactive : member.active = true
  hrole : member.role = role
  hremoved : member.removedAt = none

theorem unique_activate (h : Unique RoomMemberRecord.memberDid members) :
    Unique RoomMemberRecord.memberDid (activate members did role addedBy now profileCard) := by
  unfold activate
  split
  · exact h.modifyFirst fun _ _ => rfl
  · rename_i hnone
    refine h.append_singleton fun other hother hsame => ?_
    have hne := List.find?_eq_none.mp hnone other hother
    exact hne (by simpa using hsame)

variable (members did role addedBy now profileCard) in
theorem exists_activated :
    ∃ member ∈ activate members did role addedBy now profileCard, Activated did role member := by
  unfold activate
  split
  · rename_i found hfound
    exact ⟨_, mem_modifyFirst hfound, by simpa using List.find?_some hfound, rfl, rfl, rfl⟩
  · exact ⟨_, List.mem_append_right _ (List.mem_singleton_self _), rfl, rfl, rfl, rfl⟩

/-- Nobody else's record is another one. -/
theorem mem_activate (h : Unique RoomMemberRecord.memberDid members)
    (hmem : member ∈ activate members did role addedBy now profileCard) :
    (member ∈ members ∧ member.memberDid ≠ did) ∨ Activated did role member := by
  by_cases hdid : member.memberDid = did
  · right
    obtain ⟨activated, hactivated, hspec⟩ :=
      exists_activated members did role addedBy now profileCard
    have hsame : member = activated :=
      (unique_activate h).eq hmem hactivated (hdid.trans hspec.hdid.symm)
    exact hsame ▸ hspec
  · left
    refine ⟨?_, hdid⟩
    unfold activate at hmem
    split at hmem
    · rcases mem_of_mem_modifyFirst hmem with hold | ⟨other, hother, rfl⟩
      · exact hold
      · exact absurd (by simpa using List.find?_some hother) hdid
    · rcases List.mem_append.mp hmem with hold | hnew
      · exact hold
      · exact absurd (congrArg RoomMemberRecord.memberDid (List.mem_singleton.mp hnew)) hdid

theorem mem_activate_of_ne (hmem : member ∈ members) (hne : member.memberDid ≠ did) :
    member ∈ activate members did role addedBy now profileCard := by
  unfold activate
  split
  · exact mem_modifyFirst_of_neg (by simpa using hne) hmem
  · exact List.mem_append_left _ hmem

end

/-! ## 4. The invariant -/

/-- What holds of the governance that is kept in the files. -/
structure Sound (g : Governance) (time : Nat) : Prop where
  hmembers : Unique RoomMemberRecord.memberDid g.members
  hrole : ∀ member ∈ g.members, member.role = .owner → g.ownerDid = some member.memberDid
  hunowned : g.ownerDid = none → g.members = [] ∧ g.invites = []
  hremoved : ∀ member ∈ g.members, member.active = false →
    ∃ removedAt, member.removedAt = some removedAt ∧ removedAt ≤ time
  hinvites : Unique RoomInviteRecord.key g.invites
  hpending : ∀ invite ∈ g.invites, invite.status = .pending → invite.role ≠ .owner ∧
    g.ownerDid ≠ some invite.invitedDid ∧ ∀ member ∈ g.members,
      member.memberDid = invite.invitedDid →
        ∀ removedAt ∈ member.removedAt, removedAt ≤ invite.createdAt

/-- The owner is an active member. -/
def Seated (g : Governance) : Prop :=
  ∀ did, g.ownerDid = some did → ∃ member ∈ g.members, Activated did .owner member

section

variable {g g' : Governance} {time time' : Nat} {did : String}

theorem Sound.mono (h : Sound g time) (htime : time ≤ time') : Sound g time' where
  hmembers := h.hmembers
  hrole := h.hrole
  hunowned := h.hunowned
  hremoved := fun member hmem hinactive => by
    obtain ⟨removedAt, hat, hle⟩ := h.hremoved member hmem hinactive
    exact ⟨removedAt, hat, hle.trans htime⟩
  hinvites := h.hinvites
  hpending := h.hpending

theorem Sound.seated_role (h : Sound g time) (hseated : Seated g) {member : RoomMemberRecord}
    (howner : g.ownerDid = some did) (hmem : member ∈ g.members) (hdid : member.memberDid = did) :
    Activated did .owner member := by
  obtain ⟨seated, hseat, hspec⟩ := hseated did howner
  have hsame : member = seated := h.hmembers.eq hmem hseat (hdid.trans hspec.hdid.symm)
  exact hsame ▸ hspec

/-- Governance after a change of the epochs alone. -/
theorem Sound.rotated (h : Sound g time) : Sound g.rotated time :=
  ⟨h.hmembers, h.hrole, h.hunowned, h.hremoved, h.hinvites, h.hpending⟩

/-- Making a member of an owned room active, in a role that is the owner's only for the owner. -/
theorem Sound.activated (h : Sound g time) {role : RoomRole} {addedBy : String} {now : Nat}
    {profileCard : Option RoomProfileCardView} (howned : g.ownerDid ≠ none)
    (hrole : role = .owner → g.ownerDid = some did) :
    Sound { g with members := activate g.members did role addedBy now profileCard } time where
  hmembers := unique_activate h.hmembers
  hrole := fun member hmem howner => by
    rcases mem_activate h.hmembers hmem with ⟨hold, _⟩ | hspec
    · exact h.hrole member hold howner
    · rw [hspec.hdid]
      exact hrole (hspec.hrole.symm.trans howner)
  hunowned := fun hnone => absurd hnone howned
  hremoved := fun member hmem hinactive => by
    rcases mem_activate h.hmembers hmem with ⟨hold, _⟩ | hspec
    · exact h.hremoved member hold hinactive
    · rw [hspec.hactive] at hinactive
      cases hinactive
  hinvites := h.hinvites
  hpending := fun invite hinvite hpending => by
    obtain ⟨hrole', hother, hnewer⟩ := h.hpending invite hinvite hpending
    refine ⟨hrole', hother, fun member hmem hdid removedAt hat => ?_⟩
    rcases mem_activate h.hmembers hmem with ⟨hold, _⟩ | hspec
    · exact hnewer member hold hdid removedAt hat
    · rw [hspec.hremoved] at hat
      cases hat

/-- The first owner of a room. -/
theorem Sound.owned (h : Sound g time) {ownerDid : String}
    (hfree : g.ownerDid = none ∨ g.ownerDid = some ownerDid) :
    Sound { g with ownerDid := some ownerDid } time := by
  rcases hfree with hnone | hsome
  · obtain ⟨hmembers, hinvites⟩ := h.hunowned hnone
    refine ⟨h.hmembers, ?_, (fun hnone => by cases hnone), h.hremoved, h.hinvites, ?_⟩
    · intro member hmem
      change member ∈ g.members at hmem
      rw [hmembers] at hmem
      cases hmem
    · intro invite hmem
      change invite ∈ g.invites at hmem
      rw [hinvites] at hmem
      cases hmem
  · rw [← hsome]
    exact h

/-- Invites whose pending ones were pending before on the same terms. -/
theorem Sound.invites (h : Sound g time) {invites : List RoomInviteRecord}
    (howned : g.ownerDid = none → invites = [])
    (hunique : Unique RoomInviteRecord.key invites)
    (hpending : ∀ invite ∈ invites, invite.status = .pending → ∃ earlier ∈ g.invites,
      earlier.status = .pending ∧ earlier.role = invite.role ∧
        earlier.invitedDid = invite.invitedDid ∧ earlier.createdAt = invite.createdAt) :
    Sound { g with invites } time where
  hmembers := h.hmembers
  hrole := h.hrole
  hunowned := fun hnone => ⟨(h.hunowned hnone).1, howned hnone⟩
  hremoved := h.hremoved
  hinvites := hunique
  hpending := fun invite hmem hstatus => by
    obtain ⟨earlier, hearlier, hwas, hrole, hdid, hcreated⟩ := hpending invite hmem hstatus
    have hold := h.hpending earlier hearlier hwas
    rwa [hrole, hdid, hcreated] at hold

/-- A further invite. -/
theorem Sound.append (h : Sound g time) {invite : RoomInviteRecord} (howned : g.ownerDid ≠ none)
    (hnew : ∀ record ∈ g.invites, record.key ≠ invite.key) (hrole : invite.role ≠ .owner)
    (hother : g.ownerDid ≠ some invite.invitedDid)
    (hnewer : ∀ member ∈ g.members, member.memberDid = invite.invitedDid →
      ∀ removedAt ∈ member.removedAt, removedAt ≤ invite.createdAt) :
    Sound { g with invites := g.invites ++ [invite] } time where
  hmembers := h.hmembers
  hrole := h.hrole
  hunowned := fun hnone => absurd hnone howned
  hremoved := h.hremoved
  hinvites := h.hinvites.append_singleton hnew
  hpending := fun record hmem hstatus => by
    rcases List.mem_append.mp hmem with hold | hlast
    · exact h.hpending record hold hstatus
    · rw [List.mem_singleton.mp hlast]
      exact ⟨hrole, hother, hnewer⟩

/-- A change of one member's record, who keeps the dates or is removed with no invite pending. -/
theorem Sound.modifyMember (h : Sound g time) {p : RoomMemberRecord → Bool}
    {f : RoomMemberRecord → RoomMemberRecord}
    (hkeep : ∀ member, (f member).memberDid = member.memberDid ∧ (f member).role = member.role)
    (hdates : ∀ member, g.members.find? p = some member →
      ((f member).active = member.active ∧ (f member).removedAt = member.removedAt) ∨
        (∃ removedAt, (f member).removedAt = some removedAt ∧ removedAt ≤ time) ∧
          ∀ invite ∈ g.invites, invite.invitedDid = member.memberDid → invite.status ≠ .pending) :
    Sound { g with members := modifyFirst p f g.members } time where
  hmembers := h.hmembers.modifyFirst fun member _ => (hkeep member).1
  hrole := fun member hmem howner => by
    rcases mem_of_mem_modifyFirst hmem with hold | ⟨other, hfind, rfl⟩
    · exact h.hrole member hold howner
    · rw [(hkeep other).1]
      exact h.hrole other (List.mem_of_find?_eq_some hfind) ((hkeep other).2.symm.trans howner)
  hunowned := fun hnone => by
    obtain ⟨hmembers, hinvites⟩ := h.hunowned hnone
    exact ⟨by rw [hmembers]; rfl, hinvites⟩
  hremoved := fun member hmem hinactive => by
    rcases mem_of_mem_modifyFirst hmem with hold | ⟨other, hfind, rfl⟩
    · exact h.hremoved member hold hinactive
    · rcases hdates other hfind with ⟨hactive, hremoved⟩ | ⟨hdated, _⟩
      · rw [hremoved]
        exact h.hremoved other (List.mem_of_find?_eq_some hfind) (hactive.symm.trans hinactive)
      · exact hdated
  hinvites := h.hinvites
  hpending := fun invite hinvite hpending => by
    obtain ⟨hrole, hother, hnewer⟩ := h.hpending invite hinvite hpending
    refine ⟨hrole, hother, fun member hmem hdid removedAt hat => ?_⟩
    rcases mem_of_mem_modifyFirst hmem with hold | ⟨other, hfind, rfl⟩
    · exact hnewer member hold hdid removedAt hat
    · rw [(hkeep other).1] at hdid
      rcases hdates other hfind with ⟨_, hremoved⟩ | ⟨_, hnone⟩
      · rw [hremoved] at hat
        exact hnewer other (List.mem_of_find?_eq_some hfind) hdid removedAt hat
      · exact absurd hpending (hnone invite hinvite hdid.symm)

end

/-! ## 5. Invites that settle -/

/-- Every invite has a later record. -/
def InvitesMove (invites later : List RoomInviteRecord) : Prop :=
  ∀ invite ∈ invites, ∃ record ∈ later, invite.Later record

section

variable {invites invites' : List RoomInviteRecord} {invite record : RoomInviteRecord}

theorem RoomInviteRecord.Later.refl (invite : RoomInviteRecord) : invite.Later invite :=
  ⟨⟨rfl, rfl, rfl, rfl, rfl, rfl⟩, fun _ => ⟨rfl, rfl, rfl⟩⟩

theorem RoomInviteRecord.Later.trans {last : RoomInviteRecord} (h : invite.Later record)
    (h' : record.Later last) : invite.Later last := by
  obtain ⟨hid, hdid, hrole, hby, hcreated, hexpires⟩ := h.hterms
  obtain ⟨hid', hdid', hrole', hby', hcreated', hexpires'⟩ := h'.hterms
  refine ⟨⟨hid'.trans hid, hdid'.trans hdid, hrole'.trans hrole, hby'.trans hby,
    hcreated'.trans hcreated, hexpires'.trans hexpires⟩, fun hsettled => ?_⟩
  obtain ⟨hstatus, hat, hactor⟩ := h.hsettled hsettled
  obtain ⟨hstatus', hat', hactor'⟩ := h'.hsettled (hstatus ▸ hsettled)
  exact ⟨hstatus'.trans hstatus, hat'.trans hat, hactor'.trans hactor⟩

theorem RoomInviteRecord.Later.key_eq (h : invite.Later record) : record.key = invite.key :=
  Prod.ext h.hterms.1 h.hterms.2.1

/-- A record of the same terms and outcome. -/
theorem RoomInviteRecord.SameInvite.later (h : invite.SameInvite record) :
    invite.Later record ∧ record.status = invite.status ∧ record.actedBy = invite.actedBy := by
  rw [RoomInviteRecord.SameInvite] at h
  rw [h]
  exact ⟨⟨⟨rfl, rfl, rfl, rfl, rfl, rfl⟩, fun _ => ⟨rfl, rfl, rfl⟩⟩, rfl, rfl⟩

theorem RoomInviteRecord.later_afterExpiry (invite : RoomInviteRecord) (now : Nat) :
    invite.Later (invite.afterExpiry now) := by
  unfold RoomInviteRecord.afterExpiry
  split
  · rename_i hover
    exact ⟨⟨rfl, rfl, rfl, rfl, rfl, rfl⟩, fun hsettled => absurd hover.1 hsettled⟩
  · exact .refl invite

/-- What is still pending after expiry was pending and has not expired. -/
theorem RoomInviteRecord.pending_afterExpiry {now : Nat}
    (h : (invite.afterExpiry now).status = .pending) :
    invite.status = .pending ∧ now < invite.expiresAt ∧ invite.afterExpiry now = invite := by
  unfold RoomInviteRecord.afterExpiry at h ⊢
  split
  · rename_i hover
    rw [if_pos hover] at h
    cases h
  · rename_i hnot
    rw [if_neg hnot] at h
    exact ⟨h, not_le.mp fun hle => hnot ⟨h, hle⟩, rfl⟩

theorem RoomInviteRecord.accepted_afterExpiry {now : Nat}
    (h : (invite.afterExpiry now).status = .accepted) : invite.afterExpiry now = invite := by
  unfold RoomInviteRecord.afterExpiry at h ⊢
  split
  · rename_i hover
    rw [if_pos hover] at h
    cases h
  · rfl

theorem InvitesMove.refl (invites : List RoomInviteRecord) : InvitesMove invites invites :=
  fun invite hmem => ⟨invite, hmem, .refl invite⟩

theorem InvitesMove.trans {last : List RoomInviteRecord} (h : InvitesMove invites invites')
    (h' : InvitesMove invites' last) : InvitesMove invites last := by
  intro invite hmem
  obtain ⟨mid, hmid, hlater⟩ := h invite hmem
  obtain ⟨record, hrecord, hlast⟩ := h' mid hmid
  exact ⟨record, hrecord, hlater.trans hlast⟩

theorem invitesMove_append (invites more : List RoomInviteRecord) :
    InvitesMove invites (invites ++ more) :=
  fun invite hmem => ⟨invite, List.mem_append_left more hmem, .refl invite⟩

variable {f : RoomInviteRecord → RoomInviteRecord}

theorem invitesMove_map (hf : ∀ invite : RoomInviteRecord, invite.Later (f invite)) :
    InvitesMove invites (invites.map f) :=
  fun invite hmem => ⟨f invite, List.mem_map_of_mem hmem, hf invite⟩

theorem invitesMove_modifyFirst {p : RoomInviteRecord → Bool}
    (hf : ∀ invite, invites.find? p = some invite → invite.Later (f invite)) :
    InvitesMove invites (modifyFirst p f invites) := by
  induction invites with
  | nil => exact InvitesMove.refl []
  | cons head tail ih =>
    intro invite hmem
    rw [modifyFirst]
    by_cases hp : p head = true
    · rw [if_pos hp]
      rcases List.mem_cons.mp hmem with rfl | htail
      · exact ⟨_, List.mem_cons_self, hf invite (List.find?_cons_of_pos hp)⟩
      · exact ⟨invite, List.mem_cons_of_mem _ htail, .refl invite⟩
    · rw [if_neg hp]
      rcases List.mem_cons.mp hmem with rfl | htail
      · exact ⟨invite, List.mem_cons_self, .refl invite⟩
      · obtain ⟨record, hrecord, hlater⟩ :=
          ih (fun invite hfind => hf invite ((List.find?_cons_of_neg hp).trans hfind)) invite htail
        exact ⟨record, List.mem_cons_of_mem _ hrecord, hlater⟩

theorem forall₂_sameInvite (h : List.Forall₂ RoomInviteRecord.SameInvite invites invites') :
    InvitesMove invites invites' ∧
      invites'.map RoomInviteRecord.key = invites.map RoomInviteRecord.key ∧
      ∀ record ∈ invites', ∃ invite ∈ invites, invite.SameInvite record := by
  induction h with
  | nil => exact ⟨InvitesMove.refl [], rfl, List.forall_mem_nil _⟩
  | @cons invite record invites invites' hsame _ ih =>
    obtain ⟨hmove, hkeys, hfrom⟩ := ih
    refine ⟨?_, ?_, ?_⟩
    · refine List.forall_mem_cons.mpr ⟨⟨record, List.mem_cons_self, hsame.later.1⟩, ?_⟩
      intro other hmem
      obtain ⟨last, hlast, hlater⟩ := hmove other hmem
      exact ⟨last, List.mem_cons_of_mem _ hlast, hlater⟩
    · rw [List.map_cons, List.map_cons, hkeys, hsame.later.1.key_eq]
    · refine List.forall_mem_cons.mpr ⟨⟨invite, List.mem_cons_self, hsame⟩, ?_⟩
      intro other hmem
      obtain ⟨first, hfirst, hother⟩ := hfrom other hmem
      exact ⟨first, List.mem_cons_of_mem _ hfirst, hother⟩

end

/-! ## 6. What an operation changes -/

/-- Nobody joins. -/
structure Quiet (g g' : Governance) : Prop where
  howner : ∀ did, g.ownerDid = some did → g'.ownerDid = some did
  hinvites : InvitesMove g.invites g'.invites
  haccepted : ∀ later ∈ g'.invites, later.status = .accepted →
    ∃ invite ∈ g.invites, invite.key = later.key ∧ invite.status = .accepted
  hactive : ∀ did, g'.ownerDid ≠ some did → (activeMember g'.members did).isSome = true →
    (activeMember g.members did).isSome = true

/-- Whoever a pending invite was issued to joins by it. -/
structure Joined (g g' : Governance) (invite later : RoomInviteRecord) : Prop where
  howner : g'.ownerDid = g.ownerDid
  hinvite : invite ∈ g.invites
  hpending : invite.status = .pending
  hlater : later ∈ g'.invites
  hterms : invite.Later later
  hstatus : later.status = .accepted
  hacted : later.actedBy = some later.invitedDid
  hmember : ∃ member ∈ g'.members, Activated later.invitedDid later.role member
  hinvites : InvitesMove g.invites g'.invites
  haccepted : ∀ other ∈ g'.invites, other.status = .accepted → other = later ∨
    ∃ invite ∈ g.invites, invite.key = other.key ∧ invite.status = .accepted
  hactive : ∀ did, did ≠ later.invitedDid → (activeMember g'.members did).isSome = true →
    (activeMember g.members did).isSome = true

section

variable {g g' : Governance} {time : Nat} {did : String} {invite : RoomInviteRecord}

theorem Sound.congr (h : Sound g time) (howner : g'.ownerDid = g.ownerDid)
    (hmembers : g'.members = g.members) (hinvites : g'.invites = g.invites) : Sound g' time := by
  obtain ⟨ownerDid, current, epochs, members, invites⟩ := g
  obtain ⟨ownerDid', current', epochs', members', invites'⟩ := g'
  dsimp only at howner hmembers hinvites
  subst howner hmembers hinvites
  exact ⟨h.hmembers, h.hrole, h.hunowned, h.hremoved, h.hinvites, h.hpending⟩

theorem Sound.owned_of_mem (h : Sound g time) (hmem : invite ∈ g.invites) : g.ownerDid ≠ none := by
  intro hnone
  rw [(h.hunowned hnone).2] at hmem
  cases hmem

theorem Quiet.refl (g : Governance) : Quiet g g :=
  ⟨fun _ h => h, InvitesMove.refl _, fun later hmem hstatus => ⟨later, hmem, rfl, hstatus⟩,
    fun _ _ h => h⟩

/-- **A pending invite is accepted.** -/
theorem Sound.joined (h : Sound g time) (g' : Governance) {p : RoomInviteRecord → Bool}
    {f : RoomInviteRecord → RoomInviteRecord} {addedBy : String} {now : Nat}
    {profileCard : Option RoomProfileCardView} (hfind : g.invites.find? p = some invite)
    (hpending : invite.status = .pending) (hdid : invite.invitedDid = did)
    (hterms : ∀ record : RoomInviteRecord, record.status = .pending → record.Later (f record))
    (hstatus : ∀ record, (f record).status = .accepted)
    (hacted : (f invite).actedBy = some did) (howner : g'.ownerDid = g.ownerDid)
    (hinvites : g'.invites = modifyFirst p f g.invites)
    (hmembers : g'.members = activate g.members did invite.role addedBy now profileCard) :
    Sound g' time ∧ Joined g g' invite (f invite) := by
  have hmem : invite ∈ g.invites := List.mem_of_find?_eq_some hfind
  have howned := h.owned_of_mem hmem
  have hlater : invite.Later (f invite) := hterms invite hpending
  have hfound : ∀ record, g.invites.find? p = some record → record.Later (f record) := by
    intro record hrecord
    rw [Option.some.inj (hrecord.symm.trans hfind)]
    exact hlater
  constructor
  · have hsettled : Sound { g with invites := modifyFirst p f g.invites } time := by
      refine h.invites (fun hnone => absurd hnone howned)
        (h.hinvites.modifyFirst fun record hrecord => (hfound record hrecord).key_eq) ?_
      intro record hrecord hstill
      rcases mem_of_mem_modifyFirst hrecord with hold | ⟨other, _, rfl⟩
      · exact ⟨record, hold, hstill, rfl, rfl, rfl⟩
      · rw [hstatus] at hstill
        cases hstill
    have hjoined : Sound { g with
        invites := modifyFirst p f g.invites
        members := activate g.members did invite.role addedBy now profileCard } time :=
      hsettled.activated howned fun howner => absurd howner (h.hpending invite hmem hpending).1
    exact hjoined.congr howner hmembers hinvites
  · have hdid' : (f invite).invitedDid = did := hlater.hterms.2.1.trans hdid
    refine ⟨howner, hmem, hpending, ?_, hlater, hstatus invite, by rw [hacted, hdid'], ?_, ?_,
      ?_, ?_⟩
    · rw [hinvites]
      exact mem_modifyFirst hfind
    · rw [hmembers, hdid', hlater.hterms.2.2.1]
      exact exists_activated ..
    · rw [hinvites]
      exact invitesMove_modifyFirst hfound
    · intro other hother haccepted
      rw [hinvites] at hother
      rcases mem_of_mem_modifyFirst hother with hold | ⟨record, hrecord, rfl⟩
      · exact Or.inr ⟨other, hold, rfl, haccepted⟩
      · rw [Option.some.inj (hrecord.symm.trans hfind)]
        exact Or.inl rfl
    · intro other hne hactive
      rw [hdid'] at hne
      rw [hmembers, isSome_activeMember_activate, decide_eq_false hne, Bool.false_or] at hactive
      exact hactive

variable {invites : List RoomInviteRecord}

theorem Sound.sameInvites (h : Sound g time)
    (hsame : List.Forall₂ RoomInviteRecord.SameInvite g.invites invites) :
    Sound { g with invites } time := by
  obtain ⟨_, hkeys, hfrom⟩ := forall₂_sameInvite hsame
  refine h.invites (fun hnone => ?_) ?_ fun record hrecord hpending => ?_
  · rw [(h.hunowned hnone).2] at hsame
    exact List.forall₂_nil_left_iff.mp hsame
  · rw [Records.Unique, hkeys]
    exact h.hinvites
  · obtain ⟨earlier, hearlier, hsameInvite⟩ := hfrom record hrecord
    obtain ⟨hlater, hstatus, _⟩ := hsameInvite.later
    exact ⟨earlier, hearlier, hstatus.symm.trans hpending, hlater.hterms.2.2.1.symm,
      hlater.hterms.2.1.symm, hlater.hterms.2.2.2.2.1.symm⟩

theorem Quiet.sameInvites (hsame : List.Forall₂ RoomInviteRecord.SameInvite g.invites invites) :
    Quiet g { g with invites } := by
  obtain ⟨hmove, _, hfrom⟩ := forall₂_sameInvite hsame
  refine ⟨fun _ h => h, hmove, fun later hlater haccepted => ?_, fun _ _ h => h⟩
  obtain ⟨earlier, hearlier, hsameInvite⟩ := hfrom later hlater
  obtain ⟨hterms, hstatus, _⟩ := hsameInvite.later
  exact ⟨earlier, hearlier, hterms.key_eq.symm, hstatus.symm.trans haccepted⟩

theorem Quiet.append (hpending : invite.status = .pending) :
    Quiet g { g with invites := g.invites ++ [invite] } := by
  refine ⟨fun _ h => h, invitesMove_append _ _, fun later hlater haccepted => ?_, fun _ _ h => h⟩
  rcases List.mem_append.mp hlater with hold | hnew
  · exact ⟨later, hold, rfl, haccepted⟩
  · rw [List.mem_singleton.mp hnew, hpending] at haccepted
    cases haccepted

variable {invite : ValidatedRoomInvite}

theorem Sound.imported (h : Sound g time) (himports : g.Imports invite)
    (hstorable : Storable g invite) : Sound (g.imported invite) time := by
  have howner : some (g.ownerDid.getD invite.payload.ownerProfileDid) =
      some invite.payload.ownerProfileDid := by
    rcases himports.howner with howner | howner <;> rw [howner] <;> rfl
  have hmembers : (g.imported invite).members = activate g.members
      invite.payload.ownerProfileDid .owner invite.payload.ownerProfileDid
        invite.payload.createdAt (if invite.payload.ownerProfileDid =
          invite.payload.invitedByProfileDid then
            some (roomProfileCardFromVerified invite.inviterProfile) else none) :=
    if_pos hstorable.howner
  have hseated : Sound { g with
      ownerDid := some invite.payload.ownerProfileDid
      members := (g.imported invite).members } time := by
    rw [hmembers]
    exact (h.owned himports.howner).activated (Option.some_ne_none _) fun _ => rfl
  have hnewer : ∀ member ∈ (g.imported invite).members,
      member.memberDid = invite.record.invitedDid →
        ∀ removedAt ∈ member.removedAt, removedAt ≤ invite.record.createdAt := by
    intro member hmem hdid removedAt hat
    rw [hmembers] at hmem
    rcases mem_activate h.hmembers hmem with ⟨hold, _⟩ | hspec
    · exact hstorable.hnewer member hold hdid removedAt hat
    · rw [hspec.hremoved] at hat
      cases hat
  have hdone : Sound { g with
      ownerDid := some invite.payload.ownerProfileDid
      members := (g.imported invite).members
      invites := g.invites ++ [invite.record] } time :=
    hseated.append (Option.some_ne_none _) hstorable.hnew hstorable.hrole
      (fun hsame => hstorable.howner (Option.some.inj hsame)) hnewer
  exact hdone.congr howner rfl rfl

theorem Quiet.imported (himports : g.Imports invite) : Quiet g (g.imported invite) := by
  refine ⟨fun did howner => ?_, invitesMove_append _ _, fun later hlater haccepted => ?_,
    fun did hdid hactive => ?_⟩
  · simp [Governance.imported, howner]
  · rcases List.mem_append.mp hlater with hold | hnew
    · exact ⟨later, hold, rfl, haccepted⟩
    · rw [List.mem_singleton.mp hnew] at haccepted
      cases haccepted
  · rwa [Governance.isActive_imported himports.howner hdid] at hactive

theorem Sound.importMove (h : Sound g time) (himport : g.ImportMove invite g')
    (hstorable : g.Imports invite → Storable g invite) : Sound g' time ∧ Quiet g g' := by
  cases himport with
  | found hsame => exact ⟨h.sameInvites hsame, Quiet.sameInvites hsame⟩
  | stored himports => exact ⟨h.imported himports (hstorable himports), Quiet.imported himports⟩

end

/-! ## 7. What a step changes -/

/-- An invite that adopting has stored. -/
structure StoredNow (clock : Clock) (invite : ValidatedRoomInvite) (start mid : Governance)
    (record : RoomInviteRecord) : Prop where
  hnew : ∀ earlier ∈ start.invites, earlier.key ≠ record.key
  hnewer : ∀ member ∈ start.members, member.memberDid = record.invitedDid →
    ∀ removedAt ∈ member.removedAt, removedAt ≤ record.createdAt
  hexpires : clock.loadedAt < record.expiresAt
  howner : mid.ownerDid = some invite.payload.ownerProfileDid

/-- What an allowed operation does to a sound governance: nobody joins, or one joins by a pending
invite, which adopting may have stored just before. -/
inductive Change (clock : Clock) (state : RoomState) (op : Operation) (g' : Governance) : Prop
  | quiet (hquiet : Quiet state.governance g')
  | joined {invite later : RoomInviteRecord} (hjoined : Joined state.governance g' invite later)
  | adopted {envelope : SignedEnvelope SignedRoomInvitePayload} {localProfile : VerifiedProfile}
      {dirs : RoomDirs} {invite : ValidatedRoomInvite} {start mid : Governance}
      {record later : RoomInviteRecord} (hop : op = .adoptInvite envelope localProfile dirs)
      (hstart : AdoptionStart state invite start) (hquiet : Quiet start mid)
      (hother : mid.ownerDid ≠ some record.invitedDid) (hjoined : Joined mid g' record later)
      (hrecord : (∃ earlier ∈ start.invites, earlier.SameInvite record) ∨
        StoredNow clock invite start mid record)

section

variable {g g' : Governance} {time : Nat} {clock : Clock} {state : RoomState} {op : Operation}

theorem sound_fresh (time : Nat) : Sound ⟨none, 1, [1], [], []⟩ time :=
  ⟨Unique.nil, List.forall_mem_nil _, fun _ => ⟨rfl, rfl⟩, List.forall_mem_nil _, Unique.nil,
    List.forall_mem_nil _⟩

variable {invite : RoomInviteRecord}

variable {inviteId did ownerDid : String}

theorem Sound.accepted (h : Sound g time) (now : Nat)
    (hfind : g.invites.find? (isPending inviteId did) = some invite) :
    Sound (g.accepted inviteId did invite now) time ∧ ∃ later,
      Joined g (g.accepted inviteId did invite now) invite later := by
  obtain ⟨_, hpending, hdid⟩ := isPending_iff.mp (List.find?_some hfind)
  obtain ⟨hsound, hjoined⟩ := h.joined (g.accepted inviteId did invite now)
    (f := fun invite => { invite with
      status := .accepted, actedAt := some now, actedBy := some did }) hfind hpending hdid
    (fun record hrecord => ⟨⟨rfl, rfl, rfl, rfl, rfl, rfl⟩, fun hne => absurd hrecord hne⟩)
    (fun _ => rfl) rfl rfl rfl rfl
  exact ⟨hsound, _, hjoined⟩

variable {acceptance : ValidatedRoomAcceptance}

theorem Sound.entered (h : Sound g time) (henters : g.Enters acceptance ownerDid invite) :
    Sound (g.entered acceptance ownerDid) time ∧ ∃ later,
      Joined g (g.entered acceptance ownerDid) invite later := by
  have hanswers := List.find?_some henters.hfind
  have hdid : invite.invitedDid = acceptance.memberDid := by
    simp only [ValidatedRoomAcceptance.answers, Bool.and_eq_true, decide_eq_true_eq] at hanswers
    exact hanswers.2
  have howner : (g.entered acceptance ownerDid).ownerDid = g.ownerDid := by
    have howned := henters.howner.resolve_left
      (h.owned_of_mem (List.mem_of_find?_eq_some henters.hfind))
    simp [Governance.entered, Governance.rotated, howned]
  obtain ⟨hsound, hjoined⟩ := h.joined (g.entered acceptance ownerDid)
    (f := fun invite => { invite with
      status := .accepted
      actedAt := some acceptance.payload.acceptedAt
      actedBy := some acceptance.memberDid
      acceptanceEnvelopeSha256 := some acceptance.envelopeSha256 })
    henters.hfind henters.hpending hdid
    (fun record hrecord => ⟨⟨rfl, rfl, rfl, rfl, rfl, rfl⟩, fun hne => absurd hrecord hne⟩)
    (fun _ => rfl) rfl howner rfl (by rw [henters.hrole]; rfl)
  exact ⟨hsound, _, hjoined⟩

theorem Sound.replayed (h : Sound g time) (hreplays : g.Replays acceptance ownerDid invite) :
    Sound (g.replayed acceptance ownerDid) time ∧ Quiet g (g.replayed acceptance ownerDid) := by
  have howned := hreplays.howner.resolve_left
    (h.owned_of_mem (List.mem_of_find?_eq_some hreplays.hfind))
  have howner : (g.replayed acceptance ownerDid).ownerDid = g.ownerDid := by
    simp [Governance.replayed, howned]
  have hsame := sameInvite_modifyFirst (p := acceptance.answers) (f := fun invite =>
    { invite with acceptanceEnvelopeSha256 := some acceptance.envelopeSha256 })
    (fun _ => rfl) g.invites
  have hinvites := h.sameInvites hsame
  have hmembers := hinvites.modifyMember
    (p := fun member => member.active && member.memberDid = acceptance.memberDid)
    (f := fun member => { member with
      profileCard := some (roomProfileCardFromVerified acceptance.memberProfile) })
    (fun _ => ⟨rfl, rfl⟩) fun _ _ => Or.inl ⟨rfl, rfl⟩
  have hquiet := Quiet.sameInvites hsame
  refine ⟨hmembers.congr howner rfl rfl, fun did hdid => howner.trans hdid, hquiet.hinvites,
    hquiet.haccepted, fun did _ hactive => ?_⟩
  have hsameActive : (activeMember (g.replayed acceptance ownerDid).members did).isSome =
    (activeMember g.members did).isSome := activeMember_modifyFirst fun _ => ⟨rfl, rfl⟩
  exact hsameActive ▸ hactive

theorem Sound.revoked (h : Sound g time) {now : Nat} :
    Sound { g with invites := modifyFirst (fun invite => invite.inviteId = inviteId &&
      invite.status = .pending) (fun invite => { invite with
        status := .revoked, actedAt := some now, actedBy := some did }) g.invites } time ∧
    Quiet g { g with invites := modifyFirst (fun invite => invite.inviteId = inviteId &&
      invite.status = .pending) (fun invite => { invite with
        status := .revoked, actedAt := some now, actedBy := some did }) g.invites } := by
  constructor
  · refine h.invites (fun hnone => ?_) (h.hinvites.modifyFirst fun _ _ => rfl) ?_
    · rw [(h.hunowned hnone).2]
      rfl
    · intro record hrecord hpending
      rcases mem_of_mem_modifyFirst hrecord with hold | ⟨other, _, rfl⟩
      · exact ⟨record, hold, hpending, rfl, rfl, rfl⟩
      · cases hpending
  · refine ⟨fun _ h => h, invitesMove_modifyFirst fun record hfind => ?_,
      fun later hlater haccepted => ?_, fun _ _ h => h⟩
    · have hpending := List.find?_some hfind
      simp only [Bool.and_eq_true, decide_eq_true_eq] at hpending
      exact ⟨⟨rfl, rfl, rfl, rfl, rfl, rfl⟩, fun hne => absurd hpending.2 hne⟩
    · rcases mem_of_mem_modifyFirst hlater with hold | ⟨other, _, rfl⟩
      · exact ⟨later, hold, rfl, haccepted⟩
      · cases haccepted

theorem Sound.removed (h : Sound g time) {actor : String}
    (hnone : ∀ invite ∈ g.invites, invite.invitedDid = did → invite.status ≠ .pending) :
    Sound (g.removed actor did time) time ∧ Quiet g (g.removed actor did time) := by
  constructor
  · have hmembers := h.modifyMember
      (p := fun member => member.active && member.memberDid = did)
      (f := fun member => { member with
        active := false, removedAt := some time, removedBy := some actor })
      (fun _ => ⟨rfl, rfl⟩) fun member hfind => by
        have hdid := List.find?_some hfind
        simp only [Bool.and_eq_true, decide_eq_true_eq] at hdid
        rw [hdid.2]
        exact Or.inr ⟨⟨time, rfl, le_rfl⟩, hnone⟩
    exact hmembers.congr rfl rfl rfl
  · refine ⟨fun _ h => h, InvitesMove.refl _, fun later hlater haccepted =>
      ⟨later, hlater, rfl, haccepted⟩, fun other _ hactive => ?_⟩
    obtain ⟨member, hmem, hactive, hdid⟩ := isSome_activeMember.mp hactive
    rcases mem_of_mem_modifyFirst hmem with hold | ⟨gone, _, rfl⟩
    · exact isSome_activeMember.mpr ⟨member, hold, hactive, hdid⟩
    · cases hactive

variable {invite : ValidatedRoomInvite}

theorem AdoptionStart.sound {start : Governance} (hstart : AdoptionStart state invite start)
    (h : Sound state.governance time) : Sound start time := by
  cases hstart with
  | same => exact h
  | fresh => exact sound_fresh time

/-- Adopting stores an invite, or finds it on record, and accepts it. -/
theorem Sound.adopted {record : RoomInviteRecord} {start mid : Governance}
    {envelope : SignedEnvelope SignedRoomInvitePayload} {localProfile : VerifiedProfile}
    {dirs : RoomDirs} (hsound : Sound start clock.now) (hstart : AdoptionStart state invite start)
    (himport : start.ImportMove invite mid)
    (hstorable : start.Imports invite → Storable start invite ∧ clock.loadedAt <
      invite.payload.expiresAt)
    (hfind : mid.invites.find? (isPending invite.payload.inviteId invite.localProfileDid) = some
      record) :
    Sound (mid.accepted invite.payload.inviteId invite.localProfileDid record clock.now) clock.now ∧
      Change clock state (.adoptInvite envelope localProfile dirs)
        (mid.accepted invite.payload.inviteId invite.localProfileDid record clock.now) := by
  obtain ⟨hmid, hquiet⟩ := hsound.importMove himport fun himports => (hstorable himports).1
  obtain ⟨haccepted, later, hjoined⟩ := hmid.accepted clock.now hfind
  have hmem := List.mem_of_find?_eq_some hfind
  have hpending := (isPending_iff.mp (List.find?_some hfind)).2.1
  refine ⟨haccepted, .adopted rfl hstart hquiet (hmid.hpending record hmem hpending).2.1 hjoined ?_⟩
  cases himport with
  | found hsame => exact Or.inl ((forall₂_sameInvite hsame).2.2 record hmem)
  | stored himports =>
    obtain ⟨hstore, hexpires⟩ := hstorable himports
    have hrecord : record = invite.record := by
      rcases List.mem_append.mp hmem with hold | hnew
      · exact absurd (List.find?_some hfind) (List.find?_eq_none.mp himports.hnone record hold)
      · exact List.mem_singleton.mp hnew
    rw [hrecord]
    refine Or.inr ⟨hstore.hnew, hstore.hnewer, hexpires, ?_⟩
    rcases himports.howner with howner | howner <;> simp [Governance.imported, howner]

theorem Move.sound (hmove : Move clock state op g') (h : Sound state.governance clock.now)
    (hseated : Seated state.governance) (hallowed : op.Allowed clock state) :
    Sound g' clock.now ∧ Change clock state op g' := by
  cases hmove with
  | kept => exact ⟨h, .quiet (Quiet.refl _)⟩
  | @seeded input title ownerDid createdAt hfree =>
    refine ⟨?_, .quiet ⟨fun did howner => ?_, InvitesMove.refl _, fun later hlater haccepted =>
      ⟨later, hlater, rfl, haccepted⟩, fun did hdid hactive => ?_⟩⟩
    · exact (h.owned hfree).activated (Option.some_ne_none _) fun _ => rfl
    · exact (hfree.resolve_left fun hnone => by cases hnone.symm.trans howner).symm.trans howner
    · have hne : did ≠ ownerDid := fun hsame => hdid (congrArg some hsame.symm)
      rwa [isSome_activeMember_activate, decide_eq_false hne, Bool.false_or] at hactive
  | @invited input drawnId invite howner hrole hinactive hid hdid hpending hcreated =>
    refine ⟨h.append howner (fun record hrecord hsame => ?_) ?_ (fun howner => ?_)
      fun member hmem hmember removedAt hat => ?_, .quiet (Quiet.append hpending)⟩
    · exact hallowed record hrecord ((congrArg Prod.fst hsame).trans hid)
    · obtain ⟨role, hrole⟩ := hrole
      intro howner
      rw [howner] at hrole
      cases role <;> cases hrole
    · obtain ⟨member, hmem, hspec⟩ := hseated _ howner
      have hsome := isSome_activeMember.mpr ⟨member, hmem, hspec.hactive, hspec.hdid⟩
      change (activeMember state.members _).isSome = true at hsome
      rw [hinactive] at hsome
      cases hsome
    · have hgone : member.active = false := by
        by_contra hactive
        have hsome := isSome_activeMember.mpr
          ⟨member, hmem, by simpa using hactive, hmember⟩
        change (activeMember state.members _).isSome = true at hsome
        rw [hinactive] at hsome
        cases hsome
      obtain ⟨removed, hremoved, hle⟩ := h.hremoved member hmem hgone
      rw [hremoved] at hat
      cases hat
      rw [hcreated]
      exact hle
  | noted hsame => exact ⟨h.sameInvites hsame, .quiet (Quiet.sameInvites hsame)⟩
  | @imported envelope localProfile invite g hvalid himport =>
    obtain ⟨hsound, hquiet⟩ := h.importMove himport (hallowed invite hvalid)
    exact ⟨hsound, .quiet hquiet⟩
  | @adopted envelope localProfile dirs invite record start mid hvalid hstart himport hfind =>
    exact (hstart.sound h).adopted hstart himport (hallowed invite start hvalid hstart) hfind
  | accepted hdid hfind =>
    obtain ⟨hsound, later, hjoined⟩ := h.accepted clock.now hfind
    exact ⟨hsound, .joined hjoined⟩
  | entered hvalid henters =>
    obtain ⟨hsound, later, hjoined⟩ := h.entered henters
    exact ⟨hsound, .joined hjoined⟩
  | replayed hvalid hreplays =>
    obtain ⟨hsound, hquiet⟩ := h.replayed hreplays
    exact ⟨hsound, .quiet hquiet⟩
  | revoked =>
    obtain ⟨hsound, hquiet⟩ := h.revoked
    exact ⟨hsound, .quiet hquiet⟩
  | @removed actorDid actor memberDid did member hdid hfind hrole =>
    obtain ⟨hsound, hquiet⟩ := h.removed (hallowed did hdid)
    exact ⟨hsound, .quiet hquiet⟩
  | rotated =>
    exact ⟨h.rotated, .quiet ⟨fun _ howner => howner, InvitesMove.refl _,
      fun later hlater haccepted => ⟨later, hlater, rfl, haccepted⟩, fun _ _ hactive => hactive⟩⟩

end

/-! ## 8. What is loaded -/

section

variable {g : Governance} {time : Nat} {w w' : World} {l : Label} {clock : Clock}
  {member : RoomMemberRecord}

theorem Sound.repaired (h : Sound g time) (createdAt : Nat) :
    Sound (g.repaired createdAt) time ∧ Seated (g.repaired createdAt) := by
  cases howner : g.ownerDid with
  | none =>
    refine ⟨h.congr rfl ?_ rfl, fun did hdid => ?_⟩
    · simp [Governance.repaired, howner]
    · change g.ownerDid = some did at hdid
      rw [howner] at hdid
      cases hdid
  | some ownerDid =>
    have hmembers : (g.repaired createdAt).members =
        activate g.members ownerDid .owner ownerDid createdAt none := by
      simp [Governance.repaired, howner]
    have hsound : Sound { g with
        members := activate g.members ownerDid .owner ownerDid createdAt none } time :=
      h.activated (fun hnone => by cases howner.symm.trans hnone) fun _ => howner
    refine ⟨hsound.congr rfl hmembers rfl, fun did hdid => ?_⟩
    rw [hmembers, ← Option.some.inj (howner.symm.trans hdid)]
    exact exists_activated ..

theorem Sound.expired (h : Sound g time) (now : Nat) :
    Sound { g with invites := g.invites.map (·.afterExpiry now) } time := by
  refine h.invites (fun hnone => ?_) ?_ fun record hrecord hpending => ?_
  · rw [(h.hunowned hnone).2, List.map_nil]
  · rw [Records.Unique, List.map_map]
    have hkeys : RoomInviteRecord.key ∘ (·.afterExpiry now) = RoomInviteRecord.key :=
      funext fun invite => (invite.later_afterExpiry now).key_eq
    rw [hkeys]
    exact h.hinvites
  · obtain ⟨invite, hinvite, rfl⟩ := List.mem_map.mp hrecord
    obtain ⟨hwas, _, hsame⟩ := RoomInviteRecord.pending_afterExpiry hpending
    exact ⟨invite, hinvite, hwas, by rw [hsame], by rw [hsame], by rw [hsame]⟩

theorem Sound.room (h : Sound w.files.governance time) :
    Sound w.room.governance time ∧ Seated w.room.governance := by
  obtain ⟨createdAt, hroom⟩ := room_governance w
  rw [hroom]
  exact h.repaired createdAt

theorem Sound.loaded (h : Sound w.files.governance time) (clock : Clock) :
    Sound (w.loaded clock).governance time ∧ Seated (w.loaded clock).governance := by
  obtain ⟨createdAt, hloaded⟩ := loaded_governance w clock
  obtain ⟨hsound, hseated⟩ := h.repaired createdAt
  rw [hloaded]
  exact ⟨hsound.expired clock.loadedAt, hseated⟩

theorem Sound.authority (h : Sound w.files.governance time) : Authority w := by
  obtain ⟨hsound, hseated⟩ := h.room
  refine ⟨hsound.hmembers, fun did howner => ?_, hsound.hrole, hsound.hinvites⟩
  obtain ⟨member, hmem, hspec⟩ := hseated did howner
  exact ⟨member, hmem, hspec.hdid, hspec.hactive, hspec.hrole⟩

/-- A member other than the owner is loaded as it is kept. -/
theorem mem_repaired_iff (h : Sound g time) {createdAt : Nat}
    (hother : g.ownerDid ≠ some member.memberDid) :
    member ∈ (g.repaired createdAt).members ↔ member ∈ g.members := by
  cases howner : g.ownerDid with
  | none => simp [Governance.repaired, howner]
  | some ownerDid =>
    have hne : member.memberDid ≠ ownerDid := fun hsame => hother (howner.trans (by rw [hsame]))
    have hmembers : (g.repaired createdAt).members =
        activate g.members ownerDid .owner ownerDid createdAt none := by
      simp [Governance.repaired, howner]
    rw [hmembers]
    constructor
    · intro hmem
      rcases mem_activate h.hmembers hmem with ⟨hold, _⟩ | hspec
      · exact hold
      · exact absurd hspec.hdid hne
    · exact fun hmem => mem_activate_of_ne hmem hne

theorem mem_room_iff (h : Sound w.files.governance time)
    (hother : w.files.governance.ownerDid ≠ some member.memberDid) :
    member ∈ w.room.members ↔ member ∈ w.files.governance.members := by
  obtain ⟨createdAt, hroom⟩ := room_governance w
  have hmembers : w.room.members = (w.files.governance.repaired createdAt).members :=
    congrArg Governance.members hroom
  rw [hmembers]
  exact mem_repaired_iff h hother

theorem mem_loaded_iff (h : Sound w.files.governance time)
    (hother : w.files.governance.ownerDid ≠ some member.memberDid) :
    member ∈ (w.loaded clock).members ↔ member ∈ w.files.governance.members := by
  obtain ⟨createdAt, hloaded⟩ := loaded_governance w clock
  have hmembers : (w.loaded clock).members = (w.files.governance.repaired createdAt).members :=
    congrArg Governance.members hloaded
  rw [hmembers]
  exact mem_repaired_iff h hother

/-- A member of a room that is inactive: not the owner, loaded as it is, and removed. -/
structure Removed (w : World) (clock : Clock) (member : RoomMemberRecord) : Prop where
  hother : w.room.control.ownerDid ≠ some member.memberDid
  howned : w.room.control.ownerDid ≠ none
  hloaded : member ∈ (w.loaded clock).members
  hinactive : (activeMember (w.loaded clock).members member.memberDid).isSome = false
  hremoved : ∃ removedAt, member.removedAt = some removedAt

theorem Sound.removed_of_inactive (h : Sound w.files.governance time) (clock : Clock)
    (hmem : member ∈ w.room.members) (hgone : member.active = false) : Removed w clock member := by
  obtain ⟨hroom, hseated⟩ := h.room
  have hfiles : w.room.control.ownerDid = w.files.governance.ownerDid := by
    obtain ⟨createdAt, hroom⟩ := room_governance w
    exact congrArg Governance.ownerDid hroom
  have hother : w.room.control.ownerDid ≠ some member.memberDid := by
    intro howner
    have hspec := hroom.seated_role hseated howner hmem rfl
    rw [hspec.hactive] at hgone
    cases hgone
  have hkept := (mem_room_iff h (hfiles ▸ hother)).mp hmem
  have hloaded : member ∈ (w.loaded clock).members :=
    (mem_loaded_iff h (hfiles ▸ hother)).mpr hkept
  refine ⟨hother, fun hnone => ?_, hloaded, ?_, ?_⟩
  · rw [hfiles] at hnone
    rw [(h.hunowned hnone).1] at hkept
    cases hkept
  · by_contra hactive
    obtain ⟨other, hotherMem, hactive, hdid⟩ :=
      isSome_activeMember.mp (eq_true_of_ne_false hactive)
    have hsame := (h.loaded clock).1.hmembers.eq hotherMem hloaded hdid
    rw [hsame, hgone] at hactive
    cases hactive
  · obtain ⟨removedAt, hremoved, _⟩ := hroom.hremoved member hmem hgone
    exact ⟨removedAt, hremoved⟩

theorem looksUnused_spec {state : RoomState} {did : String} (h : looksUnused state did = true) :
    state.invites = [] ∧ ∀ member ∈ state.members, member.active = true := by
  unfold looksUnused at h
  dsimp only at h
  split at h
  · rename_i only hone
    simp only [Bool.and_eq_true, decide_eq_true_eq] at h
    refine ⟨by tauto, fun member hmem => ?_⟩
    rw [hone, List.mem_singleton] at hmem
    rw [hmem]
    tauto
  · simp at h

end

/-! ## 9. Steps and runs -/

section

variable {time time' : Nat} {w w' : World} {l : Label} {clock : Clock} {invite : RoomInviteRecord}

theorem ownerDid_room (w : World) : w.room.control.ownerDid = w.files.governance.ownerDid := by
  obtain ⟨createdAt, hroom⟩ := room_governance w
  exact congrArg Governance.ownerDid hroom

theorem ownerDid_loaded (w : World) (clock : Clock) :
    (w.loaded clock).control.ownerDid = w.room.control.ownerDid := (shown_loaded w clock).howner

theorem isActive_files (w : World) (did : String) :
    w.isActive did = (decide (w.files.governance.ownerDid = some did) ||
      (activeMember w.files.governance.members did).isSome) := by
  rw [← Governance.isActive_repaired _ 0]
  exact ((shown_repaired w 0).hactive did).symm

theorem invitesMove_loaded (w : World) (clock : Clock) :
    InvitesMove w.room.invites (w.loaded clock).invites := by
  rw [invites_loaded]
  exact invitesMove_map fun invite => invite.later_afterExpiry _

theorem accepted_loaded (hmem : invite ∈ (w.loaded clock).invites)
    (haccepted : invite.status = .accepted) : invite ∈ w.room.invites := by
  rw [invites_loaded] at hmem
  obtain ⟨earlier, hearlier, rfl⟩ := List.mem_map.mp hmem
  rw [RoomInviteRecord.accepted_afterExpiry haccepted]
  exact hearlier

theorem pending_loaded (hmem : invite ∈ (w.loaded clock).invites)
    (hpending : invite.status = .pending) : clock.loadedAt < invite.expiresAt := by
  rw [invites_loaded] at hmem
  obtain ⟨earlier, hearlier, rfl⟩ := List.mem_map.mp hmem
  obtain ⟨_, hexpires, hsame⟩ := RoomInviteRecord.pending_afterExpiry hpending
  rw [hsame]
  exact hexpires

variable {record later : RoomInviteRecord}

variable {g mid : Governance}

/-- Whoever joins accepts the invite. -/
theorem Joined.accepts (hjoined : Joined g w'.files.governance record later)
    (h' : Sound w'.files.governance time') (hother : g.ownerDid ≠ some record.invitedDid)
    (hpending : ∀ earlier ∈ (w.loaded l.2).invites, earlier.key = record.key → earlier.status =
      .pending) (hexpires : l.2.loadedAt < record.expiresAt) : Accepts w l w' later := by
  refine ⟨?_, hjoined.hstatus, ?_, ?_, hjoined.hacted, ?_⟩
  · rw [invites_room]
    exact hjoined.hlater
  · rw [hjoined.hterms.key_eq]
    exact hpending
  · rw [hjoined.hterms.hterms.2.2.2.2.2]
    exact hexpires
  · obtain ⟨member, hmem, hspec⟩ := hjoined.hmember
    refine ⟨member, ?_, hspec.hdid, hspec.hactive, hspec.hrole⟩
    refine (mem_room_iff h' ?_).mpr hmem
    rw [hjoined.howner, hspec.hdid, hjoined.hterms.hterms.2.1]
    exact hother

/-- Whoever is active after nobody has joined was active, or owns the room now. -/
theorem Quiet.inactive {g' : Governance} (h : Quiet g g') {did owner : String}
    (howner : g.ownerDid = some owner) (hne : owner ≠ did)
    (hinactive : (activeMember g.members did).isSome = false) :
    g'.ownerDid ≠ some did ∧ (activeMember g'.members did).isSome = false := by
  have hother : g'.ownerDid ≠ some did := by
    rw [h.howner owner howner]
    exact fun hsame => hne (Option.some.inj hsame)
  refine ⟨hother, ?_⟩
  by_contra hactive
  rw [h.hactive did hother (eq_true_of_ne_false hactive)] at hinactive
  cases hinactive

theorem Change.quiet_step (h : Sound w.files.governance time) (hrefused : ¬Refused w l)
    (hquiet : Quiet (w.loaded l.2).governance w'.files.governance) : AuthorityStep w l w' := by
  refine ⟨fun h => absurd h hrefused, fun did howner => Or.inl ?_, ?_,
    fun later hlater haccepted => ?_, fun member hmem hgone hactive => ?_⟩
  · rw [ownerDid_room w']
    exact hquiet.howner did ((ownerDid_loaded w l.2).trans howner)
  · rw [invites_room w']
    exact (invitesMove_loaded w l.2).trans hquiet.hinvites
  · rw [invites_room w'] at hlater
    obtain ⟨earlier, hearlier, hkey, hwas⟩ := hquiet.haccepted later hlater haccepted
    exact Or.inl ⟨earlier, accepted_loaded hearlier hwas, hkey, hwas⟩
  · have hremoved := h.removed_of_inactive l.2 hmem hgone
    obtain ⟨owner, howner⟩ := Option.ne_none_iff_exists'.mp hremoved.howned
    obtain ⟨hother, hinactive⟩ := hquiet.inactive ((ownerDid_loaded w l.2).trans howner)
      (fun hsame => hremoved.hother (howner.trans (congrArg some hsame))) hremoved.hinactive
    rw [isActive_files, decide_eq_false hother, hinactive] at hactive
    cases hactive

theorem Change.joined_step (h : Sound w.files.governance time)
    (h' : Sound w'.files.governance time') (hrefused : ¬Refused w l)
    (hjoined : Joined (w.loaded l.2).governance w'.files.governance invite later) :
    AuthorityStep w l w' := by
  have hloaded := (h.loaded l.2).1
  obtain ⟨_, hother, hnewer⟩ := hloaded.hpending invite hjoined.hinvite hjoined.hpending
  have haccepts : Accepts w l w' later := hjoined.accepts h' hother
    (fun earlier hearlier hkey => by
      rw [hloaded.hinvites.eq hearlier hjoined.hinvite hkey]
      exact hjoined.hpending) (pending_loaded hjoined.hinvite hjoined.hpending)
  refine ⟨fun h => absurd h hrefused, fun did howner => Or.inl ?_, ?_,
    fun other hmem haccepted => ?_, fun member hmem hgone hactive => ?_⟩
  · rw [ownerDid_room w', hjoined.howner]
    exact (ownerDid_loaded w l.2).trans howner
  · rw [invites_room w']
    exact (invitesMove_loaded w l.2).trans hjoined.hinvites
  · rw [invites_room w'] at hmem
    rcases hjoined.haccepted other hmem haccepted with rfl | ⟨earlier, hearlier, hkey, hwas⟩
    · exact Or.inr haccepts
    · exact Or.inl ⟨earlier, accepted_loaded hearlier hwas, hkey, hwas⟩
  · have hremoved := h.removed_of_inactive l.2 hmem hgone
    obtain ⟨removedAt, hat⟩ := hremoved.hremoved
    have hdid : member.memberDid = later.invitedDid := by
      by_contra hne
      have howner : (w.loaded l.2).governance.ownerDid ≠ some member.memberDid :=
        (ownerDid_loaded w l.2).trans_ne hremoved.hother
      rw [isActive_files, hjoined.howner, decide_eq_false howner, Bool.false_or] at hactive
      have hbefore := hjoined.hactive _ hne hactive
      cases hbefore.symm.trans hremoved.hinactive
    refine ⟨later, haccepts, hdid.symm, removedAt, hat, ?_⟩
    rw [hjoined.hterms.hterms.2.2.2.2.1]
    exact hnewer member hremoved.hloaded (hdid.trans hjoined.hterms.hterms.2.1) removedAt hat

variable {invite : ValidatedRoomInvite}

/-- An invite that is stored, or found, and accepted in the same room. -/
theorem Change.adopted_step (h : Sound w.files.governance time)
    (h' : Sound w'.files.governance time') (hrefused : ¬Refused w l)
    (hquiet : Quiet (w.loaded l.2).governance mid) (hother : mid.ownerDid ≠ some record.invitedDid)
    (hjoined : Joined mid w'.files.governance record later)
    (hrecord : (∃ earlier ∈ (w.loaded l.2).governance.invites, earlier.SameInvite record) ∨
      StoredNow l.2 invite (w.loaded l.2).governance mid record) : AuthorityStep w l w' := by
  have hloaded := (h.loaded l.2).1
  have hterms : (∀ earlier ∈ (w.loaded l.2).invites, earlier.key = record.key →
        earlier.status = .pending) ∧ l.2.loadedAt < record.expiresAt ∧
      ∀ member ∈ (w.loaded l.2).members, member.memberDid = record.invitedDid →
        ∀ removedAt ∈ member.removedAt, removedAt ≤ record.createdAt := by
    rcases hrecord with ⟨earlier, hearlier, hsame⟩ | hstored
    · obtain ⟨hlater, hstatus, _⟩ := hsame.later
      obtain ⟨_, hdid, _, _, hcreated, hexpires⟩ := hlater.hterms
      have hpending := hstatus.symm.trans hjoined.hpending
      refine ⟨fun other hmem hkey => ?_, ?_, ?_⟩
      · rw [hloaded.hinvites.eq hmem hearlier (hkey.trans hlater.key_eq)]
        exact hpending
      · rw [hexpires]
        exact pending_loaded hearlier hpending
      · rw [hdid, hcreated]
        exact (hloaded.hpending earlier hearlier hpending).2.2
    · exact ⟨fun other hmem hkey => absurd hkey (hstored.hnew other hmem), hstored.hexpires,
        hstored.hnewer⟩
  obtain ⟨hpending, hexpires, hnewer⟩ := hterms
  have haccepts : Accepts w l w' later := hjoined.accepts h' hother hpending hexpires
  refine ⟨fun h => absurd h hrefused, fun did howner => Or.inl ?_, ?_,
    fun other hmem haccepted => ?_, fun member hmem hgone hactive => ?_⟩
  · rw [ownerDid_room w', hjoined.howner]
    exact hquiet.howner did ((ownerDid_loaded w l.2).trans howner)
  · rw [invites_room w']
    exact ((invitesMove_loaded w l.2).trans hquiet.hinvites).trans hjoined.hinvites
  · rw [invites_room w'] at hmem
    rcases hjoined.haccepted other hmem haccepted with rfl | ⟨mid, hmid, hkey, hwas⟩
    · exact Or.inr haccepts
    · obtain ⟨earlier, hearlier, hkey', hwas'⟩ := hquiet.haccepted mid hmid hwas
      exact Or.inl ⟨earlier, accepted_loaded hearlier hwas', hkey'.trans hkey, hwas'⟩
  · have hremoved := h.removed_of_inactive l.2 hmem hgone
    obtain ⟨owner, howner⟩ := Option.ne_none_iff_exists'.mp hremoved.howned
    obtain ⟨hnot, hinactive⟩ := hquiet.inactive ((ownerDid_loaded w l.2).trans howner)
      (fun hsame => hremoved.hother (howner.trans (congrArg some hsame))) hremoved.hinactive
    obtain ⟨removedAt, hat⟩ := hremoved.hremoved
    have hdid : member.memberDid = later.invitedDid := by
      by_contra hne
      rw [isActive_files, hjoined.howner, decide_eq_false hnot, Bool.false_or] at hactive
      cases (hjoined.hactive _ hne hactive).symm.trans hinactive
    refine ⟨later, haccepts, hdid.symm, removedAt, hat, ?_⟩
    rw [hjoined.hterms.hterms.2.2.2.2.1]
    exact hnewer member hremoved.hloaded (hdid.trans hjoined.hterms.hterms.2.1) removedAt hat

/-- A room that an adopted one replaces has nobody but its owner, and no invites. -/
theorem Change.replaced_step (h : Sound w.files.governance time)
    (h' : Sound w'.files.governance time') (hrefused : ¬Refused w l)
    {envelope : SignedEnvelope SignedRoomInvitePayload} {localProfile : VerifiedProfile}
    {dirs : RoomDirs} (hop : l.1 = .adoptInvite envelope localProfile dirs)
    (hreplaceable : Replaceable (w.loaded l.2) invite) (hquiet : Quiet ⟨none, 1, [1], [], []⟩ mid)
    (hother : mid.ownerDid ≠ some record.invitedDid)
    (hjoined : Joined mid w'.files.governance record later)
    (hstored : StoredNow l.2 invite ⟨none, 1, [1], [], []⟩ mid record) : AuthorityStep w l w' := by
  obtain ⟨hnone, hall⟩ := looksUnused_spec hreplaceable.hunused
  have hinvites : w.room.invites = [] := by
    have hloaded := invites_loaded w l.2
    rw [hnone] at hloaded
    exact List.map_eq_nil_iff.mp hloaded.symm
  have howner := looksUnused_ownerDid hreplaceable.hunused
  have hreplaces : replaces w l w' = true := by
    have hdiffers := hreplaceable.howner
    rw [howner, Option.any_some, decide_eq_true_eq] at hdiffers
    refine replaces_eq_true hop ?_ ?_
    · rw [World.unused, howner, Option.any_some]
      exact hreplaceable.hunused
    · rw [ownerDid_room w', hjoined.howner, hstored.howner, ← ownerDid_loaded w l.2, howner]
      exact fun hsame => hdiffers (Option.some.inj hsame).symm
  refine ⟨fun h => absurd h hrefused, fun _ _ => Or.inr hreplaces, ?_,
    fun other hmem haccepted => ?_, fun member hmem hgone _ => ?_⟩
  · rw [hinvites]
    exact List.forall_mem_nil _
  · rw [invites_room w'] at hmem
    rcases hjoined.haccepted other hmem haccepted with rfl | ⟨earlier, hearlier, hkey, hwas⟩
    · refine Or.inr (hjoined.accepts h' hother (fun earlier hearlier => ?_) hstored.hexpires)
      rw [hnone] at hearlier
      cases hearlier
    · obtain ⟨_, hnothing, _⟩ := hquiet.haccepted earlier hearlier hwas
      cases hnothing
  · have hremoved := h.removed_of_inactive l.2 hmem hgone
    rw [hall member hremoved.hloaded] at hgone
    cases hgone

theorem Change.step (h : Sound w.files.governance time) (h' : Sound w'.files.governance time')
    (hrefused : ¬Refused w l) (hchange : Change l.2 (w.loaded l.2) l.1 w'.files.governance) :
    AuthorityStep w l w' := by
  cases hchange with
  | quiet hquiet => exact Change.quiet_step h hrefused hquiet
  | joined hjoined => exact Change.joined_step h h' hrefused hjoined
  | adopted hop hstart hquiet hother hjoined hrecord =>
    cases hstart with
    | same => exact Change.adopted_step h h' hrefused hquiet hother hjoined hrecord
    | fresh hreplaceable =>
      refine Change.replaced_step h h' hrefused hop hreplaceable hquiet hother hjoined
        (hrecord.resolve_left ?_)
      rintro ⟨_, hnothing, _⟩
      cases hnothing

/-- **What an allowed step keeps.** -/
theorem Sound.next (h : Sound w.files.governance w.time) (hstep : step w l = some w')
    (hallowed : Allowed w l) : Sound w'.files.governance w'.time ∧ AuthorityStep w l w' := by
  cases step_cases hstep with
  | refused hclock hrefused =>
    have hshown : Shown w (World.room ⟨w.files, l.2.now⟩).governance := shown_room_of_files rfl
    have hinvites : (World.room ⟨w.files, l.2.now⟩).invites = w.room.invites :=
      (invites_room _).trans (invites_room w).symm
    refine ⟨h.mono (hclock.1.trans hclock.2), fun _ => rfl, fun did howner => Or.inl ?_, ?_,
      fun later hlater haccepted => Or.inl ⟨later, ?_, rfl, haccepted⟩,
      fun member hmem hgone hactive => ?_⟩
    · exact hshown.howner.trans howner
    · rw [hinvites]
      exact fun invite hmem => ⟨invite, hmem, .refl invite⟩
    · rwa [hinvites] at hlater
    · have hremoved := h.removed_of_inactive l.2 hmem hgone
      have hwas : w.isActive member.memberDid = true := (hshown.hactive _).symm.trans hactive
      have hloaded := ((shown_loaded w l.2).hactive member.memberDid).trans hwas
      cases hloaded.symm.trans hremoved.hinactive
  | @done f state hclock hrun hf =>
    have hloaded := (h.mono (hclock.1.trans hclock.2)).loaded l.2
    obtain ⟨hsound, hchange⟩ := (run_move hrun hf).sound hloaded.1 hloaded.2 hallowed
    rw [← saveState_governance state] at hsound hchange
    exact ⟨hsound, Change.step h hsound (not_refused hrun hf) hchange⟩

theorem authorityHolds_of_sound : ∀ {ls : List Label} {w : World},
    Sound w.files.governance w.time → Guarded Room.step Allowed w ls → AuthorityHolds w ls := by
  intro ls
  induction ls with
  | nil => exact fun h _ => h.authority
  | cons l ls ih =>
    intro w h hguarded
    refine ⟨h.authority, fun w' hstep => ?_⟩
    obtain ⟨hnext, hdone⟩ := h.next hstep hguarded.1
    exact ⟨hdone, ih hnext (hguarded.2 w' hstep)⟩

end

theorem sound_empty : Sound World.empty.files.governance World.empty.time := by
  have hgovernance : World.empty.files.governance = ⟨none, 0, [], [], []⟩ := by
    simp only [World.empty, RoomFiles.absent, RoomFiles.governance, loadSplitState,
      RoomState.governance, Option.getD_none, RoomControlRecord.default, List.map_nil]
  rw [hgovernance]
  exact ⟨Unique.nil, List.forall_mem_nil _, fun _ => ⟨rfl, rfl⟩, List.forall_mem_nil _, Unique.nil,
    List.forall_mem_nil _⟩

/-- **In every run of allowed steps the authority of a room holds all along.** -/
theorem authority_holds {ls : List Label} (hallowed : Guarded step Allowed World.empty ls) :
    AuthorityHolds World.empty ls := authorityHolds_of_sound sound_empty hallowed

theorem sampleOwned_found :
    (run step World.empty (sampleOwned.take 1)).map
        (fun w => (w.loaded ⟨2, 2, 2⟩).invites) = some [] ∧
      (run step World.empty (sampleOwned.take 3)).map
        (fun w => (w.loaded ⟨4, 4, 4⟩).invites.map RoomInviteRecord.status) =
          some [.accepted] := by decide +kernel

theorem authority_holds_owned : AuthorityHolds World.empty sampleOwned := by
  obtain ⟨hnone, hsettled⟩ := sampleOwned_found
  refine authority_holds ⟨trivial, fun w₁ h₁ => ⟨?_, fun w₂ h₂ => ⟨trivial, fun w₃ h₃ =>
    ⟨?_, fun _ _ => trivial⟩⟩⟩⟩
  · have hrun : run step World.empty (sampleOwned.take 1) = some w₁ :=
      run_cons_eq_some.mpr ⟨w₁, h₁, rfl⟩
    rw [hrun, Option.map_some, Option.some.injEq] at hnone
    intro invite hmem
    rw [hnone] at hmem
    cases hmem
  · have hrun : run step World.empty (sampleOwned.take 3) = some w₃ :=
      run_cons_eq_some.mpr ⟨w₁, h₁, run_cons_eq_some.mpr ⟨w₂, h₂,
        run_cons_eq_some.mpr ⟨w₃, h₃, rfl⟩⟩⟩
    rw [hrun, Option.map_some, Option.some.injEq] at hsettled
    intro did _ invite hmem _ hpending
    have hstatus := List.mem_map_of_mem (f := RoomInviteRecord.status) hmem
    rw [hsettled, List.mem_singleton, hpending] at hstatus
    cases hstatus

/-! ## 10. A second owner -/

/-- The guest's device adopts an invite that offers the role of the owner. -/
def sampleUsurped : List Label :=
  [(.adoptInvite { sampleInvite with payload := { sampleInvite.payload with role := .owner } }
    sampleGuest ⟨.ok 0, .ok 0⟩, ⟨1, 1, 1⟩)]

theorem sampleUsurped_run : (run step World.empty sampleUsurped).map (fun w =>
    (w.room.control.ownerDid, w.room.members.map fun member => (member.memberDid, member.role))) =
      some (some "did:o", [("did:o", .owner), ("did:g", .owner)]) := by decide +kernel

/-- The guest is an owner beside the owner. -/
theorem second_owner : ¬∀ ls, AuthorityHolds World.empty ls := by
  intro hholds
  obtain ⟨w, hrun, hshown⟩ := Option.map_eq_some_iff.mp sampleUsurped_run
  obtain ⟨mid, hstep, hnil⟩ := run_cons_eq_some.mp hrun
  cases Option.some.inj hnil
  rw [Prod.mk.injEq] at hshown
  have hmem : ("did:g", RoomRole.owner) ∈
      w.room.members.map fun member => (member.memberDid, member.role) := by
    rw [hshown.2]
    decide
  obtain ⟨member, hmember, hsame⟩ := List.mem_map.mp hmem
  rw [Prod.mk.injEq] at hsame
  have howner := ((hholds sampleUsurped).2 w hstep).2.hrole member hmember hsame.2
  rw [hshown.1, hsame.1] at howner
  exact absurd howner (by decide)

end ElastosRuntime.Room
