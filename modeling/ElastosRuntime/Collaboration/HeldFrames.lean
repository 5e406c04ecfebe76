/-
# Frames that are held for a retry

A Home that refuses a message because its sender has sent too much holds the frame and retries it
itself (`HeldFrames` in `collaboration_rate_limit.rs`).  A retry works on a copy: the original stays
in the queue, where it keeps its place and its share of the bounds, and a marker says that it is in
flight.  The marker is taken away by whoever drops the copy, in any order, and only if the retry was
completed does the original leave.

When the store is full the sender that holds the most gives up its newest frame.  Which frames go is
planned first, over counts and lengths that are kept up to date as the plan grows, and only a plan
that makes room is carried out.

`Bounded` is what holds of the store whatever is done with it, `Follows` says what one step does to
the queue, and `held_frames` puts both together for every run.
-/
import ElastosRuntime.Collaboration.Messages
import ElastosRuntime.Lib.Positions
import ElastosRuntime.Lib.Table
import ElastosRuntime.Lib.Transition
import Mathlib.Algebra.Order.BigOperators.Group.List
import Mathlib.Data.Finset.Card
import Mathlib.Data.Finset.Range
import Mathlib.Data.String.Basic
import Mathlib.Logic.Relation

namespace ElastosRuntime.Collaboration

/-! ## 1. The store -/

def COMMUNITY_RECEIVES_PER_SENDER_PER_WINDOW : Nat := 5
def MAX_HELD_FRAMES_PER_SENDER : Nat := COMMUNITY_RECEIVES_PER_SENDER_PER_WINDOW
def MAX_HELD_FRAMES : Nat := 64
def MAX_HELD_BYTES : Nat := 16 * MAX_COLLABORATION_ENVELOPE_BYTES

structure HeldFrame where
  frame : List UInt8
  envelopeSha256 : String
  senderProfileDid : String
  expiresAt : Nat
deriving DecidableEq, Inhabited, Repr

structure InFlightFrame where
  completed : Bool
  reheld : Bool
deriving DecidableEq, Repr

inductive HoldOutcome where
  | held
  | dropped
  | homeFull
deriving DecidableEq, Repr

/-- The store, and the hashes of the reservations that are alive: one for each copy that has been
handed out and not been dropped. -/
structure HeldFrames where
  frames : List HeldFrame
  inFlight : Table String InFlightFrame
  maxFrames : Nat
  reservations : List String

namespace HeldFrames

def new (maxFrames : Nat) : HeldFrames := ⟨[], ∅, maxFrames, []⟩

variable (F : HeldFrames)

abbrev InFlight (hash : String) : Prop := (F.inFlight.lookup hash).isSome

/-- What has expired goes, unless it is in flight. -/
def live (now : Nat) : List HeldFrame :=
  F.frames.filter fun frame => now < frame.expiresAt ∨ F.InFlight frame.envelopeSha256

/-- How many frames of the list are the sender's. -/
def heldBy (sender : String) (frames : List HeldFrame) : Nat :=
  frames.countP (·.senderProfileDid = sender)

def bytesOf (frames : List HeldFrame) : Nat := (frames.map (·.frame.length)).sum

/-! ## 2. The plan -/

/-- A frame that the plan may still evict. -/
def Evictable (evicted : List Nat) (index : Nat) (frame : HeldFrame) : Prop :=
  ¬F.InFlight frame.envelopeSha256 ∧ index ∉ evicted

instance (evicted : List Nat) (index : Nat) (frame : HeldFrame) :
    Decidable (F.Evictable evicted index frame) := inferInstanceAs (Decidable (_ ∧ _))

/-- `max_by`: the larger count, and of equal counts the smaller sender. -/
def largest (counts : String → Nat) : List String → Option String
  | [] => none
  | sender :: senders =>
    match largest counts senders with
    | none => some sender
    | some best =>
      if counts best < counts sender ∨ counts best = counts sender ∧ sender < best then
        some sender
      else
        some best

/-- The senders of frames that may still be evicted. -/
def candidates (evicted : List Nat) : List String :=
  (F.frames.map (·.senderProfileDid)).dedup.filter fun sender =>
    F.frames.zipIdx.any fun (frame, index) =>
      frame.senderProfileDid = sender ∧ F.Evictable evicted index frame

/-- `rev().find(..)`: the newest frame of the sender that may still be evicted. -/
def newest (evicted : List Nat) (sender : String) : Option Nat :=
  (List.range F.frames.length).reverse.find? fun index =>
    (F.frames[index]?).any fun frame =>
      frame.senderProfileDid = sender ∧ F.Evictable evicted index frame

/-- The next position to evict: none if the sender that holds the most holds no more than the new
frame's would. -/
def nextEviction (counts : String → Nat) (fromSender : Nat) (evicted : List Nat) : Option Nat := do
  let sender ← largest counts (F.candidates evicted)
  if counts sender ≤ fromSender + 1 then none else F.newest evicted sender

variable {evicted : List Nat} {index fromSender : Nat}

/-- What `newest` finds. -/
theorem newest_eq_some {sender : String} (h : F.newest evicted sender = some index) :
    ∃ frame, F.frames[index]? = some frame ∧
      frame.senderProfileDid = sender ∧ F.Evictable evicted index frame ∧
      ∀ later frame', index < later → F.frames[later]? = some frame' →
        frame'.senderProfileDid = sender → ¬F.Evictable evicted later frame' := by
  obtain ⟨hfound, later, earlier, hsplit, hlater⟩ := List.find?_eq_some_iff_append.mp h
  have hindex : index < F.frames.length := by
    have hmem : index ∈ (List.range F.frames.length).reverse := by
      rw [hsplit]
      exact List.mem_append_right _ List.mem_cons_self
    exact List.mem_range.mp (List.mem_reverse.mp hmem)
  rw [List.getElem?_eq_getElem hindex, Option.any_some, decide_eq_true_iff] at hfound
  refine ⟨F.frames[index], List.getElem?_eq_getElem hindex, hfound.1, hfound.2, ?_⟩
  intro k frame' hk hget hsender hevictable
  obtain ⟨hlt, rfl⟩ := List.getElem?_eq_some_iff.mp hget
  -- in the reversed range the later positions come first
  have hmem : k ∈ later := by
    have hmem : k ∈ later ++ index :: earlier := by
      rw [← hsplit]
      exact List.mem_reverse.mpr (List.mem_range.mpr hlt)
    have hsorted : (later ++ index :: earlier).Pairwise (fun i j => j < i) := by
      rw [← hsplit, List.pairwise_reverse]
      exact List.pairwise_lt_range
    rcases List.mem_append.mp hmem with hmem | hmem
    · exact hmem
    · rcases List.mem_cons.mp hmem with rfl | hmem
      · exact absurd hk (lt_irrefl _)
      · have hlow := (List.pairwise_cons.mp (List.pairwise_append.mp hsorted).2.1).1 k hmem
        omega
  have hnot := hlater k hmem
  rw [List.getElem?_eq_getElem hlt, Option.any_some] at hnot
  simp [hsender, hevictable] at hnot

variable {counts : String → Nat}

theorem nextEviction_eq_some (h : F.nextEviction counts fromSender evicted = some index) :
    ∃ sender, fromSender + 1 < counts sender ∧ F.newest evicted sender = some index := by
  obtain ⟨sender, _, h⟩ := Option.bind_eq_some_iff.mp h
  split at h
  · cases h
  · next hmore => exact ⟨sender, Nat.lt_of_not_le hmore, h⟩

theorem nextEviction_lt (h : F.nextEviction counts fromSender evicted = some index) :
    index < F.frames.length ∧ index ∉ evicted := by
  obtain ⟨_, _, hnewest⟩ := F.nextEviction_eq_some h
  obtain ⟨_, hget, _, hevictable, _⟩ := F.newest_eq_some hnewest
  exact ⟨(List.getElem?_eq_some_iff.mp hget).1, hevictable.2⟩

/-- The loop that plans the evictions: the positions to evict, or none where the Home is full. -/
def planEvictions (held : HeldFrame) (fromSender : Nat) (counts : String → Nat) (len bytes : Nat)
    (evicted : List Nat) : Option (List Nat) :=
  if F.maxFrames ≤ len ∨ MAX_HELD_BYTES < bytes + held.frame.length then
    match _hnext : F.nextEviction counts fromSender evicted with
    | none => none
    | some index =>
      let frame := F.frames[index]!
      planEvictions held fromSender
        (Function.update counts frame.senderProfileDid (counts frame.senderProfileDid - 1))
        (len - 1) (bytes - frame.frame.length) (evicted ++ [index])
  else
    some evicted
termination_by (Finset.range F.frames.length \ evicted.toFinset).card
decreasing_by
  obtain ⟨hlt, hfree⟩ := F.nextEviction_lt _hnext
  refine Finset.card_lt_card (Finset.ssubset_iff_of_subset ?_ |>.mpr ⟨index, ?_, ?_⟩)
  · intro k hk
    simp only [Finset.mem_sdiff, Finset.mem_range, List.mem_toFinset, List.mem_append] at hk ⊢
    exact ⟨hk.1, fun hmem => hk.2 (.inl hmem)⟩
  · simp [hlt, hfree]
  · simp

/-! ## 3. The operations -/

/-- The positions of the plan, removed from the last to the first. -/
def evictAll (evicted : List Nat) (frames : List HeldFrame) : List HeldFrame :=
  (evicted.mergeSort (· ≤ ·)).reverse.foldl List.eraseIdx frames

def hold (held : HeldFrame) (now : Nat) : HoldOutcome × HeldFrames :=
  let frames := F.live now
  let F' : HeldFrames := { F with frames }
  if held.expiresAt ≤ now then
    (.dropped, F')
  else
    match F'.inFlight.lookup held.envelopeSha256 with
    -- the retry that is out will put the original back
    | some inFlight => (.held, { F' with
        inFlight := F'.inFlight.insert held.envelopeSha256 { inFlight with reheld := true } })
    | none =>
      if frames.any (·.envelopeSha256 = held.envelopeSha256) then
        (.held, F')
      else
        let fromSender := heldBy held.senderProfileDid frames
        if MAX_HELD_FRAMES_PER_SENDER ≤ fromSender then
          (.dropped, F')
        else
          match F'.planEvictions held fromSender (heldBy · frames) frames.length (bytesOf frames)
            [] with
          | none => (.homeFull, F')
          | some evicted => (.held, { F' with frames := evictAll evicted frames ++ [held] })

/-- The loop over the frames: a copy of each that is not in flight. -/
def takeFrames : List HeldFrame → Table String InFlightFrame →
    List HeldFrame × Table String InFlightFrame
  | [], inFlight => ([], inFlight)
  | frame :: frames, inFlight =>
    if (inFlight.lookup frame.envelopeSha256).isSome then
      takeFrames frames inFlight
    else
      let (held, inFlight) :=
        takeFrames frames (inFlight.insert frame.envelopeSha256 ⟨false, false⟩)
      (frame :: held, inFlight)

def take (now : Nat) : List HeldFrame × HeldFrames :=
  let frames := F.live now
  let (held, inFlight) := takeFrames frames F.inFlight
  (held, { F with frames, inFlight, reservations := F.reservations ++ held.map (·.envelopeSha256) })

/-- What `complete` does before it drops the copy. -/
def complete (hash : String) : HeldFrames :=
  { F with
    inFlight := Table.modify hash (fun inFlight => { inFlight with completed := true }) F.inFlight }

/-- `HeldReservation::drop` -/
def dropReservation (hash : String) : HeldFrames :=
  match F.inFlight.lookup hash with
  | none => F
  | some inFlight =>
    let F' := { F with inFlight := F.inFlight.erase hash }
    if inFlight.completed then
      match F.frames.find? (·.envelopeSha256 = hash) with
      | none => F'
      | some frame =>
        let frames := F.frames.eraseP (·.envelopeSha256 = hash)
        { F' with frames := if inFlight.reheld then frames ++ [frame] else frames }
    else
      F'

/-- What can be done with the store.  `complete` is two steps, as it locks the store twice;
`restore` drops copies. -/
inductive Label where
  | hold (held : HeldFrame) (now : Nat)
  | take (now : Nat)
  | complete (reservation : Nat)
  | drop (reservation : Nat)

def step : Label → Option HeldFrames
  | .hold held now => some (F.hold held now).2
  | .take now => some (F.take now).2
  | .complete reservation => F.reservations[reservation]?.map F.complete
  | .drop reservation => F.reservations[reservation]?.map fun hash =>
      { F.dropReservation hash with reservations := F.reservations.eraseIdx reservation }

/-! ## 4. Evictions -/

/-- **One eviction**, while a frame of `held`'s sender is waiting for room: a frame that is not in
flight, behind which its sender has no other such frame, goes.  Its sender holds more than the
waiting frame's will, and is not that one. -/
structure Evicts (inFlight : Table String InFlightFrame) (held frame : HeldFrame)
    (frames frames' : List HeldFrame) : Prop where
  idle : ¬(inFlight.lookup frame.envelopeSha256).isSome
  newest : ∃ before after, frames = before ++ frame :: after ∧ frames' = before ++ after ∧
    ∀ later ∈ after, later.senderProfileDid = frame.senderProfileDid →
      (inFlight.lookup later.envelopeSha256).isSome
  outnumbers : heldBy held.senderProfileDid frames + 1 < heldBy frame.senderProfileDid frames
  foreign : frame.senderProfileDid ≠ held.senderProfileDid

/-- Evictions, one after the other. -/
def EvictsAll (inFlight : Table String InFlightFrame) (held : HeldFrame) :
    List HeldFrame → List HeldFrame → Prop :=
  Relation.ReflTransGen fun frames frames' => ∃ frame, Evicts inFlight held frame frames frames'

theorem heldBy_middle (sender : String) (frame : HeldFrame) (before after : List HeldFrame) :
    heldBy sender (before ++ frame :: after) =
      heldBy sender (before ++ after) + if frame.senderProfileDid = sender then 1 else 0 := by
  simp only [heldBy, List.countP_append, List.countP_cons, decide_eq_true_eq]
  omega

theorem bytesOf_middle (frame : HeldFrame) (before after : List HeldFrame) :
    bytesOf (before ++ frame :: after) = bytesOf (before ++ after) + frame.frame.length := by
  simp only [bytesOf, List.map_append, List.map_cons, List.sum_append, List.sum_cons]
  omega

/-- The counts and lengths of a plan are those of the frames it leaves. -/
structure Planned (evicted : List Nat) (counts : String → Nat) (len bytes : Nat)
    (frames : List HeldFrame) : Prop where
  left : frames = Positions.without evicted 0 F.frames
  counts : ∀ sender, counts sender = heldBy sender frames
  len : len = frames.length
  bytes : bytes = bytesOf frames
  nodup : evicted.Nodup

variable {held frame : HeldFrame} {frames frames' : List HeldFrame}

variable {len bytes maxFrames : Nat}

/-- **One more position of the plan is one eviction.** -/
theorem Planned.next (h : F.Planned evicted counts len bytes frames)
    (hnext : F.nextEviction counts (heldBy held.senderProfileDid frames) evicted = some index) :
    ∃ frames', (∃ frame, Evicts F.inFlight held frame frames frames') ∧
      heldBy held.senderProfileDid frames' = heldBy held.senderProfileDid frames ∧
      F.Planned (evicted ++ [index])
        (Function.update counts F.frames[index]!.senderProfileDid
          (counts F.frames[index]!.senderProfileDid - 1))
        (len - 1) (bytes - F.frames[index]!.frame.length) frames' := by
  obtain ⟨sender, hmore, hnewest⟩ := F.nextEviction_eq_some hnext
  obtain ⟨frame, hget, rfl, ⟨hidle, hfree⟩, hlater⟩ := F.newest_eq_some hnewest
  obtain ⟨before, after, hframes, hframes', hafter⟩ := Positions.without_pick hfree hget
  have hindex : F.frames[index]! = frame := by
    rw [List.getElem!_eq_getElem?_getD, hget]
    rfl
  rw [h.counts] at hmore
  have hforeign : frame.senderProfileDid ≠ held.senderProfileDid := by
    intro hsame
    rw [hsame] at hmore
    omega
  rw [← h.left] at hframes
  have hcount := fun sender => heldBy_middle sender frame before after
  refine ⟨before ++ after, ⟨frame, hidle, ⟨before, after, hframes, rfl, ?_⟩, hmore, hforeign⟩, ?_,
    hframes'.symm, ?_, ?_, ?_, ?_⟩
  · intro later hmem hsender
    obtain ⟨k, hk, hkfree, hkget⟩ := hafter later hmem
    by_contra hflight
    exact hlater k later hk hkget hsender ⟨hflight, hkfree⟩
  · rw [hframes, hcount, if_neg hforeign, Nat.add_zero]
  · intro sender
    rw [hindex, Function.update_apply]
    have hsender := hcount sender
    rw [← hframes, ← h.counts] at hsender
    split
    · next hsame =>
      subst hsame
      rw [if_pos rfl] at hsender
      omega
    · next hother =>
      rw [if_neg (Ne.symm hother)] at hsender
      omega
  · rw [h.len, hframes]
    simp only [List.length_append, List.length_cons]
    omega
  · rw [h.bytes, hframes, bytesOf_middle, hindex, Nat.add_sub_cancel]
  · refine List.Nodup.append h.nodup (List.nodup_singleton index) ?_
    simpa using hfree

/-- **What a plan does**: evictions, after which the waiting frame fits. -/
theorem planEvictions_eq_some {evicted' : List Nat} (h : F.Planned evicted counts len bytes frames)
    (hfrom : fromSender = heldBy held.senderProfileDid frames)
    (hplan : F.planEvictions held fromSender counts len bytes evicted = some evicted') :
    ∃ frames', EvictsAll F.inFlight held frames frames' ∧ frames' = Positions.without evicted' 0 F.frames ∧
      evicted'.Nodup ∧ frames'.length < F.maxFrames ∧
      bytesOf frames' + held.frame.length ≤ MAX_HELD_BYTES ∧
      heldBy held.senderProfileDid frames' = fromSender := by
  induction counts, len, bytes, evicted using planEvictions.induct F held fromSender
    generalizing frames with
  | case1 counts len bytes evicted hfull hnone =>
    rw [planEvictions, if_pos hfull] at hplan
    split at hplan
    · cases hplan
    · next hsome => cases hnone.symm.trans hsome
  | case2 counts len bytes evicted hfull index hnext frame =>
    rename_i ih
    rw [planEvictions, if_pos hfull] at hplan
    split at hplan
    · cases hplan
    · next index' hsome =>
      obtain rfl : index = index' := Option.some.inj (hnext.symm.trans hsome)
      rw [hfrom] at hnext
      obtain ⟨frames', hevicts, hsame, hplanned⟩ := h.next F hnext
      obtain ⟨frames'', hall, hrest⟩ := ih hplanned (hfrom.trans hsame.symm) hplan
      exact ⟨frames'', .head hevicts hall, hrest⟩
  | case3 counts len bytes evicted hroom =>
    rw [planEvictions, if_neg hroom] at hplan
    cases hplan
    rw [not_or, Nat.not_le, Nat.not_lt] at hroom
    rw [h.len, h.bytes] at hroom
    exact ⟨frames, .refl, h.left, h.nodup, hroom.1, hroom.2, hfrom.symm⟩

theorem evictAll_eq (h : evicted.Nodup) (frames : List HeldFrame) :
    evictAll evicted frames = Positions.without evicted 0 frames := by
  have hsorted : (evicted.mergeSort (· ≤ ·)).Pairwise (· ≤ ·) := by
    have h := @List.pairwise_mergeSort Nat (fun i j => decide (i ≤ j)) (by simp; omega)
      (by simp; omega) evicted
    simpa using h
  have hnodup : (evicted.mergeSort (· ≤ ·)).Nodup :=
    (List.mergeSort_perm evicted _).nodup_iff.mpr h
  have hdesc : (evicted.mergeSort (· ≤ ·)).reverse.Pairwise fun i j => j < i := by
    rw [List.pairwise_reverse]
    exact (hsorted.and hnodup).imp fun hij => lt_of_le_of_ne hij.1 hij.2
  rw [evictAll, Positions.foldl_eraseIdx hdesc]
  refine Positions.without_congr fun j _ _ => ?_
  rw [List.mem_reverse, List.mem_mergeSort]

/-! ## 5. The bounds -/

/-- What the queue keeps to. -/
structure Fits (maxFrames : Nat) (frames : List HeldFrame) : Prop where
  count : frames.length ≤ maxFrames
  bytes : bytesOf frames ≤ MAX_HELD_BYTES
  perSender : ∀ sender, heldBy sender frames ≤ MAX_HELD_FRAMES_PER_SENDER
  distinct : (frames.map (·.envelopeSha256)).Nodup

theorem Fits.sublist (h : Fits maxFrames frames) (hsub : frames'.Sublist frames) :
    Fits maxFrames frames' where
  count := hsub.length_le.trans h.count
  bytes := ((hsub.map _).sum_le_sum fun _ _ => Nat.zero_le _).trans h.bytes
  perSender sender := (hsub.countP_le).trans (h.perSender sender)
  distinct := h.distinct.sublist (hsub.map _)

/-- A frame is moved to the end of the queue. -/
theorem Fits.perm (h : Fits maxFrames frames) (hperm : frames'.Perm frames) :
    Fits maxFrames frames' where
  count := hperm.length_eq.trans_le h.count
  bytes := (hperm.map _).sum_eq.trans_le h.bytes
  perSender sender := (hperm.countP_eq _).trans_le (h.perSender sender)
  distinct := ((hperm.map _).nodup_iff).mpr h.distinct

variable {inFlight : Table String InFlightFrame}

/-- Evictions only take frames away, and none that are in flight. -/
theorem EvictsAll.sublist (h : EvictsAll inFlight held frames frames') : frames'.Sublist frames ∧
      ∀ frame ∈ frames, (inFlight.lookup frame.envelopeSha256).isSome → frame ∈ frames' := by
  induction h with
  | refl => exact ⟨.refl frames, fun _ hmem _ => hmem⟩
  | tail _ hlast ih =>
    obtain ⟨evicted, hidle, ⟨before, after, rfl, rfl, _⟩, _, _⟩ := hlast
    obtain ⟨hsub, hkept⟩ := ih
    refine ⟨(List.Sublist.append_left (List.sublist_cons_self evicted after) before).trans hsub,
      fun frame hmem hflight => ?_⟩
    have hstill := hkept frame hmem hflight
    simp only [List.mem_append, List.mem_cons] at hstill ⊢
    rcases hstill with hstill | rfl | hstill
    · exact .inl hstill
    · exact absurd hflight hidle
    · exact .inr hstill

/-- A frame that evictions have taken away was evicted by one of them. -/
theorem EvictsAll.of_notMem (h : EvictsAll inFlight held frames frames') (hmem : frame ∈ frames)
    (hgone : frame ∉ frames') :
    ∃ queue queue', EvictsAll inFlight held frames queue ∧ Evicts inFlight held frame queue queue' := by
  induction h with
  | refl => exact absurd hmem hgone
  | @tail queue queue' hall hlast ih =>
    by_cases hstill : frame ∈ queue
    · obtain ⟨evicted, hevicts⟩ := hlast
      obtain ⟨before, after, rfl, rfl, _⟩ := hevicts.newest
      have hsame : frame = evicted := by
        simp only [List.mem_append, List.mem_cons] at hstill hgone
        grind
      subst hsame
      exact ⟨_, _, hall, hevicts⟩
    · exact ih hstill

/-- **What holds of the store at all times.** -/
structure Bounded (F : HeldFrames) : Prop extends Fits F.maxFrames F.frames where
  inFlight : ∀ hash, F.InFlight hash → ∃ frame ∈ F.frames, frame.envelopeSha256 = hash
  reservations : F.reservations.Nodup
  reserved : ∀ hash, hash ∈ F.reservations ↔ F.InFlight hash

theorem bounded_new (maxFrames : Nat) : (new maxFrames).Bounded where
  count := Nat.zero_le maxFrames
  bytes := Nat.zero_le _
  perSender _ := Nat.zero_le _
  distinct := List.nodup_nil
  inFlight hash h := by simp [new, InFlight] at h
  reservations := List.nodup_nil
  reserved hash := by simp [new, InFlight]

variable {F}

theorem live_sublist (now : Nat) : (F.live now).Sublist F.frames := List.filter_sublist

variable {hash : String}

theorem Bounded.inFlight_live (h : F.Bounded) (now : Nat) (hflight : F.InFlight hash) :
    ∃ frame ∈ F.live now, frame.envelopeSha256 = hash := by
  obtain ⟨frame, hmem, rfl⟩ := h.inFlight hash hflight
  exact ⟨frame, List.mem_filter.mpr ⟨hmem, decide_eq_true (.inr hflight)⟩, rfl⟩

/-- The store without the frames that have expired. -/
theorem Bounded.live (h : F.Bounded) (now : Nat) : ({ F with frames := F.live now }).Bounded where
  toFits := h.toFits.sublist (live_sublist now)
  inFlight _ := h.inFlight_live now
  reservations := h.reservations
  reserved := h.reserved

/-- **What `hold` does**: nothing to the queue but to clear it, or it makes room and puts the new
frame at its end. -/
theorem hold_cases (held : HeldFrame) (now : Nat) :
    ((F.hold held now).2.frames = F.live now ∧
      ((F.hold held now).2.inFlight = F.inFlight ∨ ∃ inFlight, (F.hold held now).1 = .held ∧
        F.inFlight.lookup held.envelopeSha256 = some inFlight ∧ (F.hold held now).2.inFlight =
          F.inFlight.insert held.envelopeSha256 { inFlight with reheld := true })) ∨
    (F.hold held now).1 = .held ∧ (F.hold held now).2.inFlight = F.inFlight ∧
      ∃ frames, EvictsAll F.inFlight held (F.live now) frames ∧
        (F.hold held now).2.frames = frames ++ [held] ∧
        ¬F.InFlight held.envelopeSha256 ∧
        (∀ frame ∈ F.live now, frame.envelopeSha256 ≠ held.envelopeSha256) ∧
        frames.length < F.maxFrames ∧ bytesOf frames + held.frame.length ≤ MAX_HELD_BYTES ∧
        heldBy held.senderProfileDid frames < MAX_HELD_FRAMES_PER_SENDER := by
  unfold hold
  simp only
  split
  · exact .inl ⟨rfl, .inl rfl⟩
  · split
    · next inFlight hflight => exact .inl ⟨rfl, .inr ⟨inFlight, rfl, hflight, rfl⟩⟩
    · next hidle =>
      split
      · exact .inl ⟨rfl, .inl rfl⟩
      · next hnew =>
        split
        · exact .inl ⟨rfl, .inl rfl⟩
        · next hfew =>
          split
          · exact .inl ⟨rfl, .inl rfl⟩
          · next evicted hplan =>
            let F' : HeldFrames := { F with frames := F.live now }
            have hplanned : F'.Planned [] (heldBy · (F.live now)) (F.live now).length
                (bytesOf (F.live now)) (F.live now) :=
              ⟨(Positions.without_nil_picked 0 _).symm, fun _ => rfl, rfl, rfl, List.nodup_nil⟩
            obtain ⟨frames, hall, hframes, hnodup, hroom, hbytes, hfrom⟩ :=
              F'.planEvictions_eq_some hplanned rfl hplan
            refine .inr ⟨rfl, rfl, frames, hall, ?_, ?_, ?_, hroom, hbytes, ?_⟩
            · rw [evictAll_eq hnodup, hframes]
            · simp [InFlight, hidle]
            · simpa using hnew
            · rw [hfrom]
              exact Nat.lt_of_not_le hfew

/-- The markers of a store may only change under the hashes they have. -/
theorem Bounded.of_sameMarkers (h : F.Bounded)
    (hsame : ∀ hash, (inFlight.lookup hash).isSome = (F.inFlight.lookup hash).isSome) :
    ({ F with inFlight }).Bounded where
  toFits := h.toFits
  inFlight hash hflight := h.inFlight hash ((hsame hash).symm.trans hflight)
  reservations := h.reservations
  reserved hash := (h.reserved hash).trans (by
    rw [InFlight, InFlight, hsame])

theorem hold_maxFrames (held : HeldFrame) (now : Nat) :
    (F.hold held now).2.maxFrames = F.maxFrames ∧
      (F.hold held now).2.reservations = F.reservations := by
  unfold hold
  simp only
  repeat' split
  all_goals exact ⟨rfl, rfl⟩

theorem Bounded.hold (h : F.Bounded) (held : HeldFrame) (now : Nat) :
    (F.hold held now).2.Bounded := by
  obtain ⟨hmax, hreservations⟩ := F.hold_maxFrames held now
  have hlive := h.live now
  rcases F.hold_cases held now with ⟨hframes, hflight⟩ |
    ⟨_, hflight, frames, hall, hframes, hidle, hnew, hroom, hbytes, hfew⟩
  · have hsame : ∀ hash, ((F.hold held now).2.inFlight.lookup hash).isSome =
        (F.inFlight.lookup hash).isSome := by
      intro hash
      rcases hflight with hflight | ⟨inFlight, _, hlookup, hflight⟩
      · rw [hflight]
      · rw [hflight, Table.lookup_insert_eq]
        split
        · next heq =>
          rw [heq, hlookup]
          rfl
        · rfl
    have hbounded := hlive.of_sameMarkers hsame
    have heq : (F.hold held now).2 =
        { F with frames := F.live now, inFlight := (F.hold held now).2.inFlight } := by
      rw [← hframes, ← hmax, ← hreservations]
    rw [heq]
    exact hbounded
  · obtain ⟨hsub, hkept⟩ := hall.sublist
    have hfits := hlive.toFits.sublist hsub
    exact {
      count := by
        rw [hframes, hmax, List.length_append]
        exact hroom
      bytes := by
        rw [hframes, bytesOf, List.map_append, List.sum_append]
        simpa [bytesOf] using hbytes
      perSender := by
        intro sender
        have hrest := hfits.perSender sender
        rw [hframes, heldBy, List.countP_append, List.countP_singleton]
        rw [heldBy] at hrest hfew
        split
        · next hsame =>
          rw [decide_eq_true_eq] at hsame
          subst hsame
          exact hfew
        · exact hrest
      distinct := by
        rw [hframes, List.map_append]
        refine List.Nodup.append hfits.distinct (List.nodup_singleton _) ?_
        intro hash hmem hheld
        obtain ⟨frame, hframe, rfl⟩ := List.mem_map.mp hmem
        exact hnew frame (hsub.subset hframe) (List.mem_singleton.mp hheld)
      inFlight := by
        intro hash hmarker
        rw [InFlight, hflight] at hmarker
        obtain ⟨frame, hmem, rfl⟩ := h.inFlight_live now hmarker
        refine ⟨frame, ?_, rfl⟩
        rw [hframes]
        exact List.mem_append_left _ (hkept frame hmem hmarker)
      reservations := by
        rw [hreservations]
        exact h.reservations
      reserved := by
        intro hash
        rw [hreservations, InFlight, hflight]
        exact h.reserved hash }

/-- **What the loop of `take` hands out**: frames that were not in flight, each under a hash of its
own, and exactly these are in flight now besides those that were. -/
theorem takeFrames_spec : ∀ (frames : List HeldFrame) (inFlight : Table String InFlightFrame),
    (takeFrames frames inFlight).1.Sublist frames ∧
      ((takeFrames frames inFlight).1.map (·.envelopeSha256)).Nodup ∧
      (∀ frame ∈ (takeFrames frames inFlight).1,
        inFlight.lookup frame.envelopeSha256 = none) ∧
      ∀ hash, ((takeFrames frames inFlight).2.lookup hash).isSome ↔ (inFlight.lookup hash).isSome ∨
        hash ∈ (takeFrames frames inFlight).1.map (·.envelopeSha256)
  | [], inFlight => by simp [takeFrames]
  | frame :: frames, inFlight => by
    rw [takeFrames]
    split
    · obtain ⟨hsub, hnodup, hidle, hmarkers⟩ := takeFrames_spec frames inFlight
      exact ⟨hsub.cons frame, hnodup, hidle, hmarkers⟩
    · next hnew =>
      obtain ⟨hsub, hnodup, hidle, hmarkers⟩ :=
        takeFrames_spec frames (inFlight.insert frame.envelopeSha256 ⟨false, false⟩)
      simp only [Bool.not_eq_true, Option.isSome_eq_false_iff, Option.isNone_iff_eq_none] at hnew
      have hother : ∀ other ∈ (takeFrames frames
          (inFlight.insert frame.envelopeSha256 ⟨false, false⟩)).1,
          other.envelopeSha256 ≠ frame.envelopeSha256 ∧
            inFlight.lookup other.envelopeSha256 = none := by
        intro other hmem
        have hnone := hidle other hmem
        rw [Table.lookup_insert_eq] at hnone
        split at hnone
        · cases hnone
        · next hne => exact ⟨hne, hnone⟩
      refine ⟨hsub.cons_cons frame, ?_, ?_, ?_⟩
      · rw [List.map_cons, List.nodup_cons]
        refine ⟨fun hmem => ?_, hnodup⟩
        obtain ⟨other, hother', hsame⟩ := List.mem_map.mp hmem
        exact (hother other hother').1 hsame
      · intro other hmem
        rcases List.mem_cons.mp hmem with rfl | hmem
        · exact hnew
        · exact (hother other hmem).2
      · intro hash
        rw [hmarkers, Table.lookup_insert_eq, List.map_cons, List.mem_cons]
        split
        · next heq => simp [heq]
        · next hne => simp [hne]

theorem Bounded.take (h : F.Bounded) (now : Nat) : (F.take now).2.Bounded := by
  obtain ⟨hsub, hnodup, hidle, hmarkers⟩ := takeFrames_spec (F.live now) F.inFlight
  exact {
    toFits := h.toFits.sublist (live_sublist now)
    inFlight := by
      intro hash hflight
      rcases (hmarkers hash).mp hflight with hold | hnew
      · exact h.inFlight_live now hold
      · obtain ⟨frame, hmem, rfl⟩ := List.mem_map.mp hnew
        exact ⟨frame, hsub.subset hmem, rfl⟩
    reservations := by
      refine List.Nodup.append h.reservations hnodup ?_
      intro hash hold hnew
      obtain ⟨frame, hmem, rfl⟩ := List.mem_map.mp hnew
      have hflight := (h.reserved _).mp hold
      rw [InFlight, hidle frame hmem] at hflight
      cases hflight
    reserved := by
      intro hash
      exact List.mem_append.trans
        ((or_congr_left (h.reserved hash)).trans (hmarkers hash).symm) }

theorem Bounded.complete (h : F.Bounded) (hash : String) : (F.complete hash).Bounded := by
  refine h.of_sameMarkers fun other => ?_
  rw [Table.lookup_modify]
  split
  · exact Option.isSome_map
  · rfl

/-- **What a dropped copy does to the queue**, by what has been noted of its retry. -/
theorem dropReservation_frames (h : F.Bounded) {inFlight : InFlightFrame}
    (hflight : F.inFlight.lookup hash = some inFlight) :
    (inFlight.completed = false ∧ (F.dropReservation hash).frames = F.frames) ∨
      inFlight.completed = true ∧ ∃ before frame after, F.frames = before ++ frame :: after ∧
        frame.envelopeSha256 = hash ∧ (F.dropReservation hash).frames =
          before ++ after ++ if inFlight.reheld then [frame] else [] := by
  obtain ⟨frame, hmem, hhash⟩ := h.inFlight hash (by rw [InFlight, hflight]; rfl)
  simp only [dropReservation, hflight]
  cases hcompleted : inFlight.completed with
  | false => exact .inl ⟨rfl, rfl⟩
  | true =>
    refine .inr ⟨rfl, ?_⟩
    simp only [if_true]
    cases hfind : F.frames.find? (·.envelopeSha256 = hash) with
    | none =>
      have hnone := List.find?_eq_none.mp hfind frame hmem
      simp [hhash] at hnone
    | some found =>
      obtain ⟨hfound, before, after, hsplit, hbefore⟩ := List.find?_eq_some_iff_append.mp hfind
      have herase : F.frames.eraseP (·.envelopeSha256 = hash) = before ++ after := by
        rw [hsplit, List.eraseP_append_right _ (by simpa using hbefore), List.eraseP_cons, hfound]
        rfl
      refine ⟨before, found, after, hsplit, of_decide_eq_true hfound, ?_⟩
      cases inFlight.reheld with
      | false => simp [herase]
      | true => simp [herase]

theorem dropReservation_fields (hash : String) :
    (F.dropReservation hash).maxFrames = F.maxFrames ∧
      (F.dropReservation hash).reservations = F.reservations ∧
      ((F.dropReservation hash).inFlight = F.inFlight.erase hash ∨
        F.inFlight.lookup hash = none) := by
  unfold dropReservation
  split
  · next hnone => exact ⟨rfl, rfl, .inr hnone⟩
  · simp only
    repeat' split
    all_goals exact ⟨rfl, rfl, .inl rfl⟩

theorem Bounded.drop (h : F.Bounded) {reservation : Nat}
    (hreservation : F.reservations[reservation]? = some hash) :
    ({ F.dropReservation hash with
      reservations := F.reservations.eraseIdx reservation } : HeldFrames).Bounded := by
  obtain ⟨hlt, hget⟩ := List.getElem?_eq_some_iff.mp hreservation
  have hmem : hash ∈ F.reservations := hget ▸ List.getElem_mem hlt
  obtain ⟨inFlight, hflight⟩ := Option.isSome_iff_exists.mp ((h.reserved hash).mp hmem)
  obtain ⟨hmax, _, hmarkers⟩ := F.dropReservation_fields hash
  have herase : (F.dropReservation hash).inFlight = F.inFlight.erase hash := by
    rcases hmarkers with herase | hnone
    · exact herase
    · cases hnone.symm.trans hflight
  have hmarker : ∀ other, ((F.dropReservation hash).inFlight.lookup other).isSome ↔
      other ≠ hash ∧ F.InFlight other := by
    intro other
    rw [herase, Table.lookup_erase_eq]
    split
    · next heq => simp [heq]
    · next hne => simp [hne, InFlight]
  -- the queue has the frames it had, up to their order, but perhaps for the one that is settled
  have hqueue : Fits F.maxFrames (F.dropReservation hash).frames ∧ ∀ frame ∈ F.frames,
      frame.envelopeSha256 ≠ hash → frame ∈ (F.dropReservation hash).frames := by
    rcases dropReservation_frames h hflight with ⟨_, hframes⟩ |
      ⟨_, before, frame, after, hsplit, hhash, hframes⟩
    · rw [hframes]
      exact ⟨h.toFits, fun _ hframe _ => hframe⟩
    · have hothers : ∀ other ∈ F.frames, other.envelopeSha256 ≠ hash → other ∈ before ++ after := by
        intro other hother hne
        rw [hsplit, List.mem_append, List.mem_cons] at hother
        rcases hother with hother | rfl | hother
        · exact List.mem_append_left _ hother
        · exact absurd hhash hne
        · exact List.mem_append_right _ hother
      rw [hframes]
      split
      · refine ⟨h.toFits.perm ?_, fun other hother hne =>
          List.mem_append_left _ (hothers other hother hne)⟩
        rw [hsplit, List.append_assoc]
        exact (List.perm_append_singleton frame after).append_left before
      · rw [List.append_nil]
        refine ⟨h.toFits.sublist ?_, hothers⟩
        rw [hsplit]
        exact (List.sublist_cons_self frame after).append_left before
  obtain ⟨hfits, hothers⟩ := hqueue
  exact {
    toFits := by
      rw [← hmax] at hfits
      exact hfits
    inFlight := by
      intro other hother
      obtain ⟨hne, hother⟩ := (hmarker other).mp hother
      obtain ⟨frame, hframe, rfl⟩ := h.inFlight other hother
      exact ⟨frame, hothers frame hframe hne, rfl⟩
    reservations := h.reservations.sublist (List.eraseIdx_sublist ..)
    reserved := by
      intro other
      refine Iff.trans ?_ (hmarker other).symm
      rw [← h.reserved other, ← hget, ← h.reservations.erase_getElem reservation hlt]
      exact h.reservations.mem_erase_iff }

variable {label : Label} {F' : HeldFrames}

theorem Bounded.step (h : F.Bounded) (hstep : F.step label = some F') : F'.Bounded := by
  cases label with
  | hold held now =>
    cases hstep
    exact h.hold held now
  | take now =>
    cases hstep
    exact h.take now
  | complete reservation =>
    obtain ⟨hash, _, rfl⟩ := Option.map_eq_some_iff.mp hstep
    exact h.complete hash
  | drop reservation =>
    obtain ⟨hash, hreservation, rfl⟩ := Option.map_eq_some_iff.mp hstep
    exact h.drop hreservation

/-! ## 6. What a step does to the queue -/

/-- Why a frame is no longer there after a step. -/
inductive Leaves (F : HeldFrames) (frame : HeldFrame) : Label → Prop
  | expiredOnHold {held : HeldFrame} {now : Nat} (expired : frame.expiresAt ≤ now)
      (idle : ¬F.InFlight frame.envelopeSha256) : Leaves F frame (.hold held now)
  | expiredOnTake {now : Nat} (expired : frame.expiresAt ≤ now)
      (idle : ¬F.InFlight frame.envelopeSha256) : Leaves F frame (.take now)
  | evicted {held : HeldFrame} {now : Nat} {queue queue' : List HeldFrame}
      (outcome : (F.hold held now).1 = .held)
      (earlier : EvictsAll F.inFlight held (F.live now) queue)
      (eviction : Evicts F.inFlight held frame queue queue') : Leaves F frame (.hold held now)
  | settled {reservation : Nat}
      (own : F.reservations[reservation]? = some frame.envelopeSha256)
      (retry : F.inFlight.lookup frame.envelopeSha256 = some ⟨true, false⟩) :
      Leaves F frame (.drop reservation)

/-- **What a step does to the queue.**  A refused frame changes nothing, and an accepted one is there
already or comes in at the end, behind what evictions have left; a retry takes no frame away and no
frame's place until it is completed. -/
def Follows (F F' : HeldFrames) : Label → Prop
  | .hold held now =>
    (F'.frames = F.live now ∧ ((F.hold held now).1 ≠ .held → F'.inFlight = F.inFlight)) ∨
      (F.hold held now).1 = .held ∧
        ∃ queue, EvictsAll F.inFlight held (F.live now) queue ∧ F'.frames = queue ++ [held]
  | .take now => F'.frames = F.live now ∧ (F.take now).1.Sublist F'.frames
  | .complete _ => F'.frames = F.frames
  | .drop reservation => ∀ hash inFlight, F.reservations[reservation]? = some hash →
      F.inFlight.lookup hash = some inFlight →
        inFlight.completed = false ∧ F'.frames = F.frames ∨
        inFlight.completed = true ∧ ∃ before frame after, F.frames = before ++ frame :: after ∧
          frame.envelopeSha256 = hash ∧
          F'.frames = before ++ after ++ if inFlight.reheld then [frame] else []

theorem follows_step (h : F.Bounded) (hstep : F.step label = some F') : F.Follows F' label := by
  cases label with
  | hold held now =>
    cases hstep
    rcases F.hold_cases held now with ⟨hframes, hflight⟩ |
      ⟨houtcome, _, frames, hall, hframes, _⟩
    · refine .inl ⟨hframes, fun hrefused => ?_⟩
      rcases hflight with hflight | ⟨_, houtcome, _⟩
      · exact hflight
      · exact absurd houtcome hrefused
    · exact .inr ⟨houtcome, frames, hall, hframes⟩
  | take now =>
    cases hstep
    exact ⟨rfl, (takeFrames_spec (F.live now) F.inFlight).1⟩
  | complete reservation =>
    obtain ⟨hash, _, rfl⟩ := Option.map_eq_some_iff.mp hstep
    rfl
  | drop reservation =>
    obtain ⟨hash, hreservation, rfl⟩ := Option.map_eq_some_iff.mp hstep
    intro hash' inFlight hreservation' hflight
    obtain rfl : hash = hash' := Option.some.inj (hreservation.symm.trans hreservation')
    exact dropReservation_frames h hflight

/-- A frame that `live` leaves out has expired. -/
theorem expired_of_notMem {now : Nat} (hmem : frame ∈ F.frames) (hgone : frame ∉ F.live now) :
    frame.expiresAt ≤ now ∧ ¬F.InFlight frame.envelopeSha256 := by
  by_contra hlive
  rw [not_and_or, Nat.not_le, not_not] at hlive
  exact hgone (List.mem_filter.mpr ⟨hmem, decide_eq_true hlive⟩)

theorem leaves_step (h : F.Bounded) (hstep : F.step label = some F') (hmem : frame ∈ F.frames)
    (hgone : frame ∉ F'.frames) : F.Leaves frame label := by
  cases label with
  | hold held now =>
    cases hstep
    by_cases hlive : frame ∈ F.live now
    · rcases F.hold_cases held now with ⟨hframes, _⟩ | ⟨houtcome, _, frames, hall, hframes, _⟩
      · rw [hframes] at hgone
        exact absurd hlive hgone
      · rw [hframes, List.mem_append, not_or] at hgone
        obtain ⟨queue, queue', hearlier, hevicts⟩ := hall.of_notMem hlive hgone.1
        exact .evicted houtcome hearlier hevicts
    · obtain ⟨hexpired, hidle⟩ := expired_of_notMem hmem hlive
      exact .expiredOnHold hexpired hidle
  | take now =>
    cases hstep
    obtain ⟨hexpired, hidle⟩ := expired_of_notMem hmem hgone
    exact .expiredOnTake hexpired hidle
  | complete reservation =>
    obtain ⟨hash, _, rfl⟩ := Option.map_eq_some_iff.mp hstep
    exact absurd hmem hgone
  | drop reservation =>
    obtain ⟨hash, hreservation, rfl⟩ := Option.map_eq_some_iff.mp hstep
    obtain ⟨hlt, hget⟩ := List.getElem?_eq_some_iff.mp hreservation
    obtain ⟨inFlight, hflight⟩ := Option.isSome_iff_exists.mp
      ((h.reserved hash).mp (hget ▸ List.getElem_mem hlt))
    rcases dropReservation_frames h hflight with ⟨_, hframes⟩ |
      ⟨hcompleted, before, other, after, hsplit, hhash, hframes⟩
    · rw [hframes] at hgone
      exact absurd hmem hgone
    · rw [hframes, List.mem_append, not_or, List.mem_append] at hgone
      rw [hsplit, List.mem_append, List.mem_cons] at hmem
      obtain rfl : frame = other := by
        rcases hmem with hmem | hmem | hmem
        · exact absurd (.inl hmem) hgone.1
        · exact hmem
        · exact absurd (.inr hmem) hgone.1
      subst hhash
      obtain ⟨completed, reheld⟩ := inFlight
      cases hcompleted
      cases reheld with
      | true => exact absurd (List.mem_singleton_self frame) hgone.2
      | false => exact .settled hreservation hflight

/-- **Held frames.**  Whatever is done with the store, it stays within its bounds and no frame is
handed out twice; and every step does to the queue what it may, and takes a frame away only for one
of the reasons there are. -/
theorem held_frames (maxFrames : Nat) (labels : List Label) :
    Transition.Always step Bounded (new maxFrames) labels ∧
      Transition.Guarded step (fun F label => ∀ F', F.step label = some F' → F.Follows F' label ∧
        ∀ frame ∈ F.frames, frame ∉ F'.frames → F.Leaves frame label) (new maxFrames) labels := by
  have hkeep : ∀ F label F', Bounded F → F.step label = some F' → F'.Bounded :=
    fun _ _ _ h hstep => h.step hstep
  refine ⟨Transition.always_of_invariant hkeep (bounded_new maxFrames), ?_⟩
  exact (Transition.guarded_true labels (new maxFrames)).of_invariant
    (fun F label F' h _ hstep => hkeep F label F' h hstep)
    (fun F label h _ F' hstep =>
      ⟨follows_step h hstep, fun _ hmem hgone => leaves_step h hstep hmem hgone⟩)
    (bounded_new maxFrames)

end HeldFrames

end ElastosRuntime.Collaboration
