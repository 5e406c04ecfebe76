/-
# Per-Profile limits on what is received

`ProfileRateLimiter` of `collaboration_rate_limit.rs`: a table of the admitted times of each
Profile that still count, oldest first.  `check` drops what has expired and says how long to wait,
`record` counts one admitted message.

A wait is read off the oldest time of a row, or of any row when a new Profile finds the table
full; but a row leaves the table with its newest time.  `Sound` is when the two agree, and when
neither a limit of zero nor a sum that saturates lets a message in too early; `receive_limits` is
what holds in every run whose checks are sound.
-/
import ElastosRuntime.Lib.Table
import ElastosRuntime.Lib.Transition
import Mathlib.Data.List.TakeWhile
import Mathlib.Data.String.Basic

namespace ElastosRuntime.Collaboration

/-! ## 1. The limiter -/

def U64_MAX : Nat := 2 ^ 64 - 1
def MAX_TRACKED_PROFILES : Nat := 4096

/-- `u64::saturating_add` -/
def saturatingAdd (a b : Nat) : Nat := min (a + b) U64_MAX

structure ProfileRateLimiter where
  perWindow : Nat
  windowSecs : Nat
  profiles : Table String (List Nat)

namespace ProfileRateLimiter

def new (perWindow windowSecs : Nat) : ProfileRateLimiter := ⟨perWindow, windowSecs, ∅⟩

variable (L : ProfileRateLimiter)

def retryAfter (times : List Nat) (now : Nat) : Nat :=
  max (match times with
    | [] => L.windowSecs
    | oldest :: _ => saturatingAdd oldest L.windowSecs - now) 1

/-- The condition of the loop in `prune`. -/
def expired (now time : Nat) : Bool := saturatingAdd time L.windowSecs ≤ now

def prune (now : Nat) : ProfileRateLimiter :=
  { L with
    profiles := Table.retain (fun _ times => !times.isEmpty)
      (Table.mapVals (fun times => times.dropWhile (L.expired now)) L.profiles) }

def check (profileDid : String) (now : Nat) : Except Nat Unit × ProfileRateLimiter :=
  let pruned := L.prune now
  (match pruned.profiles.lookup profileDid with
    | some times =>
      if L.perWindow ≤ times.length then .error (L.retryAfter times now) else .ok ()
    | none =>
      if MAX_TRACKED_PROFILES ≤ Table.size pruned.profiles then
        .error ((pruned.profiles.entries.map fun row => L.retryAfter row.2 now).min?.getD
          L.windowSecs)
      else .ok (),
    pruned)

def record (profileDid : String) (now : Nat) : ProfileRateLimiter :=
  { L with
    profiles := L.profiles.insert profileDid ((L.profiles.lookup profileDid).getD [] ++ [now]) }

/-- The times of a Profile that the table holds. -/
def row (profileDid : String) : List Nat := (L.profiles.lookup profileDid).getD []

end ProfileRateLimiter

/-! ## 2. Runs -/

/-- The limiter, what has been recorded since the start, the clock, and the check that passed
just now. -/
structure RateState where
  limiter : ProfileRateLimiter
  history : List (String × Nat)
  clock : Nat
  admitted : Option (String × Nat)

inductive RateLabel where
  | check (profileDid : String) (now : Nat)
  | record (profileDid : String) (now : Nat)
deriving DecidableEq

namespace RateState

def start (perWindow windowSecs : Nat) : RateState := ⟨.new perWindow windowSecs, [], 0, none⟩

/-- One call.  The clock is a `u64` and does not go back; a record follows the check that admitted
it. -/
def step (s : RateState) : RateLabel → Option RateState
  | .check profileDid now =>
    if s.clock ≤ now ∧ now ≤ U64_MAX then
      some ⟨(s.limiter.check profileDid now).2, s.history, now,
        if (s.limiter.check profileDid now).1 = .ok () then some (profileDid, now) else none⟩
    else none
  | .record profileDid now =>
    if s.admitted = some (profileDid, now) then
      some ⟨s.limiter.record profileDid now, s.history ++ [(profileDid, now)], s.clock, none⟩
    else none

/-- The recorded times of a Profile. -/
def timesOf (s : RateState) (profileDid : String) : List Nat :=
  (s.history.filter fun record => record.1 = profileDid).map Prod.snd

/-- The table holds a row whose times are all the oldest of the table. -/
def SingleRound (L : ProfileRateLimiter) : Prop :=
  ∃ profileDid times, L.profiles.lookup profileDid = some times ∧
    ∀ time ∈ times, ∀ profileDid' times', L.profiles.lookup profileDid' = some times' →
      ∀ time' ∈ times', time ≤ time'

/-- A check that the limits hold behind: messages are let in, or no time is ever open; no open
window ends after the last second of the clock when that second has come; and when a new Profile
finds the table full, some row is going to leave the table with its oldest time. -/
def Sound (s : RateState) : RateLabel → Prop
  | .check profileDid now =>
    (0 < s.limiter.perWindow ∨ s.limiter.windowSecs = 0) ∧
      (now = U64_MAX → ∀ profileDid', ∀ time ∈ s.limiter.row profileDid',
        time + s.limiter.windowSecs ≤ U64_MAX) ∧
      ((s.limiter.prune now).profiles.lookup profileDid = none →
        MAX_TRACKED_PROFILES ≤ Table.size (s.limiter.prune now).profiles →
          SingleRound (s.limiter.prune now))
  | .record _ _ => True

/-- No more than the limit in any window, no more than the bound in the table, and nothing in an
open window is forgotten. -/
structure Limited (s : RateState) : Prop where
  bounded : ∀ profileDid t, (s.timesOf profileDid).countP
    (fun time => t < time + s.limiter.windowSecs ∧ time ≤ t) ≤ s.limiter.perWindow
  tracked : Table.size s.limiter.profiles ≤ MAX_TRACKED_PROFILES
  remembered : ∀ profileDid, ∀ time ∈ s.timesOf profileDid,
    s.clock < time + s.limiter.windowSecs → time ∈ s.limiter.row profileDid

/-- Whoever waits as long as he is told is let in, if only checks are made in the meantime. -/
def RetryAdmits (L : ProfileRateLimiter) (profileDid : String) (now : Nat) : Prop :=
  ∀ wait, (L.check profileDid now).1 = .error wait → ∀ others : List (String × Nat),
    (∀ other ∈ others, other.2 ≤ now + wait) →
      ((others.foldl (fun L other => (L.check other.1 other.2).2) (L.check profileDid now).2).check
        profileDid (now + wait)).1 = .ok ()

end RateState

/-! ## 3. Pruning -/

namespace ProfileRateLimiter

section

variable {L : ProfileRateLimiter} {profileDid : String} {now later time : Nat} {times : List Nat}

@[simp] theorem prune_windowSecs : (L.prune now).windowSecs = L.windowSecs := rfl
@[simp] theorem check_snd : (L.check profileDid now).2 = L.prune now := rfl
@[simp] theorem record_perWindow : (L.record profileDid now).perWindow = L.perWindow := rfl
@[simp] theorem record_windowSecs : (L.record profileDid now).windowSecs = L.windowSecs := rfl

theorem expired_iff : L.expired now time = true ↔ saturatingAdd time L.windowSecs ≤ now := by
  rw [expired, decide_eq_true_eq]

theorem expired_mono (h : now ≤ later) (htime : L.expired now time = true) :
    L.expired later time = true :=
  expired_iff.mpr ((expired_iff.mp htime).trans h)

theorem lookup_prune : (L.prune now).profiles.lookup profileDid =
    ((L.profiles.lookup profileDid).map fun times => times.dropWhile (L.expired now)).filter
      fun times => !times.isEmpty := by
  rw [prune, Table.lookup_retain, Table.lookup_mapVals]

theorem row_prune : (L.prune now).row profileDid =
    (L.row profileDid).dropWhile (L.expired now) := by
  rw [row, row, lookup_prune]
  cases L.profiles.lookup profileDid with
  | none => rfl
  | some times =>
    rw [Option.map_some, Option.getD_some]
    cases hkept : times.dropWhile (L.expired now) with
    | nil => rfl
    | cons time rest => rfl

/-- What stands in a pruned row is not empty, and its first time still counts. -/
theorem lookup_prune_eq_some (h : (L.prune now).profiles.lookup profileDid = some times) :
    times = (L.row profileDid).dropWhile (L.expired now) ∧
      ∃ oldest rest, times = oldest :: rest ∧ now < saturatingAdd oldest L.windowSecs := by
  have hrow : (L.prune now).row profileDid = times := by rw [row, h, Option.getD_some]
  rw [row_prune] at hrow
  rw [lookup_prune, Option.filter_eq_some_iff] at h
  cases htimes : times with
  | nil =>
    rw [htimes] at h
    cases h.2
  | cons oldest rest =>
    have hhead := List.head?_dropWhile_not (L.expired now) (L.row profileDid)
    rw [hrow, htimes, List.head?_cons] at hhead
    refine ⟨by rw [← htimes, hrow], oldest, rest, rfl, ?_⟩
    rw [← Nat.not_le, ← expired_iff, hhead]
    exact Bool.false_ne_true

theorem dropWhile_dropWhile {p q : Nat → Bool} (h : ∀ x, p x = true → q x = true)
    (l : List Nat) : (l.dropWhile p).dropWhile q = l.dropWhile q := by
  induction l with
  | nil => rfl
  | cons x l ih =>
    by_cases hp : p x = true
    · rw [List.dropWhile_cons_of_pos hp, List.dropWhile_cons_of_pos (h x hp), ih]
    · rw [List.dropWhile_cons_of_neg hp]

/-- Pruning and pruning again later is pruning later. -/
theorem prune_prune (h : now ≤ later) : (L.prune now).prune later = L.prune later := by
  have hdrop : ∀ times : List Nat, (times.dropWhile (L.expired now)).dropWhile (L.expired later) =
      times.dropWhile (L.expired later) :=
    dropWhile_dropWhile fun time htime => expired_mono h htime
  have hrows : ∀ rows : List (Sigma fun _ : String => List Nat),
      ((((rows.map fun row => (⟨row.1, row.2.dropWhile (L.expired now)⟩ :
        Sigma fun _ : String => List Nat)).filter fun row => !row.2.isEmpty).map fun row =>
          (⟨row.1, row.2.dropWhile (L.expired later)⟩ : Sigma fun _ : String => List Nat)).filter
            fun row => !row.2.isEmpty) =
        (rows.map fun row => (⟨row.1, row.2.dropWhile (L.expired later)⟩ :
          Sigma fun _ : String => List Nat)).filter fun row => !row.2.isEmpty := by
    intro rows
    induction rows with
    | nil => rfl
    | cons row rows ih =>
      have hrow := hdrop row.2
      rw [List.map_cons, List.map_cons]
      cases hkept : row.2.dropWhile (L.expired now) with
      | nil =>
        rw [hkept, List.dropWhile_nil] at hrow
        rw [List.filter_cons_of_neg (by simp), ih, ← hrow, List.filter_cons_of_neg (by simp)]
      | cons time rest =>
        rw [List.filter_cons_of_pos (by simp), List.map_cons, List.filter_cons, List.filter_cons,
          ih, ← hkept, hrow]
  have hentries : ((L.prune now).prune later).profiles = (L.prune later).profiles :=
    AList.ext (hrows L.profiles.entries)
  exact congrArg (fun profiles => { L with profiles := profiles }) hentries

/-- A row that a pruning takes off makes the table smaller. -/
theorem size_prune_lt (h : L.profiles.lookup profileDid = some times)
    (hgone : (L.prune now).profiles.lookup profileDid = none) :
    Table.size (L.prune now).profiles < Table.size L.profiles := by
  have hmem : (⟨profileDid, times⟩ : Sigma fun _ : String => List Nat) ∈ L.profiles.entries :=
    Table.mem_entries_iff.mpr h
  rw [lookup_prune, h, Option.map_some, Option.filter_eq_none_iff] at hgone
  have hempty := hgone _ rfl
  have hlength : Table.size L.profiles = (L.profiles.entries.map fun row =>
      (⟨row.1, row.2.dropWhile (L.expired now)⟩ : Sigma fun _ : String => List Nat)).length :=
    List.length_map _ |>.symm
  rw [hlength]
  exact List.length_filter_lt_length_iff_exists.mpr ⟨_, List.mem_map.mpr ⟨_, hmem, rfl⟩, hempty⟩

theorem size_prune_le : Table.size (L.prune now).profiles ≤ Table.size L.profiles :=
  (Table.size_retain_le _ _).trans (Nat.le_of_eq (Table.size_mapVals _ _))

end

end ProfileRateLimiter

/-! ## 4. What a call preserves -/

namespace ProfileRateLimiter

section

variable {L : ProfileRateLimiter} {profileDid : String} {now : Nat}

theorem check_eq_ok (h : (L.check profileDid now).1 = .ok ()) :
    (∃ times, (L.prune now).profiles.lookup profileDid = some times ∧
      times.length < L.perWindow) ∨
    (L.prune now).profiles.lookup profileDid = none ∧
      Table.size (L.prune now).profiles < MAX_TRACKED_PROFILES := by
  rw [check] at h
  dsimp only at h
  cases hlookup : (L.prune now).profiles.lookup profileDid with
  | some times =>
    rw [hlookup] at h
    dsimp only at h
    split at h
    · cases h
    · rename_i hfits
      exact Or.inl ⟨times, rfl, Nat.lt_of_not_le hfits⟩
  | none =>
    rw [hlookup] at h
    dsimp only at h
    split at h
    · cases h
    · rename_i hfits
      exact Or.inr ⟨rfl, Nat.lt_of_not_le hfits⟩

theorem row_record (profileDid' : String) : (L.record profileDid now).row profileDid' =
    if profileDid' = profileDid then L.row profileDid ++ [now] else L.row profileDid' := by
  rw [row, record, Table.lookup_insert_eq]
  split
  · rw [Option.getD_some, row]
  · rfl

theorem size_record : Table.size (L.record profileDid now).profiles =
    Table.size L.profiles + if (L.profiles.lookup profileDid).isNone then 1 else 0 := by
  rw [record]
  cases hlookup : L.profiles.lookup profileDid with
  | none => rw [Table.size_insert_new _ hlookup, Option.isNone_none, if_pos rfl]
  | some times =>
    have hreplace := Table.countVals_insert_replace ((some times).getD [] ++ [now])
      (fun _ => true) hlookup
    rw [if_pos rfl, Nat.add_right_cancel_iff] at hreplace
    rw [Table.size_eq_countVals, Table.size_eq_countVals, hreplace, Option.isNone_some,
      if_neg Bool.false_ne_true, Nat.add_zero]

end

end ProfileRateLimiter

namespace RateState

/-- What holds of every state: the limits; no record lies ahead of the clock; a row holds recorded
times only, not too many, and all that are open; and what was let in just now still fits. -/
structure Inv (s : RateState) : Prop where
  bounded : ∀ profileDid t, (s.timesOf profileDid).countP
    (fun time => t < time + s.limiter.windowSecs ∧ time ≤ t) ≤ s.limiter.perWindow
  tracked : Table.size s.limiter.profiles ≤ MAX_TRACKED_PROFILES
  past : ∀ profileDid, ∀ time ∈ s.timesOf profileDid, time ≤ s.clock
  short : ∀ profileDid, (s.limiter.row profileDid).length ≤ max s.limiter.perWindow 1
  held : ∀ profileDid, ∀ time ∈ s.limiter.row profileDid, time ∈ s.timesOf profileDid
  kept : ∀ profileDid, ((s.timesOf profileDid).filter
    fun time => s.clock < time + s.limiter.windowSecs).Sublist (s.limiter.row profileDid)
  admitted : ∀ profileDid now, s.admitted = some (profileDid, now) → now = s.clock ∧
    (s.limiter.row profileDid).length < max s.limiter.perWindow 1 ∧
    (0 < s.limiter.windowSecs → (s.limiter.row profileDid).length < s.limiter.perWindow) ∧
    (s.limiter.profiles.lookup profileDid = none →
      Table.size s.limiter.profiles < MAX_TRACKED_PROFILES)

section

variable {s t : RateState} {l : RateLabel}

theorem filter_dropWhile {p q : Nat → Bool} {times : List Nat}
    (h : ∀ time ∈ times, q time = true → p time = false) :
    (times.dropWhile p).filter q = times.filter q := by
  induction times with
  | nil => rfl
  | cons time times ih =>
    have hrest := ih fun other hother => h other (List.mem_cons_of_mem _ hother)
    by_cases hp : p time = true
    · have hq : ¬q time = true := by
        intro hq
        rw [h time List.mem_cons_self hq] at hp
        cases hp
      rw [List.dropWhile_cons_of_pos hp, hrest, List.filter_cons_of_neg hq]
    · rw [List.dropWhile_cons_of_neg hp]

theorem inv_start (perWindow windowSecs : Nat) : Inv (start perWindow windowSecs) where
  bounded _ _ := Nat.zero_le _
  tracked := Nat.zero_le _
  past _ _ h := by cases h
  short _ := Nat.zero_le _
  held _ _ h := by cases h
  kept _ := List.Sublist.refl []
  admitted _ _ h := by cases h

variable {profileDid : String} {now : Nat}

/-- **A sound check keeps the invariant**: what it drops is no longer open. -/
theorem Inv.check (h : Inv s) (hsound : Sound s (.check profileDid now))
    (hst : step s (.check profileDid now) = some t) : Inv t := by
  rw [step] at hst
  split at hst
  · rename_i htime
    cases hst
    obtain ⟨hlimit, hlast, -⟩ := hsound
    exact {
      bounded := h.bounded
      tracked := ProfileRateLimiter.size_prune_le.trans h.tracked
      past := fun profileDid' time hmem => (h.past profileDid' time hmem).trans htime.1
      short := fun profileDid' => by
        rw [ProfileRateLimiter.check_snd, ProfileRateLimiter.row_prune]
        exact (List.dropWhile_sublist _).length_le.trans (h.short profileDid')
      held := fun profileDid' time hmem => by
        rw [ProfileRateLimiter.check_snd, ProfileRateLimiter.row_prune] at hmem
        exact h.held profileDid' time ((List.dropWhile_sublist _).subset hmem)
      kept := fun profileDid' => by
        have hopen : ∀ time ∈ s.limiter.row profileDid',
            decide (now < time + s.limiter.windowSecs) = true →
              s.limiter.expired now time = false := by
          intro time hmem htime'
          rw [decide_eq_true_eq] at htime'
          rw [ProfileRateLimiter.expired, decide_eq_false_iff_not, saturatingAdd]
          have hsum := fun heq => hlast heq profileDid' time hmem
          omega
        have hlater : (s.timesOf profileDid').filter
            (fun time => decide (now < time + s.limiter.windowSecs)) =
              ((s.timesOf profileDid').filter
                fun time => decide (s.clock < time + s.limiter.windowSecs)).filter
                  fun time => decide (now < time + s.limiter.windowSecs) := by
          rw [List.filter_filter]
          refine List.filter_congr fun time _ => ?_
          rw [← Bool.decide_and, decide_eq_decide]
          omega
        rw [ProfileRateLimiter.check_snd, ProfileRateLimiter.row_prune]
        change ((s.timesOf profileDid').filter
          fun time => decide (now < time + s.limiter.windowSecs)).Sublist _
        rw [hlater]
        exact ((h.kept profileDid').filter _).trans
          ((filter_dropWhile hopen).symm ▸ List.filter_sublist)
      admitted := fun profileDid' now' hadmitted => by
        dsimp only at hadmitted
        split at hadmitted
        · rename_i hok
          cases hadmitted
          rw [ProfileRateLimiter.check_snd]
          rcases ProfileRateLimiter.check_eq_ok hok with ⟨times, hlookup, hfits⟩ | ⟨hlookup, hfits⟩
          · rw [ProfileRateLimiter.row, hlookup, Option.getD_some]
            exact ⟨rfl, Nat.lt_of_lt_of_le hfits (Nat.le_max_left _ _), fun _ => hfits,
              fun hnone => by cases hnone⟩
          · rw [ProfileRateLimiter.row, hlookup, Option.getD_none]
            refine ⟨rfl, Nat.lt_of_lt_of_le Nat.one_pos (Nat.le_max_right _ _), fun hpos => ?_,
              fun _ => hfits⟩
            rcases hlimit with hlimit | hzero
            · exact hlimit
            · rw [ProfileRateLimiter.prune_windowSecs, hzero] at hpos
              exact absurd hpos (Nat.lt_irrefl 0)
        · cases hadmitted }
  · cases hst

theorem timesOf_append (s : RateState) (profileDid profileDid' : String) (now : Nat)
    (L : ProfileRateLimiter) (clock : Nat) (admitted : Option (String × Nat)) :
    timesOf ⟨L, s.history ++ [(profileDid, now)], clock, admitted⟩ profileDid' =
      s.timesOf profileDid' ++ if profileDid' = profileDid then [now] else [] := by
  rw [timesOf, timesOf, List.filter_append, List.map_append]
  by_cases hsame : profileDid' = profileDid
  · rw [if_pos hsame, List.filter_singleton, hsame, decide_eq_true rfl]
    rfl
  · rw [if_neg hsame, List.filter_singleton, decide_eq_false (Ne.symm hsame)]
    rfl

/-- **A record keeps the invariant**: the check that it follows found room in the row, which holds
everything that a window with the new time can contain. -/
theorem Inv.record (h : Inv s) (hst : step s (.record profileDid now) = some t) : Inv t := by
  rw [step] at hst
  split at hst
  · rename_i hadmitted
    cases hst
    obtain ⟨rfl, hshort, hroom, htable⟩ := h.admitted profileDid now hadmitted
    refine ⟨fun profileDid' t => ?_, ?_, fun profileDid' time hmem => ?_, fun profileDid' => ?_,
      fun profileDid' time hmem => ?_, fun profileDid' => ?_, fun _ _ hnone => by cases hnone⟩
    · rw [timesOf_append, ProfileRateLimiter.record_windowSecs,
        ProfileRateLimiter.record_perWindow, List.countP_append]
      have hbefore := h.bounded profileDid' t
      split
      · rename_i hsame
        rw [List.countP_singleton]
        split
        · rename_i hinside
          rw [decide_eq_true_eq] at hinside
          -- what else stands in this window is still open, so it stands in the row
          have hopen : (s.timesOf profileDid').countP
              (fun time => t < time + s.limiter.windowSecs ∧ time ≤ t) ≤
                ((s.timesOf profileDid').filter
                  fun time => s.clock < time + s.limiter.windowSecs).length := by
            rw [← List.countP_eq_length_filter]
            refine List.countP_mono_left fun time _ htime => ?_
            rw [decide_eq_true_eq] at htime ⊢
            omega
          have hrow := (h.kept profileDid').length_le
          have hfits := hroom (by omega)
          rw [← hsame] at hfits
          omega
        · rwa [Nat.add_zero]
      · rwa [List.countP_nil, Nat.add_zero]
    · rw [ProfileRateLimiter.size_record]
      split
      · rename_i hnone
        exact htable (Option.isNone_iff_eq_none.mp hnone)
      · exact h.tracked
    · rw [timesOf_append, List.mem_append] at hmem
      rcases hmem with hmem | hmem
      · exact h.past profileDid' time hmem
      · split at hmem
        · exact Nat.le_of_eq (List.mem_singleton.mp hmem)
        · cases hmem
    · rw [ProfileRateLimiter.row_record, ProfileRateLimiter.record_perWindow]
      split
      · rw [List.length_append, List.length_singleton]
        exact hshort
      · exact h.short profileDid'
    · rw [timesOf_append, List.mem_append]
      rw [ProfileRateLimiter.row_record] at hmem
      split at hmem
      · rename_i hsame
        rw [if_pos hsame, hsame]
        exact (List.mem_append.mp hmem).imp_left (h.held profileDid time)
      · exact Or.inl (h.held profileDid' time hmem)
    · rw [timesOf_append, ProfileRateLimiter.row_record, List.filter_append]
      split
      · rename_i hsame
        rw [hsame]
        exact (h.kept profileDid).append List.filter_sublist
      · rw [List.filter_nil, List.append_nil]
        exact h.kept profileDid'
  · cases hst

/-- **The invariant holds after every run of sound checks.** -/
theorem inv_of_run {perWindow windowSecs : Nat} {labels : List RateLabel}
    (hrun : Transition.run step (start perWindow windowSecs) labels = some s)
    (hguard : Transition.Guarded step Sound (start perWindow windowSecs) labels) : Inv s := by
  refine Transition.run_invariant (fun s l t h hsound hst => ?_)
    (inv_start perWindow windowSecs) hguard hrun
  cases l with
  | check profileDid now => exact h.check hsound hst
  | record profileDid now => exact h.record hst

theorem Inv.limited (h : Inv s) : Limited s where
  bounded := h.bounded
  tracked := h.tracked
  remembered profileDid _ hmem hopen := (h.kept profileDid).subset
    (List.mem_filter.mpr ⟨hmem, decide_eq_true hopen⟩)

/-! ## 5. Waiting as long as told -/

variable {L : ProfileRateLimiter}

/-- Checks in the meantime only drop what the last check drops. -/
theorem prune_foldl {later : Nat} {others : List (String × Nat)}
    (h : ∀ other ∈ others, other.2 ≤ later) :
    (others.foldl (fun L other => (L.check other.1 other.2).2) L).prune later = L.prune later := by
  induction others generalizing L with
  | nil => rfl
  | cons other others ih =>
    rw [List.foldl_cons, ih fun o ho => h o (List.mem_cons_of_mem _ ho),
      ProfileRateLimiter.check_snd,
      ProfileRateLimiter.prune_prune (h other List.mem_cons_self)]

/-- What the last check says depends on the pruned table alone. -/
theorem check_fst_congr {L' : ProfileRateLimiter} (h : L.prune now = L'.prune now) :
    (L.check profileDid now).1 = (L'.check profileDid now).1 := by
  have hlimit : L.perWindow = L'.perWindow := congrArg (·.perWindow) h
  have hwindow : L.windowSecs = L'.windowSecs := congrArg (·.windowSecs) h
  have hretry : L.retryAfter = L'.retryAfter := by
    funext times time
    simp only [ProfileRateLimiter.retryAfter, hwindow]
  rw [ProfileRateLimiter.check, ProfileRateLimiter.check, h, hlimit, hwindow, hretry]

theorem check_ok_of
    (hrow : ∀ times, (L.prune now).profiles.lookup profileDid = some times → times.length <
      L.perWindow)
    (htable : (L.prune now).profiles.lookup profileDid = none → Table.size (L.prune now).profiles
      < MAX_TRACKED_PROFILES) :
    (L.check profileDid now).1 = .ok () := by
  rw [ProfileRateLimiter.check]
  cases hlookup : (L.prune now).profiles.lookup profileDid with
  | some times => exact if_neg (Nat.not_le_of_lt (hrow times hlookup))
  | none => exact if_neg (Nat.not_le_of_lt (htable hlookup))

/-- The wait that is read off a row that still counts ends when its oldest time expires. -/
theorem add_retryAfter {oldest : Nat} {rest : List Nat}
    (h : now < saturatingAdd oldest L.windowSecs) :
    now + L.retryAfter (oldest :: rest) now = saturatingAdd oldest L.windowSecs := by
  rw [ProfileRateLimiter.retryAfter]
  omega

/-- A Profile over its own limit: its oldest time is gone by then. -/
theorem Inv.retry_own {times : List Nat} (h : Inv s) (htime : s.clock ≤ now)
    (hsound : Sound s (.check profileDid now))
    (hlookup : (s.limiter.prune now).profiles.lookup profileDid = some times) :
    ((s.limiter.prune now).check profileDid
      (now + s.limiter.retryAfter times now)).1 = .ok () := by
  obtain ⟨hkept, oldest, rest, rfl, hopen⟩ :=
    ProfileRateLimiter.lookup_prune_eq_some hlookup
  have hsub : (oldest :: rest).Sublist (s.limiter.row profileDid) :=
    hkept ▸ List.dropWhile_sublist _
  have hpast := h.past profileDid oldest
    (h.held profileDid oldest (hsub.subset List.mem_cons_self))
  have hlimit : (oldest :: rest).length ≤ s.limiter.perWindow := by
    have hshort := hsub.length_le.trans (h.short profileDid)
    rcases hsound.1 with hpos | hzero
    · omega
    · rw [hzero, saturatingAdd] at hopen
      omega
  rw [add_retryAfter hopen]
  refine check_ok_of (fun times' hlookup' => ?_) fun hgone => ?_
  · obtain ⟨hdropped, -⟩ := ProfileRateLimiter.lookup_prune_eq_some hlookup'
    have hexpired : (s.limiter.prune now).expired
        (saturatingAdd oldest s.limiter.windowSecs) oldest = true :=
      ProfileRateLimiter.expired_iff.mpr (Nat.le_refl _)
    rw [ProfileRateLimiter.row, hlookup, Option.getD_some, List.dropWhile_cons_of_pos hexpired]
      at hdropped
    have hlen := (List.dropWhile_sublist (l := rest) ((s.limiter.prune now).expired
      (saturatingAdd oldest s.limiter.windowSecs))).length_le
    rw [← hdropped] at hlen
    exact Nat.lt_of_lt_of_le (Nat.lt_succ_of_le hlen) hlimit
  · exact Nat.lt_of_lt_of_le (ProfileRateLimiter.size_prune_lt hlookup hgone)
      (ProfileRateLimiter.size_prune_le.trans h.tracked)

/-- A new Profile that found the table full: a row whose times are all the oldest is gone by
then. -/
theorem Inv.retry_new {wait : Nat} (h : Inv s) (hround : SingleRound (s.limiter.prune now))
    (hlookup : (s.limiter.prune now).profiles.lookup profileDid = none)
    (hwait : wait = (((s.limiter.prune now).profiles.entries.map fun row => s.limiter.retryAfter
      row.2 now).min?.getD s.limiter.windowSecs)) :
    ((s.limiter.prune now).check profileDid (now + wait)).1 = .ok () := by
  obtain ⟨profileDid', times, hrow, hround⟩ := hround
  obtain ⟨-, oldest, rest, rfl, hopen⟩ := ProfileRateLimiter.lookup_prune_eq_some hrow
  have hends : now + wait = saturatingAdd oldest s.limiter.windowSecs := by
    have hmem := Table.mem_entries_iff.mpr hrow
    cases hmin : ((s.limiter.prune now).profiles.entries.map fun row =>
        s.limiter.retryAfter row.2 now).min? with
    | none =>
      rw [List.min?_eq_none_iff, List.map_eq_nil_iff] at hmin
      rw [hmin] at hmem
      cases hmem
    | some least =>
      rw [hmin, Option.getD_some] at hwait
      rw [List.min?_eq_some_iff] at hmin
      have hle := hmin.2 _ (List.mem_map.mpr ⟨_, hmem, rfl⟩)
      obtain ⟨⟨other, times'⟩, hother, hleast⟩ := List.mem_map.mp hmin.1
      have hlookup' := Table.mem_entries_iff.mp hother
      obtain ⟨-, oldest', rest', rfl, hopen'⟩ :=
        ProfileRateLimiter.lookup_prune_eq_some hlookup'
      have hfirst := hround oldest List.mem_cons_self other _ hlookup' oldest' List.mem_cons_self
      have hsum : now + s.limiter.retryAfter (oldest :: rest) now = _ := add_retryAfter hopen
      have hsum' : now + s.limiter.retryAfter (oldest' :: rest') now = _ := add_retryAfter hopen'
      rw [saturatingAdd] at hsum hsum' ⊢
      dsimp only at hle hleast
      omega
  rw [hends]
  have hgone : ((s.limiter.prune now).prune
      (saturatingAdd oldest s.limiter.windowSecs)).profiles.lookup profileDid' = none := by
    rw [ProfileRateLimiter.lookup_prune, hrow, Option.map_some, Option.filter_eq_none_iff]
    rintro kept ⟨⟩
    have hall : (oldest :: rest).dropWhile ((s.limiter.prune now).expired
        (saturatingAdd oldest s.limiter.windowSecs)) = [] := by
      refine List.dropWhile_eq_nil_iff.mpr fun time hmem => ?_
      have hsame := hround time hmem profileDid' _ hrow oldest List.mem_cons_self
      rw [ProfileRateLimiter.expired_iff, ProfileRateLimiter.prune_windowSecs, saturatingAdd,
        saturatingAdd]
      omega
    rw [hall]
    exact Bool.false_ne_true
  refine check_ok_of (fun times hlookup' => ?_) fun _ => ?_
  · rw [ProfileRateLimiter.lookup_prune, hlookup] at hlookup'
    cases hlookup'
  · exact Nat.lt_of_lt_of_le (ProfileRateLimiter.size_prune_lt hrow hgone)
      (ProfileRateLimiter.size_prune_le.trans h.tracked)

theorem Inv.retryAdmits (h : Inv s) (htime : s.clock ≤ now)
    (hsound : Sound s (.check profileDid now)) : RetryAdmits s.limiter profileDid now := by
  intro wait hwait others hothers
  have hsame : ((others.foldl (fun L other => (L.check other.1 other.2).2)
      (s.limiter.check profileDid now).2).check profileDid (now + wait)).1 =
        ((s.limiter.prune now).check profileDid (now + wait)).1 :=
    check_fst_congr (prune_foldl hothers)
  rw [hsame]
  rw [ProfileRateLimiter.check] at hwait
  dsimp only at hwait
  cases hlookup : (s.limiter.prune now).profiles.lookup profileDid with
  | some times =>
    rw [hlookup] at hwait
    dsimp only at hwait
    split at hwait
    · cases hwait
      exact h.retry_own htime hsound hlookup
    · cases hwait
  | none =>
    rw [hlookup] at hwait
    dsimp only at hwait
    split at hwait
    · rename_i hfull
      cases hwait
      exact h.retry_new (hsound.2.2 hlookup hfull) hlookup rfl
    · cases hwait

/-- **What the limiter keeps to**, in every state of every run whose checks are sound: the limits,
and at a further sound check the wait. -/
theorem receive_limits (perWindow windowSecs : Nat) (labels : List RateLabel) (s : RateState)
    (hrun : Transition.run step (start perWindow windowSecs) labels = some s)
    (hguard : Transition.Guarded step Sound (start perWindow windowSecs) labels) :
    Limited s ∧ ∀ profileDid now, s.clock ≤ now → Sound s (.check profileDid now) →
      RetryAdmits s.limiter profileDid now :=
  have hinv := inv_of_run hrun hguard
  ⟨hinv.limited, fun _ _ => hinv.retryAdmits⟩

theorem receive_limits_pair : ∃ s,
    Transition.run step (start 2 10) [.check "alice" 100, .record "alice" 100,
      .check "alice" 101, .record "alice" 101] = some s ∧
    Limited s ∧ (s.limiter.check "alice" 102).1 = .error 8 ∧
      RetryAdmits s.limiter "alice" 102 := by
  let L : ProfileRateLimiter := ⟨2, 10, AList.insert "alice" [100, 101] ∅⟩
  let s : RateState := ⟨L, [("alice", 100), ("alice", 101)], 101, none⟩
  have hrun : Transition.run step (start 2 10) [.check "alice" 100, .record "alice" 100,
      .check "alice" 101, .record "alice" 101] = some s := rfl
  have hsound : ∀ s : RateState, s.limiter.perWindow = 2 → ∀ now, now ≠ U64_MAX →
      Table.size (s.limiter.prune now).profiles < MAX_TRACKED_PROFILES →
        Sound s (.check "alice" now) := fun s hlimit now hnow hsize =>
    ⟨Or.inl (by rw [hlimit]; decide), fun heq => absurd heq hnow,
      fun _ hfull => absurd hfull (Nat.not_le_of_lt hsize)⟩
  have hguard : Transition.Guarded step Sound (start 2 10) [.check "alice" 100,
      .record "alice" 100, .check "alice" 101, .record "alice" 101] := by
    refine ⟨hsound _ rfl _ (by decide) (by decide), fun t ht => ⟨trivial, fun u hu => ?_⟩⟩
    cases ht
    cases hu
    exact ⟨hsound _ rfl _ (by decide) (by decide), fun t ht => ⟨trivial, fun _ _ => trivial⟩⟩
  obtain ⟨hlimited, hretry⟩ := receive_limits 2 10 _ s hrun hguard
  exact ⟨s, hrun, hlimited, by rfl, hretry "alice" 102 (by decide)
    (hsound s rfl 102 (by decide) (by decide))⟩

end

/-! ## 6. A full table of rows that last longer than told -/

def sampleProfile (i : Nat) : String := String.ofList (List.replicate i 'a')

theorem sampleProfile_inj {i j : Nat} (h : sampleProfile i = sampleProfile j) : i = j := by
  have hlen := congrArg List.length (String.ofList_injective h)
  rwa [List.length_replicate, List.length_replicate] at hlen

/-- One Profile with two messages, and so many with one. -/
structure Filled (n : Nat) (L : ProfileRateLimiter) : Prop where
  perWindow : L.perWindow = 2
  windowSecs : L.windowSecs = 10
  size : Table.size L.profiles = n + 1
  first : L.profiles.lookup (sampleProfile 0) = some [100, 105]
  rows : ∀ profileDid times, L.profiles.lookup profileDid = some times →
    times = [100, 105] ∨ times = [105]
  names : ∀ i, n < i → L.profiles.lookup (sampleProfile i) = none

section

variable {n : Nat} {L : ProfileRateLimiter}

theorem Filled.lookup_prune {now : Nat} (h : Filled n L) (hnow : now < 115) (profileDid : String) :
    (L.prune now).profiles.lookup profileDid =
      (L.profiles.lookup profileDid).map fun times => times.dropWhile (L.expired now) := by
  rw [ProfileRateLimiter.lookup_prune]
  cases hlookup : L.profiles.lookup profileDid with
  | none => rfl
  | some times =>
    have hlast : L.expired now 105 = false := by
      rw [ProfileRateLimiter.expired, h.windowSecs, decide_eq_false_iff_not]
      exact Nat.not_le_of_lt hnow
    have hkept : times.dropWhile (L.expired now) ≠ [] := by
      rw [ne_eq, List.dropWhile_eq_nil_iff]
      intro hall
      have hmem : 105 ∈ times := by rcases h.rows _ _ hlookup with rfl | rfl <;> simp
      rw [hall 105 hmem] at hlast
      cases hlast
    rw [Option.map_some]
    exact Option.filter_eq_some_iff.mpr ⟨rfl, by simpa using hkept⟩

theorem Filled.size_prune {now : Nat} (h : Filled n L) (hnow : now < 115) :
    Table.size (L.prune now).profiles = n + 1 := by
  rw [← h.size]
  refine Nat.le_antisymm ProfileRateLimiter.size_prune_le ?_
  have hkeys : L.profiles.keys.Subperm (L.prune now).profiles.keys := by
    refine List.subperm_of_subset L.profiles.nodupKeys fun profileDid hmem => ?_
    obtain ⟨times, hlookup⟩ := Option.isSome_iff_exists.mp (AList.lookup_isSome.mpr hmem)
    refine AList.lookup_isSome.mp ?_
    rw [h.lookup_prune hnow, hlookup]
    rfl
  have hlength : ∀ table : Table String (List Nat), table.keys.length = Table.size table :=
    fun table => List.length_map _
  rw [← hlength, ← hlength]
  exact hkeys.length_le

theorem Filled.prune {now : Nat} (h : Filled n L) (hnow : now < 110) : Filled n (L.prune now) := by
  have hsame : ∀ profileDid, (L.prune now).profiles.lookup profileDid =
      L.profiles.lookup profileDid := by
    intro profileDid
    rw [h.lookup_prune (by omega)]
    cases hlookup : L.profiles.lookup profileDid with
    | none => rfl
    | some times =>
      have hopen : ∀ time, 100 ≤ time → time ≤ 105 → ¬L.expired now time = true := by
        intro time hlow hhigh
        rw [ProfileRateLimiter.expired_iff, h.windowSecs, saturatingAdd, U64_MAX]
        omega
      rw [Option.map_some]
      rcases h.rows _ _ hlookup with rfl | rfl
      · rw [List.dropWhile_cons_of_neg (hopen 100 (by decide) (by decide))]
      · rw [List.dropWhile_cons_of_neg (hopen 105 (by decide) (by decide))]
  exact ⟨h.perWindow, h.windowSecs, h.size_prune (by omega), (hsame _).trans h.first,
    fun profileDid times hlookup => h.rows profileDid times ((hsame _).symm.trans hlookup),
    fun i hi => (hsame _).trans (h.names i hi)⟩

theorem Filled.record (h : Filled n L) : Filled (n + 1) (L.record (sampleProfile (n + 1)) 105) := by
  have hnew := h.names (n + 1) (Nat.lt_succ_self n)
  have hlookup : ∀ profileDid, (L.record (sampleProfile (n + 1)) 105).profiles.lookup profileDid =
      if profileDid = sampleProfile (n + 1) then some [105] else L.profiles.lookup profileDid := by
    intro profileDid
    rw [ProfileRateLimiter.record, Table.lookup_insert_eq, hnew]
    rfl
  refine ⟨h.perWindow, h.windowSecs, ?_, ?_, fun profileDid times hrow => ?_, fun i hi => ?_⟩
  · rw [ProfileRateLimiter.size_record, h.size, hnew]
    rfl
  · rw [hlookup, if_neg fun heq => absurd (sampleProfile_inj heq) (by omega)]
    exact h.first
  · rw [hlookup] at hrow
    split at hrow
    · cases hrow
      exact Or.inr rfl
    · exact h.rows profileDid times hrow
  · rw [hlookup, if_neg fun heq => absurd (sampleProfile_inj heq) (by omega)]
    exact h.names i (by omega)

/-- A run that fills the table so far. -/
theorem exists_filled : ∀ n < MAX_TRACKED_PROFILES, ∃ labels s,
    Transition.run step (start 2 10) labels = some s ∧ Filled n s.limiter ∧ s.clock = 105 := by
  intro n
  induction n with
  | zero =>
    intro _
    refine ⟨[.check (sampleProfile 0) 100, .record (sampleProfile 0) 100,
      .check (sampleProfile 0) 105, .record (sampleProfile 0) 105],
      ⟨⟨2, 10, AList.insert (sampleProfile 0) [100, 105] ∅⟩,
        [(sampleProfile 0, 100), (sampleProfile 0, 105)], 105, none⟩, by rfl,
      ⟨rfl, rfl, rfl, rfl, fun profileDid times hrow => ?_, fun i hi => ?_⟩, rfl⟩
    · rw [Table.lookup_insert_eq] at hrow
      split at hrow
      · cases hrow
        exact Or.inl rfl
      · cases hrow
    · rw [Table.lookup_insert_eq, if_neg fun heq => absurd (sampleProfile_inj heq) (by omega)]
      rfl
  | succ n ih =>
    intro hn
    obtain ⟨labels, s, hrun, hfilled, hclock⟩ := ih (by omega)
    have hpruned := hfilled.prune (show 105 < 110 by decide)
    have hok : (s.limiter.check (sampleProfile (n + 1)) 105).1 = .ok () := by
      refine check_ok_of (fun times hlookup => ?_) fun _ => ?_
      · rw [hpruned.names (n + 1) (Nat.lt_succ_self n)] at hlookup
        cases hlookup
      · rw [hpruned.size]
        exact hn
    have hchecked : step s (.check (sampleProfile (n + 1)) 105) =
        some ⟨s.limiter.prune 105, s.history, 105, some (sampleProfile (n + 1), 105)⟩ := by
      rw [step, if_pos ⟨by rw [hclock], by decide⟩, hok, if_pos rfl]
      rfl
    refine ⟨labels ++ [.check (sampleProfile (n + 1)) 105, .record (sampleProfile (n + 1)) 105],
      ⟨(s.limiter.prune 105).record (sampleProfile (n + 1)) 105,
        s.history ++ [(sampleProfile (n + 1), 105)], 105, none⟩,
      Transition.run_append_eq_some.mpr ⟨s, hrun, ?_⟩, hpruned.record, rfl⟩
    rw [Transition.run_cons_eq_some]
    refine ⟨_, hchecked, Transition.run_cons_eq_some.mpr ⟨_, ?_, rfl⟩⟩
    rw [step, if_pos rfl]

end

/-- A Profile that is told to wait for the oldest time of a full table is refused again: that row
has a later time, and so have all the others. -/
theorem full_table_refuses_again : ¬∀ perWindow windowSecs labels s,
    Transition.run step (start perWindow windowSecs) labels = some s →
      Limited s ∧ ∀ profileDid now, s.clock ≤ now → now ≤ U64_MAX →
        RetryAdmits s.limiter profileDid now := by
  intro hall
  obtain ⟨labels, s, hrun, hfilled, hclock⟩ := exists_filled 4095 (by decide)
  have hretry := (hall 2 10 labels s hrun).2 (sampleProfile 4096) 106 (by rw [hclock]; decide)
    (by decide)
  have hpruned := hfilled.prune (show 106 < 110 by decide)
  have hnew := hpruned.names 4096 (by decide)
  have hfull : MAX_TRACKED_PROFILES ≤ Table.size (s.limiter.prune 106).profiles := by
    rw [hpruned.size]
    exact Nat.le_refl _
  have hwaits : ∀ times, times = [100, 105] ∨ times = [105] →
      s.limiter.retryAfter times 106 = 4 ∧ times = [100, 105] ∨
        s.limiter.retryAfter times 106 = 9 := by
    rintro times (rfl | rfl)
    · exact Or.inl ⟨by rw [ProfileRateLimiter.retryAfter, hfilled.windowSecs]; rfl, rfl⟩
    · exact Or.inr (by rw [ProfileRateLimiter.retryAfter, hfilled.windowSecs]; rfl)
  have hleast : ((s.limiter.prune 106).profiles.entries.map fun row =>
      s.limiter.retryAfter row.2 106).min? = some 4 := by
    rw [List.min?_eq_some_iff]
    refine ⟨List.mem_map.mpr ⟨_, Table.mem_entries_iff.mpr hpruned.first, ?_⟩, fun wait hwait => ?_⟩
    · rw [ProfileRateLimiter.retryAfter, hfilled.windowSecs]
      rfl
    · obtain ⟨⟨profileDid, times⟩, hrow, rfl⟩ := List.mem_map.mp hwait
      rcases hwaits times (hpruned.rows _ _ (Table.mem_entries_iff.mp hrow)) with
        ⟨hfour, -⟩ | hnine
      · exact Nat.le_of_eq hfour.symm
      · rw [hnine]
        decide
  have hrefused : (s.limiter.check (sampleProfile 4096) 106).1 = .error 4 := by
    rw [ProfileRateLimiter.check, hnew, hleast]
    exact if_pos hfull
  have hagain := hretry 4 hrefused [] (fun _ hnone => by cases hnone)
  have hlast := hpruned.lookup_prune (show 110 < 115 by decide) (sampleProfile 4096)
  rw [hnew, Option.map_none] at hlast
  rcases ProfileRateLimiter.check_eq_ok hagain with ⟨times, hlookup, -⟩ | ⟨-, hroom⟩
  · rw [List.foldl_nil, ProfileRateLimiter.check_snd, hlast] at hlookup
    cases hlookup
  · rw [List.foldl_nil, ProfileRateLimiter.check_snd,
      hpruned.size_prune (show 110 < 115 by decide)] at hroom
    exact absurd hroom (by decide)

end RateState

end ElastosRuntime.Collaboration
