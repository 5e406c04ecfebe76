/-
# Limits on beginning a passkey ceremony

`BeginLimiter` of `auth_passkey_limits.rs`: a table of callers, each with the times of the starts
that still count, one queue for sign-up and one for sign-in.  Two windows are read off one queue,
and a caller leaves the table with the newest start of both.  Times are nanoseconds of a clock
that does not go back.

* A call is let in exactly if its own two windows have room, unless the table is full of other
  callers (`admitCall_eq_ok_iff`, `startRetry_eq_zero_iff`), and a refused call changes no later
  answer (`admitCall_refused`, `admitCall_purge`).
* What a refused call is told to wait is exact: for the windows (`retry_of_windows`) and for a
  place in the table (`retry_of_table`).
* `begin_limits` puts them together for every run.
-/
import ElastosRuntime.Lib.SlidingWindow
import ElastosRuntime.Lib.Table
import ElastosRuntime.Lib.Transition

namespace ElastosRuntime.PasskeyLimits

open SlidingWindow (young wait)

/-! ## 1. The limiter -/

def MAX_CLIENTS : Nat := 256
def SHORT_WINDOW : Nat := 60 * 1000000000
def CHALLENGE_WINDOW : Nat := 300 * 1000000000
def MAX_SHORT_BEGINS : Nat := 4
def MAX_PENDING_STARTS : Nat := 8

inductive CeremonyKind where
  | registration
  | authentication
deriving DecidableEq

inductive IpAddr where
  | v4 (bits : BitVec 32)
  | v6 (bits : BitVec 128)
deriving DecidableEq

/-- `IpAddr::to_canonical`: an IPv4 address that is mapped into IPv6 is the IPv4 address. -/
def IpAddr.toCanonical : IpAddr → IpAddr
  | v4 bits => v4 bits
  | v6 bits => if bits >>> 32 = 0xffff then v4 (bits.truncate 32) else v6 bits

/-- A home, by the components of its path, and the peer that calls. -/
abbrev Caller := List String × Option IpAddr

def callerKey (root : List String) (peer : Option IpAddr) : Caller :=
  (root, peer.map IpAddr.toCanonical)

/-- The starts of each kind, oldest first. -/
abbrev Starts := CeremonyKind → List Nat

namespace Starts

/-- The condition of the loop that takes starts off the front. -/
def expired (now start : Nat) : Bool := CHALLENGE_WINDOW ≤ now - start

def purge (now : Nat) (starts : Starts) : Starts :=
  fun kind => (starts kind).dropWhile (expired now)

def isHeld (starts : Starts) : Bool :=
  !(starts .registration).isEmpty || !(starts .authentication).isEmpty

/-- The newest start of both kinds. -/
def last (starts : Starts) : Option Nat :=
  ([CeremonyKind.registration, .authentication].filterMap fun kind => (starts kind).getLast?).max?

end Starts

/-- What `admitCall` answers; `unretained` is its `expect` on a table that is full and empty. -/
inductive Verdict where
  | ok
  | err (retry : Nat)
  | unretained
deriving DecidableEq

structure BeginLimiter where
  clients : Table Caller Starts

namespace BeginLimiter

def default : BeginLimiter := ⟨∅⟩

variable (L : BeginLimiter)

def purge (now : Nat) : BeginLimiter :=
  ⟨Table.retain (fun _ => Starts.isHeld) (Table.mapVals (Starts.purge now) L.clients)⟩

/-- When the first entry leaves the table. -/
def slotRetry (now : Nat) : Option Nat :=
  (L.clients.entries.filterMap fun row =>
    row.2.last.map fun last => CHALLENGE_WINDOW - (now - last)).min?

/-- When both windows of a queue have room. -/
def startRetry (window : List Nat) (now : Nat) : Nat :=
  let retry :=
    if MAX_PENDING_STARTS ≤ window.length then
      match window[window.length - MAX_PENDING_STARTS]? with
      | some start => CHALLENGE_WINDOW - (now - start)
      | none => 0
    else 0
  match window.reverse[MAX_SHORT_BEGINS - 1]? with
  | some start => max retry (SHORT_WINDOW - (now - start))
  | none => retry

def admitCall (key : Caller) (kind : CeremonyKind) (now : Nat) : Verdict × BeginLimiter :=
  let L := L.purge now
  if (L.clients.lookup key).isNone ∧ MAX_CLIENTS ≤ Table.size L.clients then
    (match L.slotRetry now with
      | some retry => .err retry
      | none => .unretained, L)
  else
    -- `entry(key).or_default()`
    let clients := if (L.clients.lookup key).isNone then L.clients.insert key (fun _ => [])
      else L.clients
    let starts := (clients.lookup key).getD fun _ => []
    let retry := startRetry (starts kind) now
    if retry ≠ 0 then (.err retry, ⟨clients⟩)
    else (.ok, ⟨clients.insert key (Function.update starts kind (starts kind ++ [now]))⟩)

/-- The starts of a caller that the table holds. -/
def row (key : Caller) : Starts := (L.clients.lookup key).getD fun _ => []

/-- The table has no place for a caller that is not in it. -/
def Full (key : Caller) (now : Nat) : Prop :=
  (L.purge now).clients.lookup key = none ∧ MAX_CLIENTS ≤ Table.size (L.purge now).clients

end BeginLimiter

/-! ## 2. Runs -/

/-- The limiter, the starts it has admitted, and the clock. -/
structure LimiterState where
  limiter : BeginLimiter
  history : List (Caller × CeremonyKind × Nat)
  clock : Nat

/-- A call of a peer. -/
structure BeginCall where
  root : List String
  peer : Option IpAddr
  kind : CeremonyKind
  now : Nat

namespace LimiterState

def start : LimiterState := ⟨.default, [], 0⟩

/-- The admitted starts of a caller and a kind. -/
def starts (s : LimiterState) (key : Caller) (kind : CeremonyKind) : List Nat :=
  (s.history.filter fun entry => entry.1 = key ∧ entry.2.1 = kind).map fun entry => entry.2.2

def step (s : LimiterState) (call : BeginCall) : Option LimiterState :=
  if s.clock ≤ call.now then
    let key := callerKey call.root call.peer
    let answer := s.limiter.admitCall key call.kind call.now
    some
      { limiter := answer.2
        history := if answer.1 = .ok then s.history ++ [(key, call.kind, call.now)] else s.history
        clock := call.now }
  else none

end LimiterState

/-! ## 3. Purging -/

section

variable {L : BeginLimiter} {key : Caller} {kind : CeremonyKind} {now later : Nat}

theorem expired_mono (h : now ≤ later) {start : Nat} (hstart : Starts.expired now start = true) :
    Starts.expired later start = true := by
  simp only [Starts.expired, decide_eq_true_eq] at hstart ⊢
  omega

theorem dropWhile_expired_dropWhile (h : now ≤ later) (starts : List Nat) :
    (starts.dropWhile (Starts.expired now)).dropWhile (Starts.expired later) =
      starts.dropWhile (Starts.expired later) := by
  induction starts with
  | nil => rfl
  | cons start starts ih =>
    by_cases hstart : Starts.expired now start = true
    · rw [List.dropWhile_cons_of_pos hstart, List.dropWhile_cons_of_pos (expired_mono h hstart), ih]
    · rw [List.dropWhile_cons_of_neg hstart]

variable {starts : List Nat}

/-- Of a queue in order, the starts that count are left. -/
theorem dropWhile_expired_eq_filter (hsorted : starts.Pairwise (· ≤ ·))
    (hpast : ∀ start ∈ starts, start ≤ now) :
    starts.dropWhile (Starts.expired now) = starts.filter (young CHALLENGE_WINDOW now) := by
  induction starts with
  | nil => rfl
  | cons start starts ih =>
    obtain ⟨hfirst, hrest⟩ := List.pairwise_cons.mp hsorted
    have hold := hpast start List.mem_cons_self
    have hpast_rest : ∀ later ∈ starts, later ≤ now := fun later hlater =>
      hpast later (List.mem_cons_of_mem _ hlater)
    have hpositive : 0 < CHALLENGE_WINDOW := by decide
    by_cases hstart : Starts.expired now start = true
    · have hout : ¬young CHALLENGE_WINDOW now start = true := by
        rw [SlidingWindow.young_iff]
        simp only [Starts.expired, decide_eq_true_eq] at hstart
        omega
      rw [List.dropWhile_cons_of_pos hstart, List.filter_cons_of_neg hout, ih hrest hpast_rest]
    · rw [List.dropWhile_cons_of_neg hstart]
      refine (List.filter_eq_self.mpr fun later hlater => ?_).symm
      have hle : start ≤ later := by
        rcases List.mem_cons.mp hlater with rfl | hlater
        · exact Nat.le_refl _
        · exact hfirst later hlater
      have := hpast later hlater
      simp only [Starts.expired, decide_eq_true_eq] at hstart
      rw [SlidingWindow.young_iff]
      omega

theorem purge_starts_purge (h : now ≤ later) (starts : Starts) :
    (starts.purge now).purge later = starts.purge later :=
  funext fun kind => dropWhile_expired_dropWhile h (starts kind)

theorem isHeld_iff {starts : Starts} : starts.isHeld = true ↔ ∃ kind, starts kind ≠ [] := by
  rw [Starts.isHeld, Bool.or_eq_true, Bool.not_eq_true', Bool.not_eq_true',
    List.isEmpty_eq_false_iff, List.isEmpty_eq_false_iff]
  constructor
  · rintro (h | h)
    · exact ⟨_, h⟩
    · exact ⟨_, h⟩
  · rintro ⟨kind, h⟩
    cases kind with
    | registration => exact .inl h
    | authentication => exact .inr h

theorem isHeld_eq_false_iff {starts : Starts} :
    starts.isHeld = false ↔ ∀ kind, starts kind = [] := by
  rw [← Bool.not_eq_true, isHeld_iff]
  simp

namespace BeginLimiter

/-- Purging and purging again later is purging later. -/
theorem purge_purge (h : now ≤ later) : (L.purge now).purge later = L.purge later := by
  refine congrArg BeginLimiter.mk (Table.retain_mapVals_retain_mapVals (purge_starts_purge h)
    (fun starts hstarts => ?_) L.clients)
  rw [isHeld_eq_false_iff] at hstarts ⊢
  intro kind
  rw [← purge_starts_purge h, Starts.purge, hstarts kind, List.dropWhile_nil]

theorem lookup_purge : (L.purge now).clients.lookup key =
    ((L.clients.lookup key).map (Starts.purge now)).filter Starts.isHeld := by
  rw [purge, Table.lookup_retain, Table.lookup_mapVals]

theorem row_purge :
    (L.purge now).row key kind = (L.row key kind).dropWhile (Starts.expired now) := by
  rw [row, row, lookup_purge]
  cases L.clients.lookup key with
  | none => rfl
  | some starts =>
    rw [Option.map_some, Option.filter_some]
    cases hheld : (starts.purge now).isHeld with
    | true => rfl
    | false => exact (isHeld_eq_false_iff.mp hheld kind).symm

/-- A caller that is not in the purged table has no start that counts. -/
theorem row_eq_nil (h : (L.purge now).clients.lookup key = none) :
    (L.purge now).row key kind = [] := by
  rw [row, h]
  rfl

theorem lookup_purge_of_none (h : L.clients.lookup key = none) :
    (L.purge now).clients.lookup key = none := by
  rw [lookup_purge, h]
  rfl

theorem size_purge_le : Table.size (L.purge now).clients ≤ Table.size L.clients :=
  (Table.size_retain_le _ _).trans (Nat.le_of_eq (Table.size_mapVals _ _))

/-- A caller that is purged leaves a place in the table. -/
theorem size_purge_lt {starts : Starts} (h : L.clients.lookup key = some starts)
    (hgone : (starts.purge now).isHeld = false) :
    Table.size (L.purge now).clients < Table.size L.clients := by
  have hlookup : (Table.mapVals (Starts.purge now) L.clients).lookup key =
      some (starts.purge now) := by rw [Table.lookup_mapVals, h, Option.map_some]
  exact (Table.size_retain_lt hlookup hgone).trans_eq (Table.size_mapVals _ _)

/-- While no caller is purged, the table keeps its size. -/
theorem size_purge_eq (h : ∀ key starts, L.clients.lookup key = some starts →
    (starts.purge now).isHeld = true) :
    Table.size (L.purge now).clients = Table.size L.clients := by
  have hall : ∀ row ∈ (Table.mapVals (Starts.purge now) L.clients).entries,
      row.2.isHeld = true := by
    intro row hrow
    obtain ⟨held, hheld, rfl⟩ := List.mem_map.mp hrow
    exact h held.1 held.2 (Table.mem_entries_iff.mp hheld)
  have hkept : (Table.mapVals (Starts.purge now) L.clients).entries.filter
      (fun row => row.2.isHeld) = (Table.mapVals (Starts.purge now) L.clients).entries :=
    List.filter_eq_self.mpr hall
  exact (congrArg List.length hkept).trans (Table.size_mapVals _ _)

end BeginLimiter

/-! ## 4. Waiting -/

/-- The retry time is the later of the two windows'. -/
theorem startRetry_eq (window : List Nat) (now : Nat) : BeginLimiter.startRetry window now =
    max (wait MAX_PENDING_STARTS CHALLENGE_WINDOW window now)
      (wait MAX_SHORT_BEGINS SHORT_WINDOW window now) := by
  have hpending : (if MAX_PENDING_STARTS ≤ window.length then
      match window[window.length - MAX_PENDING_STARTS]? with
      | some start => CHALLENGE_WINDOW - (now - start)
      | none => 0
    else 0) = wait MAX_PENDING_STARTS CHALLENGE_WINDOW window now := by
    unfold wait
    split
    · next hlength =>
      have hpositive : 0 < MAX_PENDING_STARTS := by decide
      rw [List.getElem?_reverse (by omega)]
      congr 2
    · next hlength => rw [List.getElem?_eq_none (by rw [List.length_reverse]; omega)]
  unfold BeginLimiter.startRetry
  rw [hpending]
  generalize wait MAX_PENDING_STARTS CHALLENGE_WINDOW window now = pending
  unfold wait
  cases window.reverse[MAX_SHORT_BEGINS - 1]? with
  | none => exact (Nat.max_zero _).symm
  | some start => rfl

/-- Purging changes no retry time, which runs down with the clock. -/
theorem startRetry_later (hpast : ∀ start ∈ starts, start ≤ now) (h : now ≤ later) :
    BeginLimiter.startRetry (starts.dropWhile (Starts.expired later)) later =
      BeginLimiter.startRetry (starts.dropWhile (Starts.expired now)) now - (later - now) := by
  have hold (now : Nat) :
      ∀ start, Starts.expired now start = true → CHALLENGE_WINDOW ≤ now - start :=
    fun start hstart => of_decide_eq_true hstart
  have hshort (now : Nat) : ∀ start, Starts.expired now start = true → SHORT_WINDOW ≤ now - start :=
    fun start hstart => Nat.le_trans (by decide) (hold now start hstart)
  rw [startRetry_eq, startRetry_eq, SlidingWindow.wait_dropWhile (hold later),
    SlidingWindow.wait_dropWhile (hshort later), SlidingWindow.wait_dropWhile (hold now),
    SlidingWindow.wait_dropWhile (hshort now), SlidingWindow.wait_later hpast h,
    SlidingWindow.wait_later hpast h]
  omega

/-- There is nothing to wait for if and only if both windows have room. -/
theorem startRetry_eq_zero_iff (hsorted : starts.Pairwise (· ≤ ·))
    (hpast : ∀ start ∈ starts, start ≤ now) :
    BeginLimiter.startRetry (starts.dropWhile (Starts.expired now)) now = 0 ↔
      starts.countP (young SHORT_WINDOW now) < MAX_SHORT_BEGINS ∧
        starts.countP (young CHALLENGE_WINDOW now) < MAX_PENDING_STARTS := by
  have hold : ∀ start, Starts.expired now start = true → CHALLENGE_WINDOW ≤ now - start :=
    fun start hstart => of_decide_eq_true hstart
  have hshort : ∀ start, Starts.expired now start = true → SHORT_WINDOW ≤ now - start :=
    fun start hstart => Nat.le_trans (by decide) (hold start hstart)
  rw [startRetry_eq, SlidingWindow.wait_dropWhile hold, SlidingWindow.wait_dropWhile hshort,
    Nat.max_eq_zero_iff, SlidingWindow.wait_eq_zero_iff (by decide) hsorted hpast,
    SlidingWindow.wait_eq_zero_iff (by decide) hsorted hpast, and_comm]

/-! ## 5. One call -/

namespace BeginLimiter

theorem admitCall_full (h : L.Full key now) : L.admitCall key kind now =
    (match (L.purge now).slotRetry now with
      | some retry => .err retry
      | none => .unretained, L.purge now) := by
  unfold admitCall
  exact if_pos ⟨Option.isNone_iff_eq_none.mpr h.1, h.2⟩

/-- A call that has to wait for its own starts. -/
theorem admitCall_wait (hretry : startRetry ((L.purge now).row key kind) now ≠ 0) :
    L.admitCall key kind now =
      (.err (startRetry ((L.purge now).row key kind) now), L.purge now) := by
  cases hlookup : (L.purge now).clients.lookup key with
  | none => exact absurd (by rw [row_eq_nil hlookup]; rfl) hretry
  | some starts =>
    have hrow : (L.purge now).row key = starts := by rw [row, hlookup, Option.getD_some]
    rw [hrow] at hretry ⊢
    unfold admitCall
    simp only [hlookup, Option.isNone_some, Bool.false_eq_true, false_and, if_false,
      Option.getD_some]
    rw [if_pos hretry]

/-- A call that is let in. -/
theorem admitCall_start (h : ¬L.Full key now)
    (hretry : startRetry ((L.purge now).row key kind) now = 0) :
    ∃ clients, L.admitCall key kind now = (.ok, ⟨clients⟩) ∧
      Table.size clients ≤ max (Table.size (L.purge now).clients) MAX_CLIENTS ∧
      ∀ other, clients.lookup other = if other = key then
        some (Function.update ((L.purge now).row key) kind ((L.purge now).row key kind ++ [now]))
        else (L.purge now).clients.lookup other := by
  cases hlookup : (L.purge now).clients.lookup key with
  | none =>
    have hroom : Table.size (L.purge now).clients < MAX_CLIENTS :=
      Nat.lt_of_not_le fun hsize => h ⟨hlookup, hsize⟩
    have hrow : (L.purge now).row key = fun _ => [] := by rw [row, hlookup, Option.getD_none]
    rw [hrow] at hretry ⊢
    unfold admitCall
    simp only [hlookup, Option.isNone_none, true_and, Nat.not_le_of_lt hroom, if_false, if_true,
      AList.lookup_insert, Option.getD_some, hretry, ne_eq, not_true_eq_false, AList.insert_insert]
    refine ⟨_, rfl, ?_, fun other => Table.lookup_insert_eq _ _ _ _⟩
    rw [Table.size_insert_new _ hlookup]
    omega
  | some starts =>
    have hrow : (L.purge now).row key = starts := by rw [row, hlookup, Option.getD_some]
    rw [hrow] at hretry ⊢
    unfold admitCall
    simp only [hlookup, Option.isNone_some, Bool.false_eq_true, false_and, if_false,
      Option.getD_some, hretry, ne_eq, not_true_eq_false]
    refine ⟨_, rfl, ?_, fun other => Table.lookup_insert_eq _ _ _ _⟩
    exact (Nat.le_of_eq (Table.size_insert_replace _ hlookup)).trans (Nat.le_max_left _ _)

/-- **A refused call changes no later answer.** -/
theorem admitCall_refused (hrefused : (L.admitCall key kind now).1 ≠ .ok) :
    (L.admitCall key kind now).2 = L.purge now := by
  by_cases hfull : L.Full key now
  · rw [admitCall_full hfull]
  · by_cases hretry : startRetry ((L.purge now).row key kind) now = 0
    · obtain ⟨clients, hcall, -⟩ := admitCall_start hfull hretry
      exact absurd (by rw [hcall]) hrefused
    · rw [admitCall_wait hretry]

theorem admitCall_purge (h : now ≤ later) (key : Caller) (kind : CeremonyKind) :
    (L.purge now).admitCall key kind later = L.admitCall key kind later := by
  unfold admitCall
  rw [purge_purge h]

/-- **When a call is let in.** -/
theorem admitCall_eq_ok_iff (h : ¬L.Full key now) : (L.admitCall key kind now).1 = .ok ↔
    startRetry ((L.purge now).row key kind) now = 0 := by
  constructor
  · intro hok
    by_contra hretry
    rw [admitCall_wait hretry] at hok
    cases hok
  · intro hretry
    obtain ⟨clients, hcall, -⟩ := admitCall_start h hretry
    rw [hcall]

/-- **What a call is told to wait for its own starts is exact.** -/
theorem retry_of_windows {retry : Nat} (hpast : ∀ start ∈ L.row key kind, start ≤ now)
    (hsize : Table.size L.clients ≤ MAX_CLIENTS) (hopen : ¬L.Full key now)
    (hrefused : (L.admitCall key kind now).1 = .err retry) (h : now ≤ later) :
    (L.admitCall key kind later).1 = .ok ↔ now + retry ≤ later := by
  have hwait : startRetry ((L.purge now).row key kind) now ≠ 0 := by
    intro hretry
    rw [(admitCall_eq_ok_iff hopen).mpr hretry] at hrefused
    cases hrefused
  rw [admitCall_wait hwait] at hrefused
  obtain rfl := Verdict.err.inj hrefused
  have hpositive := hwait
  -- the caller is in the table, and makes room for itself if it leaves
  obtain ⟨starts, hlookup⟩ : ∃ starts, (L.purge now).clients.lookup key = some starts := by
    refine Option.ne_none_iff_exists'.mp fun hnone => hwait ?_
    rw [row_eq_nil hnone]
    rfl
  have hopen_later : ¬L.Full key later := by
    rintro ⟨hgone, hfull⟩
    rw [← purge_purge h] at hgone hfull
    have hheld : (starts.purge later).isHeld = false := by
      rw [lookup_purge, hlookup, Option.map_some, Option.filter_eq_none_iff] at hgone
      simpa using hgone _ rfl
    have hless := size_purge_lt hlookup hheld
    have hle : Table.size (L.purge now).clients ≤ Table.size L.clients := size_purge_le
    omega
  rw [admitCall_eq_ok_iff hopen_later, row_purge, startRetry_later hpast h, ← row_purge]
  omega

/-! ## 6. A place in the table -/

end BeginLimiter

/-- A queue keeps something exactly if its newest start counts. -/
theorem dropWhile_expired_ne_nil_iff (hsorted : starts.Pairwise (· ≤ ·)) :
    starts.dropWhile (Starts.expired now) ≠ [] ↔
      ∃ last, starts.getLast? = some last ∧ Starts.expired now last = false := by
  rw [Ne, List.dropWhile_eq_nil_iff]
  rcases List.eq_nil_or_concat starts with rfl | ⟨front, last, rfl⟩
  · simp
  · rw [List.concat_eq_append] at hsorted ⊢
    simp only [List.getLast?_concat, Option.some.injEq, exists_eq_left', ← Bool.not_eq_true]
    refine not_congr ⟨fun h => h last (by simp), fun hlast start hstart => ?_⟩
    have hle : start ≤ last := by
      rcases List.mem_append.mp hstart with hstart | hstart
      · exact (List.pairwise_append.mp hsorted).2.2 start hstart last List.mem_cons_self
      · exact Nat.le_of_eq (List.mem_singleton.mp hstart)
    simp only [Starts.expired, decide_eq_true_eq] at hlast ⊢
    omega

/-- **A caller stays in the table as long as its newest start counts.** -/
theorem isHeld_purge_iff {starts : Starts} (hsorted : ∀ kind, (starts kind).Pairwise (· ≤ ·)) :
    (starts.purge now).isHeld = true ↔
      ∃ last, starts.last = some last ∧ now < last + CHALLENGE_WINDOW := by
  have hexpired (last : Nat) : Starts.expired now last = false ↔ now < last + CHALLENGE_WINDOW := by
    have hpositive : 0 < CHALLENGE_WINDOW := by decide
    rw [Starts.expired, decide_eq_false_iff_not]
    omega
  have hkind (kind : CeremonyKind) : (starts.purge now) kind ≠ [] ↔
      ∃ last, (starts kind).getLast? = some last ∧ now < last + CHALLENGE_WINDOW := by
    simp only [← hexpired]
    exact dropWhile_expired_ne_nil_iff (hsorted kind)
  have hkinds : (∃ kind, (starts.purge now) kind ≠ []) ↔
      (starts.purge now) .registration ≠ [] ∨ (starts.purge now) .authentication ≠ [] := by
    rw [← isHeld_iff, Starts.isHeld]
    simp
  rw [isHeld_iff, hkinds, hkind, hkind, Starts.last]
  cases hfirst : (starts .registration).getLast? with
  | none => cases hsecond : (starts .authentication).getLast? <;> simp [hfirst, hsecond, List.max?]
  | some first =>
    cases hsecond : (starts .authentication).getLast? with
    | none => simp [hfirst, hsecond, List.max?]
    | some second =>
      simp only [List.filterMap_cons, hfirst, hsecond, List.filterMap_nil, List.max?_cons',
        List.foldl_cons, List.foldl_nil, Option.some.injEq, exists_eq_left']
      omega

namespace BeginLimiter

/-- The queues are in order, and no start is yet to come. -/
def Timely (L : BeginLimiter) (now : Nat) : Prop :=
  ∀ key kind, (L.row key kind).Pairwise (· ≤ ·) ∧ ∀ start ∈ L.row key kind, start ≤ now

/-- The newest starts of a caller in the purged table. -/
theorem exists_last (htimely : L.Timely now) {starts : Starts}
    (hlookup : (L.purge now).clients.lookup key = some starts) :
    (∀ kind, (starts kind).Pairwise (· ≤ ·)) ∧
      ∃ last, starts.last = some last ∧ last ≤ now ∧ now < last + CHALLENGE_WINDOW := by
  rw [lookup_purge, Option.filter_eq_some_iff, Option.map_eq_some_iff] at hlookup
  obtain ⟨⟨held, hheld, rfl⟩, hkept⟩ := hlookup
  have hrow (kind : CeremonyKind) : L.row key kind = held kind := by
    rw [row, hheld, Option.getD_some]
  have hsorted (kind : CeremonyKind) : ((held.purge now) kind).Pairwise (· ≤ ·) :=
    (hrow kind ▸ (htimely key kind).1).sublist (List.dropWhile_sublist _)
  refine ⟨hsorted, ?_⟩
  have hagain : ((held.purge now).purge now).isHeld = true := by
    rwa [purge_starts_purge (Nat.le_refl now)]
  obtain ⟨last, hlast, hfresh⟩ := (isHeld_purge_iff hsorted).mp hagain
  refine ⟨last, hlast, ?_, hfresh⟩
  obtain ⟨kind, -, hkind⟩ := List.mem_filterMap.mp (List.max?_mem hlast)
  have hmem : last ∈ L.row key kind := by
    rw [hrow]
    exact (List.dropWhile_sublist _).subset (List.mem_of_getLast? hkind)
  exact (htimely key kind).2 last hmem

theorem slotRetry_eq_some {retry : Nat}
    (h : (L.purge now).slotRetry now = some retry) :
    (∃ key starts last, (L.purge now).clients.lookup key = some starts ∧
      starts.last = some last ∧ retry = CHALLENGE_WINDOW - (now - last)) ∧
    ∀ key starts last, (L.purge now).clients.lookup key = some starts →
      starts.last = some last → retry ≤ CHALLENGE_WINDOW - (now - last) := by
  obtain ⟨hmem, hleast⟩ := List.min?_eq_some_iff.mp h
  constructor
  · obtain ⟨row, hrow, hretry⟩ := List.mem_filterMap.mp hmem
    obtain ⟨last, hlast, rfl⟩ := Option.map_eq_some_iff.mp hretry
    exact ⟨row.1, row.2, last, Table.mem_entries_iff.mp hrow, hlast, rfl⟩
  · intro key starts last hlookup hlast
    refine hleast _ (List.mem_filterMap.mpr ⟨⟨key, starts⟩, Table.mem_entries_iff.mpr hlookup, ?_⟩)
    rw [hlast, Option.map_some]

/-- A full table has starts. -/
theorem slotRetry_ne_none (htimely : L.Timely now) (hfull : L.Full key now) :
    (L.purge now).slotRetry now ≠ none := by
  intro hnone
  have hempty := List.min?_eq_none_iff.mp hnone
  cases hentries : (L.purge now).clients.entries with
  | nil =>
    have hsize := hfull.2
    rw [Table.size, hentries] at hsize
    exact absurd hsize (by decide)
  | cons row rows =>
    have hrow : row ∈ (L.purge now).clients.entries := by simp [hentries]
    obtain ⟨-, last, hlast, -⟩ := exists_last htimely (Table.mem_entries_iff.mp hrow)
    rw [List.filterMap_eq_nil_iff] at hempty
    simpa [hlast] using hempty row hrow

/-- **What a call is told to wait for a place in the table is exact.** -/
theorem retry_of_table {retry : Nat} (htimely : L.Timely now)
    (hsize : Table.size L.clients ≤ MAX_CLIENTS) (hfull : L.Full key now)
    (hrefused : (L.admitCall key kind now).1 = .err retry) (h : now ≤ later) :
    (L.admitCall key kind later).1 = .ok ↔ now + retry ≤ later := by
  have hslot : (L.purge now).slotRetry now = some retry := by
    rw [admitCall_full hfull] at hrefused
    cases hslot : (L.purge now).slotRetry now with
    | none =>
      rw [hslot] at hrefused
      cases hrefused
    | some slot =>
      rw [hslot] at hrefused
      exact congrArg some (Verdict.err.inj hrefused)
  obtain ⟨⟨first, starts, last, hfirst, hlast, rfl⟩, hleast⟩ := slotRetry_eq_some hslot
  have hgone : (L.purge later).clients.lookup key = none := by
    rw [← purge_purge h]
    exact lookup_purge_of_none hfull.1
  constructor
  · intro hok
    by_contra hearly
    -- everyone is still there, and the table as full as before
    have hkept : Table.size (L.purge later).clients = Table.size (L.purge now).clients := by
      rw [← purge_purge h]
      refine size_purge_eq fun key starts hlookup => ?_
      obtain ⟨hsorted, last, hlast, hpast, -⟩ := exists_last htimely hlookup
      have hleast := hleast key starts last hlookup hlast
      exact (isHeld_purge_iff hsorted).mpr ⟨last, hlast, by omega⟩
    rw [admitCall_full ⟨hgone, hkept ▸ hfull.2⟩] at hok
    dsimp only at hok
    split at hok <;> cases hok
  · intro hlate
    obtain ⟨hsorted, newest, hnewest, hpast, -⟩ := exists_last htimely hfirst
    obtain rfl : last = newest := Option.some.inj (hlast.symm.trans hnewest)
    have hleft : (starts.purge later).isHeld = false := by
      rw [← Bool.not_eq_true, isHeld_purge_iff hsorted]
      rintro ⟨other, hother, hfresh⟩
      obtain rfl : last = other := Option.some.inj (hlast.symm.trans hother)
      omega
    have hless := size_purge_lt hfirst hleft
    rw [purge_purge h] at hless
    have hle : Table.size (L.purge now).clients ≤ Table.size L.clients := size_purge_le
    have hopen : ¬L.Full key later := fun hfull => by
      have := hfull.2
      omega
    rw [admitCall_eq_ok_iff hopen, row_eq_nil hgone]
    rfl

end BeginLimiter

end

/-! ## 7. The invariant -/

namespace LimiterState

variable {s : LimiterState} {key : Caller} {kind : CeremonyKind} {now : Nat}

/-- The table holds of what was admitted the starts that count, and these are few. -/
structure Inv (s : LimiterState) : Prop where
  sorted : ∀ key kind, (s.starts key kind).Pairwise (· ≤ ·)
  past : ∀ key kind, ∀ start ∈ s.starts key kind, start ≤ s.clock
  rows : ∀ key kind, s.limiter.row key kind =
    (s.starts key kind).dropWhile (Starts.expired s.clock)
  tracked : Table.size s.limiter.clients ≤ MAX_CLIENTS
  short : ∀ key kind t, (s.starts key kind).countP (young SHORT_WINDOW t) ≤ MAX_SHORT_BEGINS
  pending : ∀ key kind t,
    (s.starts key kind).countP (young CHALLENGE_WINDOW t) ≤ MAX_PENDING_STARTS

namespace Inv

theorem row_purge (hinv : s.Inv) (h : s.clock ≤ now) (key : Caller) (kind : CeremonyKind) :
    (s.limiter.purge now).row key kind = (s.starts key kind).dropWhile (Starts.expired now) := by
  rw [BeginLimiter.row_purge, hinv.rows, dropWhile_expired_dropWhile h]

theorem timely (hinv : s.Inv) (h : s.clock ≤ now) : s.limiter.Timely now := by
  intro key kind
  have hsub : (s.limiter.row key kind).Sublist (s.starts key kind) := by
    rw [hinv.rows]
    exact List.dropWhile_sublist _
  exact ⟨(hinv.sorted key kind).sublist hsub,
    fun start hstart => (hinv.past key kind start (hsub.subset hstart)).trans h⟩

theorem startRetry_eq_zero_iff (hinv : s.Inv) (h : s.clock ≤ now) (key : Caller)
    (kind : CeremonyKind) :
    BeginLimiter.startRetry ((s.limiter.purge now).row key kind) now = 0 ↔
      (s.starts key kind).countP (young SHORT_WINDOW now) < MAX_SHORT_BEGINS ∧
        (s.starts key kind).countP (young CHALLENGE_WINDOW now) < MAX_PENDING_STARTS := by
  rw [hinv.row_purge h]
  exact PasskeyLimits.startRetry_eq_zero_iff (hinv.sorted key kind)
    fun start hstart => (hinv.past key kind start hstart).trans h

end Inv

theorem start_inv : start.Inv where
  sorted _ _ := List.Pairwise.nil
  past _ _ start hstart := by cases hstart
  rows _ _ := rfl
  tracked := Nat.zero_le _
  short _ _ _ := Nat.zero_le _
  pending _ _ _ := Nat.zero_le _

theorem starts_append (key' : Caller) (kind' : CeremonyKind) :
    starts { s with history := s.history ++ [(key, kind, now)] } key' kind' =
      if key' = key ∧ kind' = kind then s.starts key' kind' ++ [now] else s.starts key' kind' := by
  by_cases h : key' = key ∧ kind' = kind
  · obtain ⟨rfl, rfl⟩ := h
    simp [starts]
  · have hother : ¬(key = key' ∧ kind = kind') := fun heq => h ⟨heq.1.symm, heq.2.symm⟩
    simp [starts, h, hother]

/-- A call that is refused. -/
theorem inv_purge (hinv : s.Inv) (h : s.clock ≤ now) :
    Inv { s with limiter := s.limiter.purge now, clock := now } where
  sorted := hinv.sorted
  past key kind start hstart := (hinv.past key kind start hstart).trans h
  rows := hinv.row_purge h
  tracked := BeginLimiter.size_purge_le.trans hinv.tracked
  short := hinv.short
  pending := hinv.pending

/-- A call that is let in. -/
theorem inv_append {clients : Table Caller Starts} (hinv : s.Inv) (h : s.clock ≤ now)
    (hretry : BeginLimiter.startRetry ((s.limiter.purge now).row key kind) now = 0)
    (hsize : Table.size clients ≤ max (Table.size (s.limiter.purge now).clients) MAX_CLIENTS)
    (hlookup : ∀ other, clients.lookup other = if other = key then
      some (Function.update ((s.limiter.purge now).row key) kind
        ((s.limiter.purge now).row key kind ++ [now]))
      else (s.limiter.purge now).clients.lookup other) :
    Inv ⟨⟨clients⟩, s.history ++ [(key, kind, now)], now⟩ := by
  obtain ⟨hshort, hpending⟩ := (hinv.startRetry_eq_zero_iff h key kind).mp hretry
  have hstarts (key' : Caller) (kind' : CeremonyKind) :
      starts ⟨⟨clients⟩, s.history ++ [(key, kind, now)], now⟩ key' kind' =
        if key' = key ∧ kind' = kind then s.starts key' kind' ++ [now] else s.starts key' kind' :=
    starts_append key' kind'
  have hpast (key' : Caller) (kind' : CeremonyKind) : ∀ start ∈ s.starts key' kind', start ≤ now :=
    fun start hstart => (hinv.past key' kind' start hstart).trans h
  constructor
  · intro key' kind'
    rw [hstarts]
    split_ifs with hsame
    · refine List.pairwise_append.mpr ⟨hinv.sorted key' kind', List.pairwise_singleton _ _, ?_⟩
      rintro start hstart _ (_ | ⟨_, ⟨⟩⟩)
      exact hpast key' kind' start hstart
    · exact hinv.sorted key' kind'
  · intro key' kind' start hstart
    rw [hstarts] at hstart
    split_ifs at hstart with hsame
    · rcases List.mem_append.mp hstart with hstart | hstart
      · exact hpast key' kind' start hstart
      · exact Nat.le_of_eq (List.mem_singleton.mp hstart)
    · exact hpast key' kind' start hstart
  · intro key' kind'
    have hfresh : Starts.expired now now = false := by
      simp [Starts.expired, CHALLENGE_WINDOW]
    rw [hstarts, BeginLimiter.row, hlookup]
    by_cases hkey : key' = key
    · subst hkey
      rw [if_pos rfl, Option.getD_some]
      by_cases hkind : kind' = kind
      · subst hkind
        rw [Function.update_self, if_pos ⟨rfl, rfl⟩, hinv.row_purge h, List.dropWhile_append]
        split_ifs with hempty
        · rw [List.isEmpty_iff.mp hempty, List.dropWhile_cons_of_neg (by simp [hfresh])]
          rfl
        · rfl
      · rw [Function.update_of_ne hkind, if_neg fun heq => hkind heq.2, hinv.row_purge h]
    · rw [if_neg hkey, if_neg fun heq => hkey heq.1]
      exact hinv.row_purge h key' kind'
  · have := hinv.tracked
    have : Table.size (s.limiter.purge now).clients ≤ Table.size s.limiter.clients :=
      BeginLimiter.size_purge_le
    exact hsize.trans (by omega)
  · intro key' kind' t
    rw [hstarts]
    split_ifs with hsame
    · obtain ⟨rfl, rfl⟩ := hsame
      exact SlidingWindow.countP_young_append_le (hpast _ _) hshort (hinv.short _ _) t
    · exact hinv.short key' kind' t
  · intro key' kind' t
    rw [hstarts]
    split_ifs with hsame
    · obtain ⟨rfl, rfl⟩ := hsame
      exact SlidingWindow.countP_young_append_le (hpast _ _) hpending (hinv.pending _ _) t
    · exact hinv.pending key' kind' t

/-- One call keeps the invariant. -/
theorem inv_step {s' : LimiterState} {call : BeginCall} (hinv : s.Inv)
    (hstep : s.step call = some s') : s'.Inv := by
  obtain ⟨hclock, hnext⟩ := Option.ite_none_right_eq_some.mp hstep
  rw [← Option.some.inj hnext]
  by_cases hok : (s.limiter.admitCall (callerKey call.root call.peer) call.kind call.now).1 = .ok
  · have hopen : ¬s.limiter.Full (callerKey call.root call.peer) call.now := by
      intro hfull
      rw [BeginLimiter.admitCall_full hfull] at hok
      dsimp only at hok
      split at hok <;> cases hok
    have hretry := (BeginLimiter.admitCall_eq_ok_iff hopen).mp hok
    obtain ⟨clients, hcall, hsize, hlookup⟩ := BeginLimiter.admitCall_start hopen hretry
    simp only [hcall, if_true]
    exact inv_append hinv hclock hretry hsize hlookup
  · simp only [hok, if_false, BeginLimiter.admitCall_refused hok]
    exact inv_purge hinv hclock

theorem inv_run {calls : List BeginCall} (hrun : Transition.run step start calls = some s) :
    s.Inv := by
  have hreached : Transition.Reachable step (· = start) s := ⟨start, calls, rfl, hrun⟩
  refine hreached.invariant ?_ fun _ _ _ hinv hstep => inv_step hinv hstep
  rintro _ rfl
  exact start_inv

end LimiterState

/-! ## 8. The limits -/

/-- **What the limiter promises.**  Of no caller and kind are more starts admitted in a window than
it allows, and the table, which stays within its bound, holds exactly the starts that count.  Of
one more call, then: it is decided by the caller's own starts unless the table is full; if it is
refused, no answer to anyone changes; and it would be let in from the time it is told on, and no
earlier. -/
theorem begin_limits {calls : List BeginCall} {s : LimiterState}
    (hrun : Transition.run LimiterState.step .start calls = some s) :
    (∀ key kind t, (s.starts key kind).countP (young SHORT_WINDOW t) ≤ MAX_SHORT_BEGINS ∧
      (s.starts key kind).countP (young CHALLENGE_WINDOW t) ≤ MAX_PENDING_STARTS) ∧
    Table.size s.limiter.clients ≤ MAX_CLIENTS ∧
    (∀ key kind, s.limiter.row key kind =
      (s.starts key kind).filter (young CHALLENGE_WINDOW s.clock)) ∧
    ∀ root peer kind now, s.clock ≤ now →
      let key := callerKey root peer
      let answer := s.limiter.admitCall key kind now
      answer.1 ≠ .unretained ∧
      (¬s.limiter.Full key now → (answer.1 = .ok ↔
        (s.starts key kind).countP (young SHORT_WINDOW now) < MAX_SHORT_BEGINS ∧
          (s.starts key kind).countP (young CHALLENGE_WINDOW now) < MAX_PENDING_STARTS)) ∧
      (answer.1 ≠ .ok → ∀ other kind later, now ≤ later →
        answer.2.admitCall other kind later = s.limiter.admitCall other kind later) ∧
      ∀ retry, answer.1 = .err retry → ∀ later, now ≤ later →
        ((answer.2.admitCall key kind later).1 = .ok ↔ now + retry ≤ later) := by
  have hinv := LimiterState.inv_run hrun
  refine ⟨fun key kind t => ⟨hinv.short key kind t, hinv.pending key kind t⟩, hinv.tracked,
    fun key kind => ?_, fun root peer kind now hclock => ?_⟩
  · rw [hinv.rows, dropWhile_expired_eq_filter (hinv.sorted key kind) (hinv.past key kind)]
  have htimely := hinv.timely hclock
  have hkeeps : (s.limiter.admitCall (callerKey root peer) kind now).1 ≠ .ok →
      ∀ other kind' later, now ≤ later →
        (s.limiter.admitCall (callerKey root peer) kind now).2.admitCall other kind' later =
          s.limiter.admitCall other kind' later := by
    intro hrefused other kind' later h
    rw [BeginLimiter.admitCall_refused hrefused, BeginLimiter.admitCall_purge h]
  refine ⟨?_, fun hopen => ?_, hkeeps, fun retry hretry later h => ?_⟩
  · by_cases hfull : s.limiter.Full (callerKey root peer) now
    · obtain ⟨retry, hslot⟩ := Option.ne_none_iff_exists'.mp
        (BeginLimiter.slotRetry_ne_none htimely hfull)
      rw [BeginLimiter.admitCall_full hfull, hslot]
      exact Verdict.noConfusion
    · by_cases hretry : BeginLimiter.startRetry
          ((s.limiter.purge now).row (callerKey root peer) kind) now = 0
      · rw [(BeginLimiter.admitCall_eq_ok_iff hfull).mpr hretry]
        exact Verdict.noConfusion
      · rw [BeginLimiter.admitCall_wait hretry]
        exact Verdict.noConfusion
  · rw [BeginLimiter.admitCall_eq_ok_iff hopen, hinv.startRetry_eq_zero_iff hclock]
  · have hrefused : (s.limiter.admitCall (callerKey root peer) kind now).1 ≠ .ok := by
      rw [hretry]
      exact Verdict.noConfusion
    rw [hkeeps hrefused _ _ _ h]
    by_cases hfull : s.limiter.Full (callerKey root peer) now
    · exact BeginLimiter.retry_of_table htimely hinv.tracked hfull hretry h
    · exact BeginLimiter.retry_of_windows (htimely _ _).2 hinv.tracked hfull hretry h

namespace Sample

def signUps : List BeginCall :=
  (List.range 4).map fun second => ⟨["home"], some (.v4 7), .registration, second * 1000000000⟩

def afterSignUps : LimiterState := (Transition.run LimiterState.step .start signUps).getD .start

def peer : Caller := callerKey ["home"] (some (.v6 0xffff00000007))

/-- A fifth sign-up after four seconds, now over IPv6, has to wait until the first one is a minute
old. -/
theorem fifth_sign_up :
    let refused := afterSignUps.limiter.admitCall peer .registration 4000000000
    refused.1 = .err 56000000000 ∧
      (refused.2.admitCall peer .registration 59999999999).1 ≠ .ok ∧
      (refused.2.admitCall peer .registration 60000000000).1 = .ok := by
  have hrun : Transition.run LimiterState.step .start signUps = some afterSignUps := rfl
  have hretry := ((begin_limits hrun).2.2.2 ["home"] (some (.v6 0xffff00000007)) .registration
    4000000000 (by decide)).2.2.2 56000000000 rfl
  refine ⟨rfl, fun hok => ?_, (hretry 60000000000 (by decide)).mpr (by decide)⟩
  exact absurd ((hretry 59999999999 (by decide)).mp hok) (by decide)

end Sample

end ElastosRuntime.PasskeyLimits
