/-
# Sliding windows over a queue of times

A queue holds the times of what was let in, oldest first.  At most `n` of them may lie in a window
of some length, and `wait` says how long the next one has to wait for that: until the `n`th time
from the end leaves the window.

* The wait is over exactly when fewer than `n` times are in the window (`wait_eq_zero_iff`).
* It runs down with the clock (`wait_later`), whether or not old times are dropped meanwhile
  (`wait_dropWhile`).
* Letting one more in then leaves at most `n` in every window (`countP_young_append_le`).
-/
import Mathlib.Algebra.Order.Ring.Nat
import Mathlib.Data.List.TakeWhile
import Mathlib.Data.List.Basic

namespace SlidingWindow

/-- A time lies in the window that ends now. -/
def young (length now time : Nat) : Bool := time ≤ now ∧ now < time + length

/-- How long it takes for the `n`th time from the end to leave the window. -/
def wait (n length : Nat) (times : List Nat) (now : Nat) : Nat :=
  match times.reverse[n - 1]? with
  | some time => length - (now - time)
  | none => 0

variable {n length now later : Nat} {times : List Nat}

theorem young_iff {time : Nat} : young length now time = true ↔ time ≤ now ∧ now < time + length :=
  decide_eq_true_iff

/-- The wait runs down with the clock. -/
theorem wait_later (hpast : ∀ time ∈ times, time ≤ now) (h : now ≤ later) :
    wait n length times later = wait n length times now - (later - now) := by
  unfold wait
  cases htime : times.reverse[n - 1]? with
  | none => exact (Nat.zero_sub _).symm
  | some time =>
    have hold : time ≤ now := hpast time (List.mem_reverse.mp (List.mem_of_getElem? htime))
    dsimp only
    omega

/-- Times that have left the window may be dropped. -/
theorem wait_dropWhile {old : Nat → Bool} (hold : ∀ time, old time = true → length ≤ now - time) :
    wait n length (times.dropWhile old) now = wait n length times now := by
  have hsplit : times.reverse = (times.dropWhile old).reverse ++ (times.takeWhile old).reverse := by
    rw [← List.reverse_append, List.takeWhile_append_dropWhile]
  unfold wait
  rw [hsplit, List.getElem?_append]
  split_ifs with hkept
  · rfl
  · rw [List.getElem?_eq_none (Nat.le_of_not_lt hkept)]
    cases htime : (times.takeWhile old).reverse[n - 1 - (times.dropWhile old).reverse.length]? with
    | none => rfl
    | some time =>
      have hmem := List.mem_reverse.mp (List.mem_of_getElem? htime)
      exact (Nat.sub_eq_zero_of_le (hold time (List.mem_takeWhile_imp hmem))).symm

/-- The `k`th newest time is in the window if and only if more than `k` are. -/
theorem young_getElem?_iff : ∀ {newest : List Nat} {k : Nat}, newest.Pairwise (· ≥ ·) →
    (∀ time ∈ newest, time ≤ now) →
      ((∃ time, newest[k]? = some time ∧ young length now time = true) ↔
        k < newest.countP (young length now))
  | [], k, _, _ => by simp
  | time :: rest, k, hsorted, hpast => by
    obtain ⟨hfirst, hrest⟩ := List.pairwise_cons.mp hsorted
    have hpast_rest : ∀ older ∈ rest, older ≤ now := fun older holder =>
      hpast older (List.mem_cons_of_mem _ holder)
    rw [List.countP_cons]
    by_cases htime : young length now time = true
    · rw [if_pos htime]
      cases k with
      | zero => simp [htime]
      | succ k =>
        rw [List.getElem?_cons_succ, young_getElem?_iff hrest hpast_rest]
        exact Nat.succ_lt_succ_iff.symm
    · -- then no older one is in the window either
      have holder : ∀ older ∈ time :: rest, ¬young length now older = true := by
        intro older hmem hyoung
        have hle : older ≤ time := by
          rcases List.mem_cons.mp hmem with rfl | hmem
          · exact Nat.le_refl _
          · exact hfirst older hmem
        rw [young_iff] at htime hyoung
        have := hpast time List.mem_cons_self
        omega
      have hnone : rest.countP (young length now) = 0 :=
        List.countP_eq_zero.mpr fun older hmem => holder older (List.mem_cons_of_mem _ hmem)
      rw [if_neg htime, hnone]
      constructor
      · rintro ⟨older, hget, hyoung⟩
        exact absurd hyoung (holder older (List.mem_of_getElem? hget))
      · intro h
        omega

/-- **The wait is over when there is room in the window.** -/
theorem wait_eq_zero_iff (hn : 0 < n) (hsorted : times.Pairwise (· ≤ ·))
    (hpast : ∀ time ∈ times, time ≤ now) :
    wait n length times now = 0 ↔ times.countP (young length now) < n := by
  have hnth : (∃ time, times.reverse[n - 1]? = some time ∧ young length now time = true) ↔
      n - 1 < times.reverse.countP (young length now) :=
    young_getElem?_iff (List.pairwise_reverse.mpr hsorted) fun time htime =>
      hpast time (List.mem_reverse.mp htime)
  rw [List.countP_reverse] at hnth
  have hroom : times.countP (young length now) < n ↔ ¬n - 1 < times.countP (young length now) := by
    omega
  rw [hroom, ← hnth]
  unfold wait
  cases htime : times.reverse[n - 1]? with
  | none => simp
  | some time =>
    have hold : time ≤ now := hpast time (List.mem_reverse.mp (List.mem_of_getElem? htime))
    simp only [Option.some.injEq, exists_eq_left', young_iff]
    omega

/-- **One more time fits into every window**, if there is room in the one that ends now. -/
theorem countP_young_append_le (hpast : ∀ time ∈ times, time ≤ now)
    (hroom : times.countP (young length now) < n)
    (hbound : ∀ t, times.countP (young length t) ≤ n) (t : Nat) :
    (times ++ [now]).countP (young length t) ≤ n := by
  rw [List.countP_append, List.countP_singleton]
  by_cases hin : young length t now = true
  · rw [if_pos hin]
    have hmono : times.countP (young length t) ≤ times.countP (young length now) := by
      refine List.countP_mono_left fun time htime hyoung => ?_
      have hold := hpast time htime
      rw [young_iff] at hin hyoung ⊢
      omega
    omega
  · rw [if_neg hin]
    exact hbound t

end SlidingWindow
