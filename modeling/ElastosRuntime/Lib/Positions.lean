/-
# Removing the elements at chosen positions

A loop that walks a queue often remembers positions first and removes them afterwards, the last one
first so that the others stay where they are.  `without picked i l` is what remains of `l`, whose
elements are counted from `i`, when the positions of `picked` are gone.

* `foldl_eraseIdx` says that the loop computes it.
* `without_pick` says what one more position takes away, and what lies behind it.
-/
import Mathlib.Data.List.Basic
import Mathlib.Data.List.Sort

namespace Positions

variable {α : Type}

/-- The elements whose position, counted from `i`, has not been picked. -/
def without (picked : List Nat) : Nat → List α → List α
  | _, [] => []
  | i, a :: as =>
    if i ∈ picked then without picked (i + 1) as else a :: without picked (i + 1) as

@[simp] theorem without_nil (picked : List Nat) (i : Nat) :
    without picked i ([] : List α) = [] := rfl

variable {picked : List Nat}

theorem without_of_forall : ∀ {i : Nat} {l : List α},
    (∀ j ∈ picked, j < i ∨ i + l.length ≤ j) → without picked i l = l
  | _, [], _ => rfl
  | i, a :: as, h => by
    have hi : i ∉ picked := by
      intro hi
      have hlen := h i hi
      simp only [List.length_cons] at hlen
      omega
    have has : ∀ j ∈ picked, j < i + 1 ∨ i + 1 + as.length ≤ j := by
      intro j hj
      have hlen := h j hj
      simp only [List.length_cons] at hlen
      omega
    rw [without, if_neg hi, without_of_forall has]

@[simp] theorem without_nil_picked (i : Nat) (l : List α) : without [] i l = l :=
  without_of_forall fun _ hj => by cases hj

theorem without_append {m : List α} : ∀ {i : Nat} {l : List α},
    without picked i (l ++ m) = without picked i l ++ without picked (i + l.length) m
  | _, [] => rfl
  | i, a :: as => by
    have hlen : i + (a :: as).length = i + 1 + as.length := by
      simp only [List.length_cons]
      omega
    rw [List.cons_append, without, without, without_append, hlen]
    split <;> rfl

theorem without_congr {picked' : List Nat} : ∀ {i : Nat} {l : List α},
    (∀ j, i ≤ j → j < i + l.length → (j ∈ picked ↔ j ∈ picked')) →
      without picked i l = without picked' i l
  | _, [], _ => rfl
  | i, a :: as, h => by
    have has : without picked (i + 1) as = without picked' (i + 1) as := by
      refine without_congr fun j hj hlt => h j (by omega) ?_
      simp only [List.length_cons]
      omega
    have hi : i ∈ picked ↔ i ∈ picked' := h i (Nat.le_refl i) (by simp)
    simp only [without, hi, has]

/-- What remains was there, at a position that has not been picked. -/
theorem mem_without {a : α} : ∀ {i : Nat} {l : List α},
    a ∈ without picked i l → ∃ j, i ≤ j ∧ j ∉ picked ∧ l[j - i]? = some a
  | _, [], h => by cases h
  | i, b :: bs, h => by
    have hrest : a ∈ without picked (i + 1) bs →
        ∃ j, i ≤ j ∧ j ∉ picked ∧ (b :: bs)[j - i]? = some a := by
      intro hmem
      obtain ⟨j, hj, hfree, hget⟩ := mem_without hmem
      refine ⟨j, by omega, hfree, ?_⟩
      rw [show j - i = j - (i + 1) + 1 by omega]
      exact hget
    rw [without] at h
    split at h
    · exact hrest h
    · next hfree =>
      rcases List.mem_cons.mp h with rfl | hmem
      · exact ⟨i, Nat.le_refl i, hfree, by simp⟩
      · exact hrest hmem

/-- **One position more**: the element is gone, and what lies behind it was behind it before. -/
theorem without_pick {l : List α} {j : Nat} {a : α} (hfree : j ∉ picked) (hget : l[j]? = some a) :
    ∃ before after, without picked 0 l = before ++ a :: after ∧
      without (picked ++ [j]) 0 l = before ++ after ∧
      ∀ b ∈ after, ∃ k, j < k ∧ k ∉ picked ∧ l[k]? = some b := by
  obtain ⟨hlt, rfl⟩ := List.getElem?_eq_some_iff.mp hget
  have hlen : (l.take j).length = j := List.length_take_of_le hlt.le
  have hsplit : l = l.take j ++ l[j] :: l.drop (j + 1) := by
    rw [← List.drop_eq_getElem_cons hlt, List.take_append_drop]
  -- the new position changes nothing before it and nothing behind it
  have hbefore : without (picked ++ [j]) 0 (l.take j) = without picked 0 (l.take j) := by
    refine without_congr fun k _ hk => ?_
    rw [hlen] at hk
    rw [List.mem_append, List.mem_singleton]
    exact or_iff_left (by omega)
  have hafter : without (picked ++ [j]) (j + 1) (l.drop (j + 1)) =
      without picked (j + 1) (l.drop (j + 1)) := by
    refine without_congr fun k hk _ => ?_
    rw [List.mem_append, List.mem_singleton]
    exact or_iff_left (by omega)
  refine ⟨without picked 0 (l.take j), without picked (j + 1) (l.drop (j + 1)), ?_, ?_, ?_⟩
  · conv_lhs => rw [hsplit]
    rw [without_append, hlen, Nat.zero_add, without, if_neg hfree]
  · conv_lhs => rw [hsplit]
    rw [without_append, hlen, Nat.zero_add, without, if_pos (by simp), hbefore, hafter]
  · intro b hb
    obtain ⟨k, hk, hkfree, hkget⟩ := mem_without hb
    refine ⟨k, hk, hkfree, ?_⟩
    rw [List.getElem?_drop, show j + 1 + (k - (j + 1)) = k by omega] at hkget
    exact hkget

/-- Removing the last position first leaves the others where they are. -/
theorem without_eraseIdx : ∀ {l : List α} {s i : Nat},
    (∀ j ∈ picked, j < s + i) →
      without picked s (l.eraseIdx i) = without ((s + i) :: picked) s l
  | [], _, _, _ => by rw [List.eraseIdx_nil, without_nil, without_nil]
  | a :: as, s, 0, h => by
    have hpicked : without picked s as = as :=
      without_of_forall fun j hj => .inl (h j hj)
    have hmore : without (s :: picked) (s + 1) as = as := by
      refine without_of_forall fun j hj => .inl ?_
      rcases List.mem_cons.mp hj with rfl | hj
      · omega
      · have := h j hj
        omega
    rw [List.eraseIdx_cons_zero, Nat.add_zero, without, if_pos List.mem_cons_self, hpicked, hmore]
  | a :: as, s, i + 1, h => by
    have hrest := without_eraseIdx (l := as) (s := s + 1) (i := i) fun j hj => by
      have := h j hj
      omega
    have hmem : s ∈ (s + (i + 1)) :: picked ↔ s ∈ picked := by
      rw [List.mem_cons]
      exact or_iff_right (by omega)
    rw [List.eraseIdx_cons_succ, without, without, hrest, show s + 1 + i = s + (i + 1) by omega]
    simp only [hmem]

/-- **The loop**: positions are removed one by one, from the last to the first. -/
theorem foldl_eraseIdx : ∀ {picked : List Nat} {l : List α},
    picked.Pairwise (fun i j => j < i) → picked.foldl List.eraseIdx l = without picked 0 l
  | [], l, _ => (without_nil_picked 0 l).symm
  | i :: picked, l, h => by
    obtain ⟨hi, hpicked⟩ := List.pairwise_cons.mp h
    rw [List.foldl_cons, foldl_eraseIdx hpicked, without_eraseIdx (by simpa using hi), Nat.zero_add]

end Positions
