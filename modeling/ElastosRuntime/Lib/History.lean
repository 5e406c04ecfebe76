/-
# Histories, newest first

A list that only grows at its head, read as what has happened so far.  `Justified P` says that every
entry is justified by what had happened before it, and `since q` is the part from the newest entry
that satisfies `q` on.
-/
import Mathlib.Data.List.Basic

namespace History

variable {α : Type} {P Q : α → List α → Prop} {q : α → Bool}

/-! ## 1. What came before justifies every entry -/

def Justified (P : α → List α → Prop) : List α → Prop
  | [] => True
  | e :: older => P e older ∧ Justified P older

variable {e : α} {older newer : List α}

@[simp] theorem justified_cons :
    Justified P (e :: older) ↔ P e older ∧ Justified P older := Iff.rfl

theorem justified_append : Justified P (newer ++ older) ↔
    (∀ n e m, newer = n ++ e :: m → P e (m ++ older)) ∧ Justified P older := by
  induction newer with
  | nil => simp
  | cons a newer ih =>
    rw [List.cons_append, justified_cons, ih]
    constructor
    · rintro ⟨ha, hnewer, holder⟩
      refine ⟨fun n e m h => ?_, holder⟩
      cases n with
      | nil =>
        obtain ⟨rfl, rfl⟩ := List.cons.inj h
        exact ha
      | cons b n => exact hnewer n e m (List.cons.inj h).2
    · rintro ⟨hall, holder⟩
      exact ⟨hall [] a newer rfl, fun n e m h => hall (a :: n) e m (by rw [h]; rfl), holder⟩

/-- **An entry anywhere in a justified history.** -/
theorem Justified.entry {log : List α} (h : Justified P log) (hlog : log = newer ++ e :: older) :
    P e older := by
  subst hlog
  exact (justified_append.mp h).2.1

/-! ## 2. From the newest entry of a kind on -/

def since (q : α → Bool) (log : List α) : List α := log.dropWhile fun e => !q e

theorem since_suffix (q : α → Bool) (log : List α) : since q log <:+ log :=
  List.dropWhile_suffix _

theorem since_cons_of_neg (h : q e = false) : since q (e :: older) = since q older := by
  simp [since, h]

theorem since_cons_of_pos (h : q e = true) : since q (e :: older) = e :: older := by
  simp [since, h]

theorem since_append_of_neg (h : ∀ e ∈ newer, q e = false) :
    since q (newer ++ older) = since q older := by
  induction newer with
  | nil => rfl
  | cons a newer ih =>
    rw [List.cons_append, since_cons_of_neg (h a List.mem_cons_self),
      ih fun e he => h e (List.mem_cons_of_mem a he)]

/-- The part since an entry of the kind is longer than what lies before the entry. -/
theorem length_lt_since (h : q e = true) :
    older.length < (since q (newer ++ e :: older)).length := by
  induction newer with
  | nil => simp [since_cons_of_pos h]
  | cons a newer ih =>
    rw [List.cons_append]
    cases ha : q a with
    | true =>
      rw [since_cons_of_pos ha]
      simp only [List.length_cons, List.length_append]
      omega
    | false => rwa [since_cons_of_neg ha]

/-- **Two entries of a kind with the same past of that kind are the same entry.** -/
theorem eq_of_since_eq {log n₁ o₁ n₂ o₂ : List α} {e₁ e₂ : α} (h₁ : log = n₁ ++ e₁ :: o₁)
    (h₂ : log = n₂ ++ e₂ :: o₂) (hq₁ : q e₁ = true) (hq₂ : q e₂ = true)
    (hsince : since q o₁ = since q o₂) : o₁ = o₂ := by
  have hle : ∀ o : List α, (since q o).length ≤ o.length := fun o => (since_suffix q o).length_le
  have hlt : ∀ {n o m p : List α} {e f : α}, n ++ e :: o = m ++ f :: p → q e = true →
      o.length < p.length → o.length < (since q p).length := by
    intro n o m p e f heq he hop
    have hp : p <:+ n ++ e :: o := by
      rw [heq]
      exact (List.suffix_cons f p).trans (List.suffix_append m (f :: p))
    have hsuffix : e :: o <:+ p :=
      List.suffix_of_suffix_length_le (List.suffix_append n (e :: o)) hp hop
    obtain ⟨mid, rfl⟩ := hsuffix
    exact length_lt_since he
  have hlog := h₁.symm.trans h₂
  rcases Nat.lt_trichotomy o₁.length o₂.length with hlength | hlength | hlength
  · have := hlt hlog hq₁ hlength
    rw [← hsince] at this
    exact absurd (hle o₁) (Nat.not_le.mpr this)
  · have ho₁ : o₁ <:+ log := by
      rw [h₁]
      exact (List.suffix_cons e₁ o₁).trans (List.suffix_append n₁ _)
    have ho₂ : o₂ <:+ log := by
      rw [h₂]
      exact (List.suffix_cons e₂ o₂).trans (List.suffix_append n₂ _)
    exact (List.suffix_of_suffix_length_le ho₁ ho₂ (Nat.le_of_eq hlength)).eq_of_length hlength
  · have := hlt hlog.symm hq₂ hlength
    rw [hsince] at this
    exact absurd (hle o₂) (Nat.not_le.mpr this)

end History
