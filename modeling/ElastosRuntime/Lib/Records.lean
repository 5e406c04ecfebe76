/-
# Records in a list

A store that keeps its records in a list looks one up by walking the list, and changes the first
that it finds in place.  `modifyFirst p f l` is the list after that.

`Unique key l` says that no two records share a key.  Then the record that is found is the only one
of its key, and a change that leaves keys alone replaces that record and nothing else.
-/
import Mathlib.Data.List.Nodup
import Mathlib.Data.List.Perm.Subperm

namespace Records

variable {α κ : Type} {p : α → Bool} {f : α → α} {l : List α}

/-! ## 1. The first that passes a test -/

def modifyFirst (p : α → Bool) (f : α → α) : List α → List α
  | [] => []
  | a :: as => if p a then f a :: as else a :: modifyFirst p f as

variable {a : α}

theorem mem_of_mem_modifyFirst (h : a ∈ modifyFirst p f l) :
    a ∈ l ∨ ∃ b, l.find? p = some b ∧ a = f b := by
  induction l with
  | nil => exact Or.inl h
  | cons b bs ih =>
    rw [modifyFirst] at h
    by_cases hb : p b = true
    · rw [if_pos hb] at h
      rcases List.mem_cons.mp h with rfl | htail
      · exact Or.inr ⟨b, List.find?_cons_of_pos hb, rfl⟩
      · exact Or.inl (List.mem_cons_of_mem b htail)
    · rw [if_neg hb] at h
      rcases List.mem_cons.mp h with rfl | htail
      · exact Or.inl List.mem_cons_self
      · rcases ih htail with hmem | ⟨c, hc, rfl⟩
        · exact Or.inl (List.mem_cons_of_mem b hmem)
        · exact Or.inr ⟨c, (List.find?_cons_of_neg hb).trans hc, rfl⟩

/-- What was found stands changed. -/
theorem mem_modifyFirst (h : l.find? p = some a) : f a ∈ modifyFirst p f l := by
  induction l with
  | nil => cases h
  | cons b bs ih =>
    rw [modifyFirst]
    by_cases hb : p b = true
    · rw [List.find?_cons_of_pos hb, Option.some.injEq] at h
      rw [if_pos hb, h]
      exact List.mem_cons_self
    · rw [List.find?_cons_of_neg hb] at h
      rw [if_neg hb]
      exact List.mem_cons_of_mem b (ih h)

/-- What fails the test stays. -/
theorem mem_modifyFirst_of_neg (hp : p a = false) (h : a ∈ l) : a ∈ modifyFirst p f l := by
  induction l with
  | nil => exact h
  | cons b bs ih =>
    rw [modifyFirst]
    rcases List.mem_cons.mp h with rfl | htail
    · rw [hp]
      exact List.mem_cons_self
    · split
      · exact List.mem_cons_of_mem _ htail
      · exact List.mem_cons_of_mem _ (ih htail)

variable {q : α → Bool}

/-- A finer test finds what was found, if it still passes: nothing in front of it passed. -/
theorem find?_modifyFirst_of_imp (himp : ∀ a, q a = true → p a = true) (h : l.find? p = some a)
    (hq : q (f a) = true) : (modifyFirst p f l).find? q = some (f a) := by
  induction l with
  | nil => cases h
  | cons b bs ih =>
    rw [modifyFirst]
    by_cases hb : p b = true
    · rw [List.find?_cons_of_pos hb, Option.some.injEq] at h
      rw [if_pos hb, h, List.find?_cons_of_pos hq]
    · rw [List.find?_cons_of_neg hb] at h
      rw [if_neg hb, List.find?_cons_of_neg fun hqb => hb (himp b hqb), ih h]

/-- What was found is found again, as it was left. -/
theorem find?_modifyFirst (h : l.find? p = some a) (hp : p (f a) = true) :
    (modifyFirst p f l).find? p = some (f a) := find?_modifyFirst_of_imp (fun _ hp => hp) h hp

/-- A test that passes neither what was found nor what has become of it sees no change. -/
theorem filter_modifyFirst (hq : ∀ a, l.find? p = some a → q a = false ∧ q (f a) = false) :
    (modifyFirst p f l).filter q = l.filter q := by
  induction l with
  | nil => rfl
  | cons b bs ih =>
    rw [modifyFirst]
    by_cases hb : p b = true
    · obtain ⟨hold, hnew⟩ := hq b (List.find?_cons_of_pos hb)
      rw [if_pos hb, List.filter_cons_of_neg (by rw [hnew]; exact Bool.false_ne_true),
        List.filter_cons_of_neg (by rw [hold]; exact Bool.false_ne_true)]
    · have htail := ih fun a ha => hq a ((List.find?_cons_of_neg hb).trans ha)
      rw [if_neg hb, List.filter_cons, List.filter_cons, htail]

theorem find?_modifyFirst_of_neg (hq : ∀ a, l.find? p = some a → q a = false ∧ q (f a) = false) :
    (modifyFirst p f l).find? q = l.find? q := by
  rw [← List.head?_filter, ← List.head?_filter, filter_modifyFirst hq]

/-- A change to all records that a test does not see. -/
theorem filter_map_of_fixed (h : ∀ a, f a = a ∨ (q a = false ∧ q (f a) = false)) :
    (l.map f).filter q = l.filter q := by
  induction l with
  | nil => rfl
  | cons b bs ih =>
    rw [List.map_cons, List.filter_cons, List.filter_cons, ih]
    rcases h b with hsame | ⟨hold, hnew⟩
    · rw [hsame]
    · simp only [hold, hnew, Bool.false_eq_true, if_false]

theorem map_modifyFirst {key : α → κ} (hkey : ∀ a, l.find? p = some a → key (f a) = key a) :
    (modifyFirst p f l).map key = l.map key := by
  induction l with
  | nil => rfl
  | cons b bs ih =>
    rw [modifyFirst]
    by_cases hb : p b = true
    · rw [if_pos hb, List.map_cons, List.map_cons, hkey b (List.find?_cons_of_pos hb)]
    · rw [if_neg hb, List.map_cons, List.map_cons,
        ih fun a ha => hkey a ((List.find?_cons_of_neg hb).trans ha)]

/-! ## 2. Keys that no two share -/

def Unique (key : α → κ) (l : List α) : Prop := (l.map key).Nodup

namespace Unique

variable {key : α → κ}

theorem nil : Unique key ([] : List α) := List.nodup_nil

theorem eq (h : Unique key l) {a b : α} (ha : a ∈ l) (hb : b ∈ l) (hkey : key a = key b) :
    a = b := List.inj_on_of_nodup_map h ha hb hkey

theorem modifyFirst (h : Unique key l) (hkey : ∀ a, l.find? p = some a → key (f a) = key a) :
    Unique key (modifyFirst p f l) := by
  rw [Unique, map_modifyFirst hkey]
  exact h

theorem append_singleton (h : Unique key l) {a : α} (hnew : ∀ b ∈ l, key b ≠ key a) :
    Unique key (l ++ [a]) := by
  rw [Unique, List.map_append, List.map_singleton, List.nodup_append]
  refine ⟨h, List.nodup_singleton _, ?_⟩
  intro k hk k' hk'
  obtain ⟨b, hb, rfl⟩ := List.mem_map.mp hk
  rw [List.mem_singleton.mp hk']
  exact hnew b hb

/-- Of records that came of others by their keys no more are of a kind. -/
theorem countP_le {p q : α → Bool} {before : List α} (h : Unique key l)
    (hfrom : ∀ b ∈ l, p b = true → ∃ a ∈ before, q a = true ∧ key a = key b) :
    l.countP p ≤ before.countP q := by
  have hnodup : ((l.filter p).map key).Nodup := h.sublist (List.filter_sublist.map key)
  have hsub : (l.filter p).map key ⊆ (before.filter q).map key := by
    intro k hk
    obtain ⟨b, hb, rfl⟩ := List.mem_map.mp hk
    obtain ⟨hmem, hp⟩ := List.mem_filter.mp hb
    obtain ⟨a, ha, hq, hkey⟩ := hfrom b hmem hp
    exact List.mem_map.mpr ⟨a, List.mem_filter.mpr ⟨ha, hq⟩, hkey⟩
  have hlength := (List.subperm_of_subset hnodup hsub).length_le
  rwa [List.length_map, List.length_map, ← List.countP_eq_length_filter,
    ← List.countP_eq_length_filter] at hlength

/-- A change in place replaces one record: of the others each is as it was. -/
theorem mem_modifyFirst_iff (h : Unique key l)
    (hkey : ∀ a, l.find? p = some a → key (f a) = key a) {a b : α} (hfind : l.find? p = some a)
    (hb : key b = key a) : b ∈ Records.modifyFirst p f l ↔ b = f a := by
  constructor
  · intro hmem
    exact (h.modifyFirst hkey).eq hmem (mem_modifyFirst hfind) (hb.trans (hkey a hfind).symm)
  · rintro rfl
    exact mem_modifyFirst hfind

end Unique

end Records
