/-
# Ordered maps as lists

A tree map is modelled by the list of its entries in the order of their keys.  Each key stands once
(`Ascending`), so two maps with the same entries are the same list, and writing an entry back that
was there already is no change (`insert_eq_self`).

What a map is worth, as a sum over its entries, changes by what comes in and what goes out:
`total_insert` and `total_erase`.
-/
import Mathlib.Algebra.BigOperators.Group.List.Basic
import Mathlib.Order.Lattice

namespace OrderedMap

section

variable {κ α : Type} [LinearOrder κ] {entries : List (κ × α)} {key : κ} {value : α}

/-! ## 1. Operations -/

def get? : List (κ × α) → κ → Option α
  | [], _ => none
  | (k, a) :: rest, key => if key = k then some a else get? rest key

/-- An entry that was there is replaced where it stands. -/
def insert : List (κ × α) → κ → α → List (κ × α)
  | [], key, value => [(key, value)]
  | (k, a) :: rest, key, value =>
    if key < k then (key, value) :: (k, a) :: rest
    else if key = k then (key, value) :: rest
    else (k, a) :: insert rest key value

def erase (entries : List (κ × α)) (key : κ) : List (κ × α) :=
  entries.filter fun entry => entry.1 ≠ key

def Ascending (entries : List (κ × α)) : Prop := entries.Pairwise fun e f => e.1 < f.1

/-! ## 2. What is found -/

theorem get?_insert (entries : List (κ × α)) (key other : κ) (value : α) :
    get? (insert entries key value) other =
      if other = key then some value else get? entries other := by
  induction entries with
  | nil => rfl
  | cons entry rest ih =>
    obtain ⟨k, a⟩ := entry
    rw [insert]
    split
    · rfl
    · split
      · next hsame =>
        subst hsame
        rw [get?, get?]
        split <;> rfl
      · next hne =>
        rw [get?, get?, ih]
        split
        · next hother =>
          rw [if_neg (hother ▸ Ne.symm hne)]
        · rfl

theorem get?_erase (entries : List (κ × α)) (key other : κ) :
    get? (erase entries key) other = if other = key then none else get? entries other := by
  induction entries with
  | nil => simp only [erase, List.filter_nil, get?, ite_self]
  | cons entry rest ih =>
    obtain ⟨k, a⟩ := entry
    rw [erase] at ih ⊢
    by_cases hk : k = key
    · rw [List.filter_cons_of_neg (by simpa using hk), ih, get?, hk]
      split <;> rfl
    · rw [List.filter_cons_of_pos (by simpa using hk), get?, get?, ih]
      split
      · next hother => rw [if_neg (hother ▸ hk)]
      · rfl

theorem mem_of_get?_eq_some : ∀ {entries : List (κ × α)}, get? entries key = some value →
    (key, value) ∈ entries
  | (k, a) :: rest, h => by
    rw [get?] at h
    split at h
    · next hsame =>
      rw [hsame, Option.some.inj h]
      exact List.mem_cons_self
    · exact List.mem_cons_of_mem _ (mem_of_get?_eq_some h)

/-! ## 3. The order is kept -/

theorem mem_insert : ∀ {entries : List (κ × α)} {entry : κ × α},
    entry ∈ insert entries key value → entry = (key, value) ∨ entry ∈ entries
  | [], _, h => by
    rw [insert, List.mem_singleton] at h
    exact .inl h
  | (k, a) :: rest, entry, h => by
    rw [insert] at h
    split at h
    · exact List.mem_cons.mp h
    · split at h
      · exact (List.mem_cons.mp h).imp id (List.mem_cons_of_mem _)
      · rcases List.mem_cons.mp h with h | h
        · exact .inr (h ▸ List.mem_cons_self)
        · exact (mem_insert h).imp id (List.mem_cons_of_mem _)

theorem Ascending.insert (h : Ascending entries) (key : κ) (value : α) :
    Ascending (insert entries key value) := by
  induction entries with
  | nil => exact List.pairwise_singleton _ _
  | cons entry rest ih =>
    obtain ⟨k, a⟩ := entry
    obtain ⟨hfirst, hrest⟩ := List.pairwise_cons.mp h
    rw [OrderedMap.insert]
    split
    · next hlt =>
      refine List.pairwise_cons.mpr ⟨fun e he => ?_, h⟩
      rcases List.mem_cons.mp he with rfl | he
      · exact hlt
      · exact hlt.trans (hfirst e he)
    · next hnlt =>
      split
      · next hsame =>
        subst hsame
        exact List.pairwise_cons.mpr ⟨hfirst, hrest⟩
      · next hne =>
        refine List.pairwise_cons.mpr ⟨fun e he => ?_, ih hrest⟩
        rcases mem_insert he with rfl | he
        · exact lt_of_le_of_ne (not_lt.mp hnlt) (Ne.symm hne)
        · exact hfirst e he

theorem Ascending.erase (h : Ascending entries) (key : κ) : Ascending (erase entries key) :=
  h.filter _

/-- Every entry is found. -/
theorem get?_of_mem (h : Ascending entries) (hentry : (key, value) ∈ entries) :
    get? entries key = some value := by
  induction entries with
  | nil => cases hentry
  | cons entry rest ih =>
    obtain ⟨hfirst, hrest⟩ := List.pairwise_cons.mp h
    rcases List.mem_cons.mp hentry with rfl | hentry
    · rw [get?, if_pos rfl]
    · rw [get?, if_neg (hfirst _ hentry).ne', ih hrest hentry]

/-- What stands behind the first entry has greater keys. -/
theorem get?_eq_none_of_lt (h : ∀ entry ∈ entries, key < entry.1) : get? entries key = none := by
  rw [Option.eq_none_iff_forall_ne_some]
  intro value hvalue
  exact lt_irrefl key (h _ (mem_of_get?_eq_some hvalue))

theorem erase_eq_self_of_lt (h : ∀ entry ∈ entries, key < entry.1) :
    erase entries key = entries :=
  List.filter_eq_self.mpr fun entry hentry => by simpa using (h entry hentry).ne'

/-- **Writing back what was there changes nothing.** -/
theorem insert_eq_self (h : Ascending entries) (hvalue : get? entries key = some value) :
    insert entries key value = entries := by
  induction entries with
  | nil => cases hvalue
  | cons entry rest ih =>
    obtain ⟨k, a⟩ := entry
    obtain ⟨hfirst, hrest⟩ := List.pairwise_cons.mp h
    rw [get?] at hvalue
    rw [insert]
    split at hvalue
    · next hsame =>
      rw [if_neg (hsame ▸ lt_irrefl _), if_pos hsame, hsame, Option.some.inj hvalue]
    · next hne =>
      have hlt := hfirst _ (mem_of_get?_eq_some hvalue)
      rw [if_neg hlt.not_gt, if_neg hne, ih hrest hvalue]

end

/-! ## 4. Sums -/

section

variable {κ α β : Type} [AddCommMonoid β]

def total (worth : α → β) (entries : List (κ × α)) : β :=
  (entries.map fun entry => worth entry.2).sum

theorem total_cons (worth : α → β) (entry : κ × α) (rest : List (κ × α)) :
    total worth (entry :: rest) = worth entry.2 + total worth rest := List.sum_cons

/-- What an entry is worth that may not be there. -/
def worthOf (worth : α → β) (found : Option α) : β := (found.map worth).getD 0

variable [LinearOrder κ] {entries : List (κ × α)}

theorem total_insert (worth : α → β) (h : Ascending entries) (key : κ) (value : α) :
    total worth (insert entries key value) + worthOf worth (get? entries key) =
      total worth entries + worth value := by
  induction entries with
  | nil =>
    rw [insert, get?, total_cons, worthOf, Option.map_none, Option.getD_none, add_zero, add_comm]
  | cons entry rest ih =>
    obtain ⟨k, a⟩ := entry
    obtain ⟨hfirst, hrest⟩ := List.pairwise_cons.mp h
    rw [insert, get?]
    split
    · next hlt =>
      have hnone : get? rest key = none :=
        get?_eq_none_of_lt fun e he => hlt.trans (hfirst e he)
      rw [if_neg hlt.ne, hnone, worthOf, Option.map_none, Option.getD_none, add_zero, total_cons,
        add_comm]
    · split
      · rw [total_cons, total_cons, worthOf, Option.map_some, Option.getD_some]
        exact add_right_comm _ _ _ |>.trans (by rw [add_comm (worth value), add_right_comm])
      · rw [total_cons, total_cons, add_assoc, ih hrest, add_assoc]

theorem total_erase (worth : α → β) (h : Ascending entries) (key : κ) :
    total worth (erase entries key) + worthOf worth (get? entries key) = total worth entries := by
  induction entries with
  | nil => exact add_zero _
  | cons entry rest ih =>
    obtain ⟨k, a⟩ := entry
    obtain ⟨hfirst, hrest⟩ := List.pairwise_cons.mp h
    rw [get?, erase]
    by_cases hsame : k = key
    · subst hsame
      have hrest' := erase_eq_self_of_lt hfirst
      rw [erase] at hrest'
      rw [List.filter_cons_of_neg (by simp), if_pos rfl, hrest', worthOf, Option.map_some,
        Option.getD_some, total_cons, add_comm]
    · have ih := ih hrest
      rw [erase] at ih
      rw [List.filter_cons_of_pos (by simpa using hsame), if_neg (Ne.symm hsame), total_cons,
        total_cons, add_assoc, ih]

end

end OrderedMap
