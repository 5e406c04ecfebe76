/-
# Finite maps with counting

A hash map is modelled by Mathlib's `AList`, the association list whose keys are distinct; its
`lookup`, `insert` and `erase` and their lemmas are used as they stand.  What the components
below need beyond them is collected here: keeping the entries that satisfy a condition
(`retain`), listing the keys whose entry satisfies one (`keysWhere`), and counting entries
(`countVals`, of which `size` is the case that counts everything).

The counting lemmas are all consequences of `countVals_erase`: a stored entry contributes its
own indicator and nothing else.
-/
import Mathlib.Data.List.AList

/-- A finite map with keys `K` and values `V`. -/
abbrev Table (K V : Type) := AList fun _ : K => V

namespace Table

variable {K V : Type} [DecidableEq K]

/-! ## 1. Entries and lookups -/

variable {t : Table K V} {k : K} {v : V}

/-- An entry is in the map exactly when its key looks it up. -/
theorem mem_entries_iff : (⟨k, v⟩ : Sigma fun _ : K => V) ∈ t.entries ↔ t.lookup k = some v :=
  AList.mem_lookup_iff.symm

/-- The lookup after an insertion, by whether the key is the inserted one. -/
theorem lookup_insert_eq (t : Table K V) (k k' : K) (v : V) :
    (t.insert k v).lookup k' = if k' = k then some v else t.lookup k' := by
  split
  · next h => rw [h, AList.lookup_insert]
  · next h => rw [AList.lookup_insert_ne h]

/-- The lookup after a removal, by whether the key is the removed one. -/
theorem lookup_erase_eq (t : Table K V) (k k' : K) :
    (t.erase k).lookup k' = if k' = k then none else t.lookup k' := by
  split
  · next h => rw [h, AList.lookup_erase]
  · next h => rw [AList.lookup_erase_ne h]

/-- Removing an absent key changes nothing. -/
theorem erase_of_lookup_eq_none (h : t.lookup k = none) : t.erase k = t :=
  AList.ext (List.kerase_of_notMem_keys (AList.lookup_eq_none.mp h))

/-! ## 2. Keeping and listing the entries that satisfy a condition -/

/-- The entries that satisfy `p`. -/
def retain (p : K → V → Bool) (t : Table K V) : Table K V :=
  ⟨t.entries.filter fun e => p e.1 e.2, List.NodupKeys.sublist List.filter_sublist t.nodupKeys⟩

/-- **`retain` in terms of lookups.** -/
theorem lookup_retain (p : K → V → Bool) (t : Table K V) (k : K) :
    (retain p t).lookup k = (t.lookup k).filter (p k) := by
  ext v
  rw [← mem_entries_iff, Option.filter_eq_some_iff, ← mem_entries_iff]
  simp only [retain, List.mem_filter]

/-- The keys whose entry satisfies `p`, in the map's own order. -/
def keysWhere (p : K → V → Bool) (t : Table K V) : List K :=
  (t.entries.filter fun e => p e.1 e.2).map Sigma.fst

theorem mem_keysWhere {p : K → V → Bool} :
    k ∈ keysWhere p t ↔ ∃ v, t.lookup k = some v ∧ p k v = true := by
  simp only [keysWhere, List.mem_map, List.mem_filter]
  constructor
  · rintro ⟨⟨k', v⟩, ⟨hmem, hp⟩, rfl⟩
    exact ⟨v, mem_entries_iff.mp hmem, hp⟩
  · rintro ⟨v, hv, hp⟩
    exact ⟨⟨k, v⟩, ⟨mem_entries_iff.mpr hv, hp⟩, rfl⟩

/-! ## 3. Updating values in place -/

/-- Apply `f` to every value. -/
def mapVals (f : V → V) (t : Table K V) : Table K V :=
  ⟨t.entries.map fun e => ⟨e.1, f e.2⟩, by
    have hkeys : (t.entries.map fun e => (⟨e.1, f e.2⟩ : Sigma fun _ : K => V)).keys =
        t.entries.keys := by
      simp [List.keys, List.map_map, Function.comp_def]
    exact (congrArg List.Nodup hkeys).mpr t.nodupKeys⟩

theorem lookup_mapVals (f : V → V) (t : Table K V) (k : K) :
    (mapVals f t).lookup k = (t.lookup k).map f := by
  ext v
  rw [← mem_entries_iff, Option.map_eq_some_iff]
  simp only [mapVals, List.mem_map]
  constructor
  · rintro ⟨⟨k', w⟩, hmem, heq⟩
    cases heq
    exact ⟨w, mem_entries_iff.mp hmem, rfl⟩
  · rintro ⟨w, hw, rfl⟩
    exact ⟨⟨k, w⟩, mem_entries_iff.mpr hw, rfl⟩

variable {f : V → V} {p : V → Bool}

omit [DecidableEq K] in
/-- Updating and keeping twice is updating and keeping by the second update, as far as it forgets
the first. -/
theorem retain_mapVals_retain_mapVals {g : V → V} (hg : ∀ v, g (f v) = g v)
    (hp : ∀ v, p (f v) = false → p (g v) = false) (t : Table K V) :
    retain (fun _ => p) (mapVals g (retain (fun _ => p) (mapVals f t))) =
      retain (fun _ => p) (mapVals g t) := by
  refine AList.ext ?_
  change (((t.entries.map _).filter _).map _).filter _ = (t.entries.map _).filter _
  induction t.entries with
  | nil => rfl
  | cons row rows ih =>
    simp only [List.map_cons, List.filter_cons]
    cases hkept : p (f row.2) with
    | false =>
      rw [hp row.2 hkept]
      simpa using ih
    | true => simp only [if_true, List.map_cons, List.filter_cons, hg row.2, ih]

/-- Apply `f` to the value of one key, if the key is there. -/
def modify (k : K) (f : V → V) (t : Table K V) : Table K V :=
  match t.lookup k with
  | some v => t.insert k (f v)
  | none => t

theorem lookup_modify (k : K) (f : V → V) (t : Table K V) (k' : K) :
    (modify k f t).lookup k' = if k' = k then (t.lookup k').map f else t.lookup k' := by
  unfold modify
  split
  · next v hv =>
    rw [lookup_insert_eq]
    split
    · next h => rw [h, hv, Option.map_some]
    · rfl
  · next hv =>
    split
    · next h => rw [h, hv, Option.map_none]
    · rfl

/-- Apply `f` to the values of several keys, one after the other. -/
def modifyAll (ks : List K) (f : V → V) (t : Table K V) : Table K V :=
  ks.foldl (fun t k => modify k f t) t

/-- An idempotent update of several keys reaches each of them once. -/
theorem lookup_modifyAll (hf : ∀ v, f (f v) = f v) (k' : K) :
    ∀ (ks : List K) (t : Table K V), (modifyAll ks f t).lookup k' =
      if k' ∈ ks then (t.lookup k').map f else t.lookup k'
  | [], t => by simp [modifyAll]
  | k :: ks, t => by
    have htail := lookup_modifyAll hf k' ks (modify k f t)
    rw [modifyAll, List.foldl_cons, ← modifyAll, htail, lookup_modify]
    by_cases hk : k' = k
    · by_cases hks : k' ∈ ks
      · cases t.lookup k' <;> simp [hk ▸ hks, hk, hf]
      · simp [hk ▸ hks, hk]
    · simp [hk]

/-! ## 4. Counting -/

/-- How many entries have a value that satisfies `p`. -/
def countVals (p : V → Bool) (t : Table K V) : Nat := t.entries.countP fun e => p e.2

/-- How many entries there are. -/
def size (t : Table K V) : Nat := t.entries.length

omit [DecidableEq K] in
theorem size_eq_countVals (t : Table K V) : size t = countVals (fun _ => true) t := by
  simp [size, countVals]

/-- A stored entry contributes its own indicator to the count. -/
theorem countVals_erase (p : V → Bool) (h : t.lookup k = some v) :
    countVals p t = countVals p (t.erase k) + if p v then 1 else 0 := by
  obtain ⟨b, l₁, l₂, hk, hl, he⟩ :=
    List.exists_of_kerase (AList.lookup_isSome.mp (by rw [h]; rfl))
  have hmem : (⟨k, b⟩ : Sigma fun _ : K => V) ∈ t.entries := by rw [hl]; simp
  have hbv : b = v := by
    rw [mem_entries_iff, h, Option.some.injEq] at hmem
    exact hmem.symm
  have herase : (t.erase k).entries = l₁ ++ l₂ := he
  subst hbv
  unfold countVals
  rw [herase, hl, List.countP_append, List.countP_append, List.countP_cons, Nat.add_assoc]

/-- A new entry adds its indicator. -/
theorem countVals_insert_new (v : V) (p : V → Bool) (h : t.lookup k = none) :
    countVals p (t.insert k v) = countVals p t + if p v then 1 else 0 := by
  unfold countVals
  rw [AList.entries_insert_of_notMem (AList.lookup_eq_none.mp h), List.countP_cons]

/-- A replaced entry trades the old indicator for the new one. -/
theorem countVals_insert_replace (w : V) (p : V → Bool) (h : t.lookup k = some v) :
    countVals p (t.insert k w) + (if p v then 1 else 0) =
      countVals p t + if p w then 1 else 0 := by
  have hins : countVals p (t.insert k w) = countVals p (t.erase k) + if p w then 1 else 0 := by
    unfold countVals
    rw [AList.entries_insert, List.countP_cons]
    rfl
  rw [hins, countVals_erase p h]
  omega

omit [DecidableEq K] in
/-- Keeping fewer entries counts no more. -/
theorem countVals_retain_le (q : K → V → Bool) (p : V → Bool) (t : Table K V) :
    countVals p (retain q t) ≤ countVals p t :=
  List.Sublist.countP_le List.filter_sublist

omit [DecidableEq K] in
/-- An update that never establishes `p` counts no more. -/
theorem countVals_mapVals_le (hf : ∀ v, p (f v) = true → p v = true) (t : Table K V) :
    countVals p (mapVals f t) ≤ countVals p t := by
  unfold countVals mapVals
  rw [List.countP_map]
  exact List.countP_mono_left fun e _ he => hf e.2 he

omit [DecidableEq K] in
@[simp] theorem size_mapVals (f : V → V) (t : Table K V) : size (mapVals f t) = size t :=
  List.length_map _

theorem countVals_modify_le (hf : ∀ v, p (f v) = true → p v = true) (k : K) (t : Table K V) :
    countVals p (modify k f t) ≤ countVals p t := by
  unfold modify
  split
  · next v hv =>
    have hcount := countVals_insert_replace (f v) p hv
    have hle : (if p (f v) then 1 else 0) ≤ if p v then 1 else 0 := by
      cases h : p (f v) with
      | false => exact Nat.zero_le _
      | true => rw [hf v h]
    omega
  · exact Nat.le_refl _

theorem size_insert_replace (w : V) (h : t.lookup k = some v) : size (t.insert k w) = size t := by
  have hcount := countVals_insert_replace w (fun _ => true) h
  rw [size_eq_countVals, size_eq_countVals]
  omega

@[simp] theorem size_modify (k : K) (f : V → V) (t : Table K V) :
    size (modify k f t) = size t := by
  unfold modify
  split
  · next v hv => exact size_insert_replace (f v) hv
  · rfl

theorem countVals_modifyAll_le (hf : ∀ v, p (f v) = true → p v = true) :
    ∀ (ks : List K) (t : Table K V), countVals p (modifyAll ks f t) ≤ countVals p t
  | [], _ => Nat.le_refl _
  | k :: ks, t =>
    Nat.le_trans (countVals_modifyAll_le hf ks (modify k f t)) (countVals_modify_le hf k t)

@[simp] theorem size_modifyAll (f : V → V) :
    ∀ (ks : List K) (t : Table K V), size (modifyAll ks f t) = size t
  | [], _ => rfl
  | k :: ks, t => (size_modifyAll f ks (modify k f t)).trans (size_modify k f t)

omit [DecidableEq K] in
theorem size_retain_le (p : K → V → Bool) (t : Table K V) : size (retain p t) ≤ size t :=
  List.length_filter_le _ _

/-- An entry that is not kept makes the map smaller. -/
theorem size_retain_lt {p : K → V → Bool} (h : t.lookup k = some v) (hp : p k v = false) :
    size (retain p t) < size t :=
  List.length_filter_lt_length_iff_exists.mpr
    ⟨⟨k, v⟩, mem_entries_iff.mpr h, by rw [hp]; exact Bool.false_ne_true⟩

theorem size_insert_new (v : V) (h : t.lookup k = none) : size (t.insert k v) = size t + 1 := by
  rw [size_eq_countVals, size_eq_countVals, countVals_insert_new v _ h, if_pos rfl]

/-- A stored value that satisfies `p` is counted. -/
theorem countVals_pos (h : t.lookup k = some v) (hp : p v = true) : 0 < countVals p t := by
  rw [countVals_erase p h, if_pos hp]
  omega

end Table
