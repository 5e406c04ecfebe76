/-
# Texts that are cut at a separator

What a program does that reads a path: it takes blanks and separators off the ends, cuts at the
first separator or at every one, and drops the empty pieces.  `strip_append` says what trimming
leaves of a name with something in front of it and something behind it, and
`segments_eq_cons_iff` when a name is the first piece of a path.
-/
import Mathlib.Data.List.DropRight
import ElastosRuntime.Lib.Text

namespace Text

/-! ## 1. The operations -/

/-- `str::trim_start_matches`, of one character. -/
def trimStartMatches (s : String) (c : Char) : String := String.ofList (s.toList.dropWhile (· == c))

/-- `str::trim_end_matches`, of one character. -/
def trimEndMatches (s : String) (c : Char) : String := String.ofList (s.toList.rdropWhile (· == c))

/-- `str::trim_matches`, of one character. -/
def trimMatches (s : String) (c : Char) : String := trimEndMatches (trimStartMatches s c) c

/-- What stands before the first such character, and what stands behind it. -/
def splitOnce (s : String) (c : Char) : Option (String × String) :=
  match s.toList.dropWhile (· != c) with
  | [] => none
  | _ :: rest => some (String.ofList (s.toList.takeWhile (· != c)), String.ofList rest)

/-- `str::split`, at one character. -/
def split (s : String) (c : Char) : List String := (s.toList.splitOn c).map String.ofList

/-! ## 2. Trimming -/

section

variable {p : Char → Bool} {x c : Char} {l before name after chars : List Char}

/-- Trimming the end stops at a character that stays. -/
theorem rdropWhile_append_cons (hx : p x = false) : ∀ after : List Char,
    (l ++ x :: after).rdropWhile p = l ++ x :: after.rdropWhile p := by
  intro after
  induction after using List.reverseRecOn with
  | nil => rw [List.rdropWhile_concat_neg _ _ _ (by simp [hx]), List.rdropWhile_nil]
  | append_singleton after y ih =>
    rw [← List.cons_append, ← List.append_assoc, List.rdropWhile_concat, List.rdropWhile_concat]
    split
    · rw [ih]
    · rw [List.append_assoc, List.cons_append]

/-- Trimming an end that is not trimmed away. -/
theorem rdropWhile_append_of_ne_nil (hafter : after.rdropWhile p ≠ []) :
    (l ++ after).rdropWhile p = l ++ after.rdropWhile p := by
  induction after using List.reverseRecOn with
  | nil => exact absurd (List.rdropWhile_nil p) hafter
  | append_singleton after y ih =>
    rw [List.rdropWhile_concat] at hafter ⊢
    rw [← List.append_assoc, List.rdropWhile_concat]
    split
    · next hy =>
      rw [if_pos hy] at hafter
      exact ih hafter
    · rw [List.append_assoc]

theorem rdropWhile_append_name (hname : name ≠ []) (hlast : ∀ x ∈ name, p x = false) :
    (l ++ name ++ after).rdropWhile p = l ++ name ++ after.rdropWhile p := by
  rcases List.eq_nil_or_concat name with rfl | ⟨front, x, rfl⟩
  · exact absurd rfl hname
  · have hx : p x = false := hlast x (by simp)
    rw [List.concat_eq_append, ← List.append_assoc, List.append_assoc (l ++ front),
      List.singleton_append, rdropWhile_append_cons hx, List.append_assoc (l ++ front),
      List.singleton_append]

/-- A beginning that ends in a character that stays is not trimmed. -/
theorem prefix_rdropWhile (hbegin : before <+: l) (hlast : ∀ x ∈ before.getLast?, p x = false) :
    before <+: l.rdropWhile p := by
  induction l using List.reverseRecOn with
  | nil => rwa [List.rdropWhile_nil]
  | append_singleton l y ih =>
    rw [List.rdropWhile_concat]
    split
    · next hy =>
      rcases List.prefix_concat_iff.mp hbegin with rfl | hbegin
      · rw [hlast y (by simp)] at hy
        cases hy
      · exact ih hbegin
    · exact hbegin

theorem dropWhile_append_name (hbefore : ∀ x ∈ before, p x = true) (hname : name ≠ [])
    (hhead : ∀ x ∈ name, p x = false) :
    (before ++ (name ++ after)).dropWhile p = name ++ after := by
  rw [List.dropWhile_append_of_pos hbefore]
  cases name with
  | nil => exact absurd rfl hname
  | cons x name => exact List.dropWhile_cons_of_neg (by simp [hhead x List.mem_cons_self])

/-- Blanks and behind them separators. -/
def LeadIn (c : Char) (before : List Char) : Prop :=
  ∃ blanks separators, before = blanks ++ separators ∧ (∀ x ∈ blanks, isWhitespace x = true) ∧
    ∀ x ∈ separators, x = c

/-- What trimming leaves of what stands behind a name. -/
def trimEnd (c : Char) (after : List Char) : List Char :=
  (after.rdropWhile isWhitespace).rdropWhile (· == c)

/-- Blanks at both ends, then separators at both ends. -/
def strip (c : Char) (chars : List Char) : List Char :=
  (((chars.dropWhile isWhitespace).rdropWhile isWhitespace).dropWhile (· == c)).rdropWhile (· == c)

/-- A name that trimming does not touch. -/
structure Firm (c : Char) (name : List Char) : Prop where
  ne_nil : name ≠ []
  solid : ∀ x ∈ name, isWhitespace x = false
  single : c ∉ name

/-- **What trimming leaves of a name with its surroundings.** -/
theorem strip_append (hc : isWhitespace c = false) (hbefore : LeadIn c before)
    (hname : Firm c name) : strip c (before ++ name ++ after) = name ++ trimEnd c after := by
  obtain ⟨blanks, separators, rfl, hblanks, hseparators⟩ := hbefore
  have hsolid : ∀ x ∈ separators ++ name, isWhitespace x = false := by
    intro x hx
    rcases List.mem_append.mp hx with hx | hx
    · rw [hseparators x hx, hc]
    · exact hname.solid x hx
  have hne : separators ++ name ≠ [] := fun h => hname.ne_nil (List.append_eq_nil_iff.mp h).2
  have hother : ∀ x ∈ name, (x == c) = false := fun x hx => beq_eq_false_iff_ne.mpr fun h =>
    hname.single (h ▸ hx)
  have hsame : ∀ x ∈ separators, (x == c) = true := fun x hx => beq_iff_eq.mpr (hseparators x hx)
  have hfirst : (blanks ++ separators ++ name ++ after).dropWhile isWhitespace =
      separators ++ name ++ after := by
    rw [List.append_assoc blanks, List.append_assoc blanks]
    exact dropWhile_append_name hblanks hne hsolid
  have hsecond : (separators ++ name ++ after).rdropWhile isWhitespace =
      separators ++ name ++ after.rdropWhile isWhitespace :=
    rdropWhile_append_name (l := []) hne hsolid
  have hlast : (name ++ after.rdropWhile isWhitespace).rdropWhile (· == c) =
      name ++ (after.rdropWhile isWhitespace).rdropWhile (· == c) :=
    rdropWhile_append_name (l := []) hname.ne_nil hother
  rw [strip, hfirst, hsecond, List.append_assoc,
    dropWhile_append_name hsame hname.ne_nil hother, hlast, trimEnd]

theorem eq_trimmed (p : Char → Bool) (chars : List Char) :
    chars = chars.takeWhile p ++ (chars.dropWhile p).rdropWhile p ++
      (chars.dropWhile p).rtakeWhile p := by
  rw [List.append_assoc, List.rdropWhile_append_rtakeWhile, List.takeWhile_append_dropWhile]

/-- What is left by trimming is found inside, behind blanks and separators. -/
theorem exists_strip (c : Char) (chars : List Char) :
    ∃ before after, LeadIn c before ∧ chars = before ++ strip c chars ++ after := by
  let middle := (chars.dropWhile isWhitespace).rdropWhile isWhitespace
  have hblanks : chars = chars.takeWhile isWhitespace ++ middle ++
      (chars.dropWhile isWhitespace).rtakeWhile isWhitespace := eq_trimmed isWhitespace chars
  have hseparators : middle = middle.takeWhile (· == c) ++ strip c chars ++
      (middle.dropWhile (· == c)).rtakeWhile (· == c) := eq_trimmed (· == c) middle
  refine ⟨chars.takeWhile isWhitespace ++ middle.takeWhile (· == c),
    (middle.dropWhile (· == c)).rtakeWhile (· == c) ++
      (chars.dropWhile isWhitespace).rtakeWhile isWhitespace,
    ⟨_, _, rfl, fun x hx => List.mem_takeWhile_imp hx, fun x hx => ?_⟩, ?_⟩
  · exact beq_iff_eq.mp (List.mem_takeWhile_imp (p := (· == c)) hx)
  · calc chars = chars.takeWhile isWhitespace ++ middle ++
          (chars.dropWhile isWhitespace).rtakeWhile isWhitespace := hblanks
      _ = chars.takeWhile isWhitespace ++ (middle.takeWhile (· == c) ++ strip c chars ++
            (middle.dropWhile (· == c)).rtakeWhile (· == c)) ++
          (chars.dropWhile isWhitespace).rtakeWhile isWhitespace := by rw [← hseparators]
      _ = _ := by simp only [List.append_assoc]

theorem trimEnd_prefix (c : Char) (after : List Char) : trimEnd c after <+: after :=
  (List.rdropWhile_prefix _ _).trans (List.rdropWhile_prefix _ _)

/-- Nothing, a separator and more, or blanks. -/
def Behind (c : Char) (after : List Char) : Prop :=
  (∃ rest, after = c :: rest) ∨ ∀ x ∈ after, isWhitespace x = true

/-- What stands behind a name that is trimmed off or cut off. -/
theorem behind_iff : Behind c after ↔ trimEnd c after = [] ∨ ∃ rest, trimEnd c after = c :: rest := by
  constructor
  · rintro (⟨rest, rfl⟩ | hblanks)
    · cases htrim : trimEnd c (c :: rest) with
      | nil => exact Or.inl rfl
      | cons x tail =>
        obtain ⟨more, hmore⟩ := trimEnd_prefix c (c :: rest)
        rw [htrim, List.cons_append] at hmore
        exact Or.inr ⟨tail, by rw [(List.cons.inj hmore).1]⟩
    · exact Or.inl (by rw [trimEnd, List.rdropWhile_eq_nil_iff.mpr hblanks, List.rdropWhile_nil])
  · rintro (hnil | ⟨rest, hcons⟩)
    · rw [trimEnd, List.rdropWhile_eq_nil_iff] at hnil
      have hsplit := List.rdropWhile_append_rtakeWhile (p := isWhitespace) (l := after)
      cases hkept : after.rdropWhile isWhitespace with
      | nil => exact Or.inr (List.rdropWhile_eq_nil_iff.mp hkept)
      | cons x kept =>
        rw [hkept] at hsplit hnil
        have hx := beq_iff_eq.mp (hnil x List.mem_cons_self)
        exact Or.inl ⟨_, by rw [← hsplit, hx, List.cons_append]⟩
    · obtain ⟨more, hmore⟩ := trimEnd_prefix c after
      rw [hcons, List.cons_append] at hmore
      exact Or.inl ⟨_, hmore.symm⟩

/-- A text reads as a name, with `after` behind it, once it is trimmed. -/
def Reads (c : Char) (chars name after : List Char) : Prop :=
  ∃ before, LeadIn c before ∧ chars = before ++ name ++ after ∧ Behind c after

theorem Reads.strip_eq (h : Reads c chars name after) (hc : isWhitespace c = false)
    (hname : Firm c name) : strip c chars = name ++ trimEnd c after := by
  obtain ⟨before, hbefore, rfl, -⟩ := h
  exact strip_append hc hbefore hname

/-- A trimmed text that is a name, or begins with one and a separator, reads as that name. -/
theorem reads_of_strip_eq {rest : List Char} (hc : isWhitespace c = false) (hname : Firm c name)
    (hrest : rest = [] ∨ ∃ tail, rest = c :: tail) (h : strip c chars = name ++ rest) :
    ∃ after, Reads c chars name after ∧ trimEnd c after = rest := by
  obtain ⟨before, after, hbefore, hchars⟩ := exists_strip c chars
  rw [h] at hchars
  have hsplit : chars = before ++ name ++ (rest ++ after) := by
    rw [hchars]
    simp only [List.append_assoc]
  have htrim : trimEnd c (rest ++ after) = rest := by
    have hstrip : strip c chars = name ++ trimEnd c (rest ++ after) := by
      rw [hsplit]
      exact strip_append hc hbefore hname
    exact List.append_cancel_left (hstrip.symm.trans h)
  refine ⟨rest ++ after, ⟨before, hbefore, hsplit, behind_iff.mpr ?_⟩, htrim⟩
  rw [htrim]
  exact hrest

end

/-! ## 3. Pieces -/

/-- The pieces between separators that are not empty. -/
def segments (c : Char) (chars : List Char) : List (List Char) :=
  (chars.splitOn c).filter (· ≠ [])

section

variable {c : Char} {name chars rest : List Char} {more : List (List Char)}

@[simp] theorem segments_nil (c : Char) : segments c [] = [] := by
  rw [segments, List.splitOn_nil]
  rfl

@[simp] theorem segments_cons_self (c : Char) (chars : List Char) :
    segments c (c :: chars) = segments c chars := by
  rw [segments, List.splitOn_cons_eq_if_modifyHead, if_pos (beq_self_eq_true c), segments]
  rfl

@[simp] theorem segments_replicate_append (c : Char) (n : Nat) (chars : List Char) :
    segments c (List.replicate n c ++ chars) = segments c chars := by
  induction n with
  | zero => rfl
  | succ n ih => rw [List.replicate_succ, List.cons_append, segments_cons_self, ih]

theorem notMem_of_mem_splitOn (h : name ∈ chars.splitOn c) : c ∉ name := by
  induction chars generalizing name with
  | nil =>
    rw [List.splitOn_nil, List.mem_singleton] at h
    rw [h]
    exact List.not_mem_nil
  | cons x chars ih =>
    rw [List.splitOn_cons_eq_if_modifyHead] at h
    split at h
    · rcases List.mem_cons.mp h with rfl | h
      · exact List.not_mem_nil
      · exact ih h
    · rename_i hx
      cases hpieces : chars.splitOn c with
      | nil => exact absurd hpieces (List.splitOn_ne_nil c chars)
      | cons piece pieces =>
        rw [hpieces] at h ih
        rcases List.mem_cons.mp h with rfl | h
        · intro hmem
          rcases List.mem_cons.mp hmem with rfl | hmem
          · exact hx (beq_self_eq_true c)
          · exact ih List.mem_cons_self hmem
        · exact ih (List.mem_cons_of_mem _ h)

theorem splitOn_of_notMem (hname : c ∉ name) : name.splitOn c = [name] := by
  refine List.splitOnP_eq_singleton fun x hx => beq_eq_false_iff_ne.mpr ?_
  rintro rfl
  exact hname hx

/-- The pieces on both sides of a separator. -/
theorem splitOn_append_separator (before after : List Char) :
    (before ++ c :: after).splitOn c = before.splitOn c ++ after.splitOn c := by
  induction before with
  | nil =>
    rw [List.nil_append, List.splitOn_cons_eq_if_modifyHead, if_pos (beq_self_eq_true c),
      List.splitOn_nil, List.singleton_append]
  | cons x before ih =>
    rw [List.cons_append, List.splitOn_cons_eq_if_modifyHead, List.splitOn_cons_eq_if_modifyHead,
      ih]
    split
    · rfl
    · cases hpieces : before.splitOn c with
      | nil => exact absurd hpieces (List.splitOn_ne_nil c before)
      | cons piece pieces => rfl

theorem length_splitOn (c : Char) (chars : List Char) :
    (chars.splitOn c).length = chars.count c + 1 := by
  induction chars with
  | nil => rw [List.splitOn_nil, List.count_nil, List.length_singleton]
  | cons x chars ih =>
    rw [List.splitOn_cons_eq_if_modifyHead, List.count_cons]
    split
    · rw [List.length_cons, ih]
    · rw [List.length_modifyHead, ih, Nat.add_zero]

/-- What does not end in a separator does not end in an empty piece. -/
theorem getLast?_splitOn (hne : chars ≠ []) (hlast : chars.getLast? ≠ some c) :
    (chars.splitOn c).getLast? ≠ some [] := by
  induction chars with
  | nil => exact absurd rfl hne
  | cons x chars ih =>
    rw [List.splitOn_cons_eq_if_modifyHead]
    cases chars with
    | nil =>
      have hx : (x == c) = false := by simpa using hlast
      simp [hx]
    | cons y chars =>
      specialize ih (List.cons_ne_nil _ _) hlast
      cases hpieces : (y :: chars).splitOn c with
      | nil => exact absurd hpieces (List.splitOn_ne_nil c _)
      | cons piece pieces =>
        rw [hpieces] at ih
        split
        · exact ih
        · cases pieces with
          | nil => simp
          | cons second pieces => exact ih

/-- A name up to a separator is the first piece. -/
theorem splitOn_append_cons (hname : c ∉ name) (rest : List Char) :
    (name ++ c :: rest).splitOn c = name :: rest.splitOn c := by
  rw [splitOn_append_separator, splitOn_of_notMem hname, List.singleton_append]

/-- A text is its pieces. -/
theorem split_injective (c : Char) : Function.Injective (split · c) := by
  intro s t h
  have hpieces : s.toList.splitOn c = t.toList.splitOn c :=
    List.map_injective_iff.mpr (fun _ _ hchars => String.ofList_inj.mp hchars) h
  have hchars := congrArg ([c].intercalate ·) hpieces
  simp only [List.intercalate_splitOn] at hchars
  exact String.toList_inj.mp hchars

/-- What stands before the first separator, and what behind it, is read in one way. -/
theorem append_cons_inj {name' rest rest' : List Char} (hname : c ∉ name) (hname' : c ∉ name')
    (h : name ++ c :: rest = name' ++ c :: rest') : name = name' ∧ rest = rest' := by
  have hpieces := congrArg (List.splitOn c) h
  rw [splitOn_append_cons hname, splitOn_append_cons hname'] at hpieces
  obtain ⟨rfl, -⟩ := List.cons.inj hpieces
  exact ⟨rfl, (List.cons.inj (List.append_cancel_left h)).2⟩

theorem segments_of_notMem (hname : c ∉ name) (hne : name ≠ []) : segments c name = [name] := by
  rw [segments, splitOn_of_notMem hname]
  exact List.filter_cons_of_pos (by simpa using hne)

theorem segments_append_cons (hname : c ∉ name) (hne : name ≠ []) (rest : List Char) :
    segments c (name ++ c :: rest) = name :: segments c rest := by
  rw [segments, splitOn_append_cons hname]
  exact List.filter_cons_of_pos (by simpa using hne)

/-- **When a name is the first piece**: behind separators only, and up to one or to the end. -/
theorem segments_eq_cons_iff (hname : c ∉ name) (hne : name ≠ []) :
    segments c chars = name :: more ↔ ∃ n rest, chars = List.replicate n c ++ (name ++ rest) ∧
      (rest = [] ∨ ∃ tail, rest = c :: tail) ∧ segments c rest = more := by
  constructor
  · intro h
    induction chars with
    | nil => cases h
    | cons x chars ih =>
      by_cases hx : x = c
      · rw [hx, segments_cons_self] at h
        obtain ⟨n, rest, rfl, hrest⟩ := ih h
        exact ⟨n + 1, rest, by rw [hx, List.replicate_succ, List.cons_append], hrest⟩
      · have hsplit : x :: chars = (x :: chars).takeWhile (· != c) ++
            (x :: chars).dropWhile (· != c) := List.takeWhile_append_dropWhile.symm
        have hpiece : c ∉ (x :: chars).takeWhile (· != c) := fun hmem => by
          simpa using List.mem_takeWhile_imp hmem
        have hpos : (x :: chars).takeWhile (· != c) ≠ [] := by simp [hx]
        cases hrest : (x :: chars).dropWhile (· != c) with
        | nil =>
          rw [hrest, List.append_nil] at hsplit
          rw [hsplit, segments_of_notMem hpiece hpos] at h
          obtain ⟨rfl, rfl⟩ := List.cons.inj h
          exact ⟨0, [], by rw [List.append_nil]; exact hsplit, Or.inl rfl, rfl⟩
        | cons y tail =>
          have hy : y = c := by
            have hhead := List.head?_dropWhile_not (· != c) (x :: chars)
            rw [hrest] at hhead
            simpa using hhead
          rw [hrest, hy] at hsplit
          rw [hsplit, segments_append_cons hpiece hpos] at h
          obtain ⟨rfl, rfl⟩ := List.cons.inj h
          exact ⟨0, c :: tail, hsplit, Or.inr ⟨tail, rfl⟩, segments_cons_self c tail⟩
  · rintro ⟨n, rest, rfl, rfl | ⟨tail, rfl⟩, rfl⟩
    · rw [segments_replicate_append, List.append_nil, segments_of_notMem hname hne,
        segments_nil]
    · rw [segments_replicate_append, segments_append_cons hname hne, segments_cons_self]

end

/-! ## 4. What trimming leaves -/

/-- Nothing that is trimmed begins with the separator. -/
theorem head?_trimMatches (s : String) (c : Char) : (trimMatches s c).toList.head? ≠ some c := by
  intro hhead
  rw [trimMatches, trimStartMatches, trimEndMatches, String.toList_ofList,
    String.toList_ofList] at hhead
  obtain ⟨after, hafter⟩ := List.rdropWhile_prefix (· == c) (s.toList.dropWhile (· == c))
  have hdropped := List.head?_dropWhile_not (· == c) s.toList
  rw [← hafter, List.head?_append, hhead] at hdropped
  simp at hdropped

/-- Nothing that is trimmed ends in the separator. -/
theorem getLast?_trimMatches (s : String) (c : Char) :
    (trimMatches s c).toList.getLast? ≠ some c := by
  intro hlast
  rw [trimMatches, trimStartMatches, trimEndMatches, String.toList_ofList,
    String.toList_ofList] at hlast
  have hne : (s.toList.dropWhile (· == c)).rdropWhile (· == c) ≠ [] := by
    intro hnil
    rw [hnil] at hlast
    cases hlast
  rw [List.getLast?_eq_some_getLast hne, Option.some.injEq] at hlast
  exact List.rdropWhile_last_not _ _ hne (beq_iff_eq.mpr hlast)

end Text
