/-
# The normal form of a localhost path

`rooted_localhost_uri` takes blanks off both ends of a path, then slashes, and neither again.
So a path whose last slashes stand behind a blank keeps that blank, and the next reading of the
normal form takes it off: `rootedLocalhostUri_fixed_iff` says that this is the one way in which
two readings come apart, in the URI and in the file.
-/
import ElastosRuntime.Localhost.Storage

namespace ElastosRuntime.Localhost

open Text

/-! ## 1. One reading -/

/-- The path that stands in a text: what follows `localhost://`, or the text itself. -/
def uriPath (pathOrUri : String) : String := (stripPrefix pathOrUri "localhost://").getD pathOrUri

/-- A blank comes to light when the blanks at the end are taken off, and then the slashes. -/
def endsInBlank (pathOrUri : String) : Bool :=
  (trimEnd '/' (uriPath pathOrUri).toList).getLast?.any isWhitespace

theorem readPath_eq (s : String) : readPath s = parseLocalhostPath (uriPath s) := by
  rw [readPath, uriPath, parseLocalhostUri, stripPrefix]
  by_cases hstarts : startsWith s "localhost://" = true
  · simp only [if_pos hstarts, Option.bind_eq_bind, Option.bind_some, Option.getD_some]
  · simp only [if_neg hstarts, Option.getD_none]

/-! ## 2. The second reading -/

section

variable {root : String} {after : List Char}

/-- What is left of what stands behind a root begins with a slash and does not end with one. -/
theorem trimEnd_getLast_ne (h : trimEnd '/' after ≠ []) :
    (trimEnd '/' after).getLast h ≠ '/' := by
  have hlast := List.rdropWhile_last_not (· == '/') (after.rdropWhile isWhitespace) h
  intro heq
  exact hlast (beq_iff_eq.mpr heq)

/-- The URI that is made of a root and what is left behind it, letter by letter. -/
theorem toList_normal_form (h : Behind '/' after) :
    (localhostUri root (String.ofList ((trimEnd '/' after).drop 1))).toList =
      "localhost://".toList ++ (root.toList ++ trimEnd '/' after) := by
  rw [localhostUri]
  rcases behind_iff.mp h with hnil | ⟨tail, hcons⟩
  · rw [hnil, List.drop_nil, if_pos (ofList_eq_empty_iff.mpr rfl), String.toList_append,
      List.append_nil]
  · have htail : tail ≠ [] := by
      rintro rfl
      have hne : trimEnd '/' after ≠ [] := by
        rw [hcons]
        exact List.cons_ne_nil _ _
      have hlast := trimEnd_getLast_ne hne
      simp only [hcons, List.getLast_singleton, ne_eq, not_true_eq_false] at hlast
    rw [hcons, List.drop_one, List.tail_cons, if_neg (by rwa [ofList_eq_empty_iff])]
    simp only [String.toList_append, String.toList_ofList, List.append_assoc]
    rfl

theorem behind_trimEnd (h : Behind '/' after) : Behind '/' (trimEnd '/' after) := by
  rcases behind_iff.mp h with hnil | ⟨tail, hcons⟩
  · rw [hnil]
    exact Or.inr fun x hx => absurd hx List.not_mem_nil
  · exact Or.inl ⟨tail, hcons⟩

theorem rdropWhile_eq_self_iff_getLast? {p : Char → Bool} {chars : List Char} :
    chars.rdropWhile p = chars ↔ chars.getLast?.any p = false := by
  rcases List.eq_nil_or_concat chars with rfl | ⟨front, x, rfl⟩
  · exact ⟨fun _ => rfl, fun _ => List.rdropWhile_nil p⟩
  · rw [List.rdropWhile_eq_self_iff, List.concat_eq_append, List.getLast?_concat]
    simp

/-- Trimming a trimmed end takes nothing off just when it does not end in a blank. -/
theorem trimEnd_trimEnd_iff : trimEnd '/' (trimEnd '/' after) = trimEnd '/' after ↔
    (trimEnd '/' after).getLast?.any isWhitespace = false := by
  have hslash : (trimEnd '/' after).rdropWhile (· == '/') = trimEnd '/' after :=
    List.rdropWhile_idempotent _ _
  generalize trimEnd '/' after = kept at hslash
  rw [← rdropWhile_eq_self_iff_getLast?]
  constructor
  · intro h
    have hinner : kept.rdropWhile isWhitespace <+: kept := List.rdropWhile_prefix _ _
    have houter : trimEnd '/' kept <+: kept.rdropWhile isWhitespace := List.rdropWhile_prefix _ _
    rw [h] at houter
    exact hinner.eq_of_length (Nat.le_antisymm hinner.length_le houter.length_le)
  · intro h
    rw [trimEnd, h, hslash]

/-- The end of a text is the end of what stands behind its root. -/
theorem endsInBlank_eq {s : String} (hroot : root ∈ ALL_ROOTS)
    (h : Reads '/' (uriPath s).toList root.toList after) :
    endsInBlank s = (trimEnd '/' after).getLast?.any isWhitespace := by
  have hfirm := firm_of_mem_allRoots hroot
  have hslash : ∀ x ∈ root.toList, (x == '/') = false := fun x hx =>
    beq_eq_false_iff_ne.mpr fun hx' => hfirm.single (hx' ▸ hx)
  obtain ⟨before, -, hcut, -⟩ := h
  have htrim : trimEnd '/' (uriPath s).toList = before ++ root.toList ++ trimEnd '/' after := by
    rw [hcut, trimEnd, rdropWhile_append_name hfirm.ne_nil hfirm.solid,
      rdropWhile_append_name hfirm.ne_nil hslash, trimEnd]
  rw [endsInBlank, htrim]
  rcases List.eq_nil_or_concat (trimEnd '/' after) with hnil | ⟨front, x, hconcat⟩
  · rcases List.eq_nil_or_concat root.toList with hname | ⟨front, x, hname⟩
    · exact absurd hname hfirm.ne_nil
    · have hx := hfirm.solid x (by rw [hname]; simp)
      rw [hnil, hname, List.append_nil, List.concat_eq_append, ← List.append_assoc,
        List.getLast?_concat]
      exact hx
  · rw [hconcat, List.concat_eq_append, ← List.append_assoc, List.getLast?_concat,
      List.getLast?_concat]

/-- Reading a normal form: the same root, and what a further trimming leaves behind it. -/
theorem readPath_normal_form (hroot : root ∈ ALL_ROOTS) (h : Behind '/' after) :
    readPath (localhostUri root (String.ofList ((trimEnd '/' after).drop 1))) =
      some (root, String.ofList ((trimEnd '/' (trimEnd '/' after)).drop 1)) := by
  rw [readPath_localhostUri hroot, String.toList_ofList]
  rcases behind_iff.mp h with hnil | ⟨tail, hcons⟩
  · rw [hnil]
    rfl
  · rw [hcons]
    rfl

end

/-! ## 3. Two readings -/

/-- **When two readings agree**: the normal form of a path is its own normal form and names the
file that the path names, just when the path does not end in a blank once the blanks at its end
are taken off and then the slashes. -/
theorem rootedLocalhostUri_fixed_iff (s v : String) (hv : rootedLocalhostUri s = some v) :
    (rootedLocalhostUri v = some v ∧
      ∀ base, rootedLocalhostFsPath base s = rootedLocalhostFsPath base v) ↔
      endsInBlank s = false := by
  rw [rootedLocalhostUri_eq, Option.map_eq_some_iff] at hv
  obtain ⟨⟨root, rest⟩, hread, rfl⟩ := hv
  obtain ⟨hroot, after, hreads, rfl⟩ := parseLocalhostPath_eq_some.mp (readPath_eq s ▸ hread)
  have hbehind : Behind '/' after := hreads.choose_spec.2.2
  have hagain := readPath_normal_form hroot hbehind
  rw [endsInBlank_eq hroot hreads, ← trimEnd_trimEnd_iff]
  constructor
  · rintro ⟨hfixed, -⟩
    rw [rootedLocalhostUri_eq, hagain, Option.map_some, Option.some_inj, ← String.toList_inj,
      toList_normal_form (behind_trimEnd hbehind), toList_normal_form hbehind] at hfixed
    exact List.append_cancel_left (List.append_cancel_left hfixed)
  · intro hsame
    rw [hsame] at hagain
    refine ⟨by rw [rootedLocalhostUri_eq, hagain]; rfl, fun base => ?_⟩
    rw [rootedLocalhostFsPath, rootedLocalhostFsPath, hread, hagain]

theorem rootedLocalhostUri_fixed_site :
    rootedLocalhostUri "localhost://MyWebSite/a/ " = some "localhost://MyWebSite/a" ∧
      ((rootedLocalhostUri "localhost://MyWebSite/a" = some "localhost://MyWebSite/a" ∧
        ∀ base, rootedLocalhostFsPath base "localhost://MyWebSite/a/ " =
          rootedLocalhostFsPath base "localhost://MyWebSite/a") ↔
        endsInBlank "localhost://MyWebSite/a/ " = false) := by
  have hv : rootedLocalhostUri "localhost://MyWebSite/a/ " = some "localhost://MyWebSite/a" := by
    decide +kernel
  exact ⟨hv, rootedLocalhostUri_fixed_iff _ _ hv⟩

/-- A blank before the last slash: the normal form keeps it, and its own normal form does not. -/
theorem normal_form_not_fixed : ¬∀ s v : String, rootedLocalhostUri s = some v →
    rootedLocalhostUri v = some v ∧
      ∀ base, rootedLocalhostFsPath base s = rootedLocalhostFsPath base v := by
  intro hall
  have hv : rootedLocalhostUri "localhost://MyWebSite/a /" = some "localhost://MyWebSite/a " := by
    decide +kernel
  have hagain : rootedLocalhostUri "localhost://MyWebSite/a " = some "localhost://MyWebSite/a" := by
    decide +kernel
  have hfixed := (hall _ _ hv).1
  rw [hagain] at hfixed
  exact absurd hfixed (by decide)

end ElastosRuntime.Localhost
