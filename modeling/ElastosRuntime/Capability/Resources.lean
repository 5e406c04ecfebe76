/-
# What a pattern covers, as paths

`resolve` reads a text as a path: it drops empty and `.` segments, and lets a `..` segment take back
the one before it.  A wildcard pattern covers only requests whose path extends the path of its
prefix (`matchesPattern_wildcard`), so neither a sibling that shares the prefix as a string nor
anything above it.

The extension is a proper one whenever what stands before the wildcard has a scheme and a path
(`resolve_suffix_ne_nil`).  Without a scheme a text is compared as it is written, and `scheme://*`
has no path before its wildcard; there the prefix itself is covered too.
-/
import ElastosRuntime.Capability.Token
import ElastosRuntime.Lib.Segments

namespace ElastosRuntime.ResourceId

/-! ## 1. Paths -/

/-- A segment that `normalize` keeps. -/
def keeps (seg : List Char) : Bool := !seg.isEmpty && seg != ['.']

/-- One segment of a path. -/
def resolveSegment (path : List (List Char)) (seg : List Char) : List (List Char) :=
  if !keeps seg then path
  else if seg = ['.', '.'] then path.dropLast
  else path ++ [seg]

/-- The path a text denotes once its dot segments are resolved. -/
def resolve (s : List Char) : List (List Char) := (s.splitOn '/').foldl resolveSegment []

theorem foldl_resolveSegment_filter (segs : List (List Char)) (path : List (List Char)) :
    (segs.filter keeps).foldl resolveSegment path = segs.foldl resolveSegment path := by
  induction segs generalizing path with
  | nil => rfl
  | cons seg segs ih =>
    cases hkeep : keeps seg with
    | true => rw [List.filter_cons_of_pos hkeep, List.foldl_cons, List.foldl_cons, ih]
    | false =>
      have hskip : resolveSegment path seg = path := if_pos (by rw [hkeep]; rfl)
      rw [List.filter_cons_of_neg (by rw [hkeep]; decide), List.foldl_cons, hskip, ih]

/-- Without climbing a path only grows. -/
theorem foldl_resolveSegment_of_noTraversal {segs : List (List Char)}
    (h : ∀ seg ∈ segs, seg ≠ ['.', '.']) (path : List (List Char)) :
    segs.foldl resolveSegment path = path ++ segs.filter keeps := by
  induction segs generalizing path with
  | nil => exact (List.append_nil path).symm
  | cons seg segs ih =>
    have hrest := ih fun seg hseg => h seg (List.mem_cons_of_mem _ hseg)
    rw [List.foldl_cons, hrest]
    cases hkeep : keeps seg with
    | false =>
      rw [List.filter_cons_of_neg (by rw [hkeep]; decide), resolveSegment,
        if_pos (by rw [hkeep]; rfl)]
    | true =>
      rw [List.filter_cons_of_pos hkeep, resolveSegment, if_neg (by rw [hkeep]; decide),
        if_neg (h seg List.mem_cons_self), List.append_assoc, List.singleton_append]

variable {s scheme rest : List Char}

theorem noTraversal_iff : noTraversal s = true ↔ ∀ seg ∈ s.splitOn '/', seg ≠ ['.', '.'] := by
  simp [noTraversal]

/-- A text is read segment by segment. -/
theorem resolve_append_sep (s t : List Char) :
    resolve (s ++ '/' :: t) = (t.splitOn '/').foldl resolveSegment (resolve s) := by
  rw [resolve, List.splitOn_append_cons_self, List.foldl_append, ← resolve]

theorem resolve_append_slash (s : List Char) : resolve (s ++ ['/']) = resolve s := by
  rw [resolve_append_sep, List.splitOn_nil]
  rfl

/-! ## 2. Schemes -/

/-- What stands behind a scheme does not matter to where it ends. -/
theorem splitScheme_append (h : splitScheme s = some (scheme, rest)) :
    s = scheme ++ rest ∧ (∃ before, scheme = before ++ ['/', '/'] ∧ before ≠ []) ∧
      ∀ t, splitScheme (scheme ++ t) = some (scheme, t) := by
  induction s generalizing scheme rest with
  | nil => cases h
  | cons c cs ih =>
    rw [splitScheme] at h
    split at h
    · next hfound =>
      rw [Bool.and_eq_true, decide_eq_true_eq] at hfound
      obtain ⟨⟨tail, rfl⟩, rfl⟩ := And.imp_left List.isPrefixOf_iff_prefix.mp hfound
      simp only [Option.some.injEq, Prod.mk.injEq] at h
      obtain ⟨rfl, rfl⟩ := h
      refine ⟨rfl, ⟨[':'], rfl, by decide⟩, fun t => ?_⟩
      rfl
    · next hnot =>
      rw [Option.map_eq_some_iff] at h
      obtain ⟨⟨scheme', rest'⟩, hsplit, heq⟩ := h
      simp only [Prod.mk.injEq] at heq
      obtain ⟨rfl, rfl⟩ := heq
      obtain ⟨rfl, ⟨before, rfl, hbefore⟩, hany⟩ := ih hsplit
      refine ⟨rfl, ⟨c :: before, rfl, by simp⟩, fun t => ?_⟩
      -- The first two characters behind `c` are those of `before ++ "//"`.
      have hhead : ∀ u : List Char, (['/', '/'].isPrefixOf (before ++ ['/', '/'] ++ u)) =
          ['/', '/'].isPrefixOf (before ++ ['/', '/']) := by
        intro u
        cases before with
        | nil => exact absurd rfl hbefore
        | cons x xs =>
          cases xs with
          | nil => simp [List.isPrefixOf]
          | cons y ys => simp [List.isPrefixOf]
      rw [hhead] at hnot
      rw [List.cons_append, splitScheme, hhead, if_neg hnot, hany t]
      rfl

/-- The path of a normalised text, by its segments. -/
theorem normalize_eq (h : splitScheme s = some (scheme, rest)) :
    normalize s = scheme ++ List.intercalate ['/'] ((rest.splitOn '/').filter keeps) := by
  rw [normalize, h]
  rfl

theorem normalize_of_none (h : splitScheme s = none) : normalize s = s := by
  rw [normalize, h]

/-- The segments that are kept are those of the text they are put together to. -/
theorem splitOn_intercalate_filter (rest : List Char) :
    (List.intercalate ['/'] ((rest.splitOn '/').filter keeps)).splitOn '/' =
      if (rest.splitOn '/').filter keeps = [] then [[]] else (rest.splitOn '/').filter keeps := by
  split
  · next hnil =>
    rw [hnil]
    rfl
  · next hne =>
    refine List.splitOn_intercalate '/' (fun seg hseg => ?_) hne
    exact Text.notMem_of_mem_splitOn (List.mem_of_mem_filter hseg)

theorem filter_splitOn_intercalate (rest : List Char) :
    ((List.intercalate ['/'] ((rest.splitOn '/').filter keeps)).splitOn '/').filter keeps =
      (rest.splitOn '/').filter keeps := by
  rw [splitOn_intercalate_filter]
  split
  · next hnil =>
    rw [hnil]
    rfl
  · rw [List.filter_filter]
    simp

/-- **Normalising is idempotent.** -/
theorem normalize_normalize (s : List Char) : normalize (normalize s) = normalize s := by
  cases h : splitScheme s with
  | none => rw [normalize_of_none h, normalize_of_none h]
  | some split =>
    obtain ⟨scheme, rest⟩ := split
    obtain ⟨-, -, hany⟩ := splitScheme_append h
    rw [normalize_eq h, normalize_eq (hany _), filter_splitOn_intercalate]

/-- Normalising keeps the path. -/
theorem resolve_normalize (s : List Char) : resolve (normalize s) = resolve s := by
  cases hs : splitScheme s with
  | none => rw [normalize_of_none hs]
  | some split =>
    obtain ⟨scheme, rest⟩ := split
    obtain ⟨rfl, ⟨before, rfl, -⟩, -⟩ := splitScheme_append hs
    have hcut : ∀ t : List Char, resolve (before ++ ['/', '/'] ++ t) =
        (t.splitOn '/').foldl resolveSegment (resolve (before ++ ['/'])) := by
      intro t
      rw [← resolve_append_sep]
      simp
    rw [normalize_eq hs, hcut, hcut, ← foldl_resolveSegment_filter, filter_splitOn_intercalate,
      foldl_resolveSegment_filter]

/-! ## 3. Patterns -/

section

variable {resource pattern : ResourceId} {stem suffix : List Char}

/-- Behind a scheme and a path a request goes on with at least one segment. -/
theorem resolve_suffix_ne_nil (hstem : (splitScheme stem).isSome = true)
    (hresource : normalize resource.str.toList = stem ++ '/' :: suffix) :
    (suffix.splitOn '/').filter keeps ≠ [] := by
  obtain ⟨⟨scheme, path⟩, hsplit⟩ := Option.isSome_iff_exists.mp hstem
  obtain ⟨rfl, -, hany⟩ := splitScheme_append hsplit
  rw [List.append_assoc] at hresource
  cases hs : splitScheme resource.str.toList with
  | none =>
    rw [normalize_of_none hs] at hresource
    rw [hresource, hany] at hs
    cases hs
  | some split =>
    obtain ⟨scheme', rest⟩ := split
    obtain ⟨-, -, hany'⟩ := splitScheme_append hs
    rw [normalize_eq hs] at hresource
    have hboth := (hany' _).symm.trans ((congrArg splitScheme hresource).trans (hany _))
    simp only [Option.some.injEq, Prod.mk.injEq] at hboth
    have hsegs := congrArg (List.splitOn '/') hboth.2
    rw [splitOn_intercalate_filter, List.splitOn_append_cons_self] at hsegs
    -- The segments behind the path are among those that were kept, and there is one.
    split at hsegs
    · have hlength := congrArg List.length hsegs
      have hpath := List.length_pos_of_ne_nil (List.splitOn_ne_nil '/' path)
      have hsuffix := List.length_pos_of_ne_nil (List.splitOn_ne_nil '/' suffix)
      rw [List.length_append, List.length_singleton] at hlength
      omega
    · have hkept : ∀ seg ∈ suffix.splitOn '/', keeps seg = true := fun seg hseg =>
        (List.mem_filter.mp (hsegs ▸ List.mem_append_right _ hseg)).2
      rw [List.filter_eq_self.mpr hkept]
      exact List.splitOn_ne_nil '/' suffix

/-- **What a wildcard pattern covers**: requests whose path extends the path of its prefix. -/
theorem matchesPattern_wildcard (hstem : normalize pattern.str.toList = stem ++ ['/', '*'])
    (h : resource.matchesPattern pattern = true) :
    ∃ suffix, normalize resource.str.toList = stem ++ '/' :: suffix ∧
      resolve resource.str.toList =
        resolve (stem ++ ['/']) ++ (suffix.splitOn '/').filter keeps := by
  rw [matchesPattern, hstem, normMatches_wildcard] at h
  obtain ⟨suffix, hresource, hsuffix⟩ := h
  rw [List.append_assoc, List.singleton_append] at hresource
  refine ⟨suffix, hresource, ?_⟩
  rw [← resolve_normalize, hresource, resolve_append_sep, resolve_append_slash]
  exact foldl_resolveSegment_of_noTraversal (noTraversal_iff.mp hsuffix) _

/-- **Matching is sound against traversal**: normalising is idempotent; a pattern without a wildcard
covers just the resources of its own normal form; and the path of a request that a wildcard pattern
covers is the path of the pattern's prefix, extended, properly so when the prefix has a scheme and a
path. -/
theorem matchesPattern_sound (resource pattern : ResourceId) :
    normalize (normalize resource.str.toList) = normalize resource.str.toList ∧
      (['/', '*'].isSuffixOf (normalize pattern.str.toList) = false →
        (resource.matchesPattern pattern = true ↔
          normalize resource.str.toList = normalize pattern.str.toList)) ∧
      ∀ stem, normalize pattern.str.toList = stem ++ ['/', '*'] →
        resource.matchesPattern pattern = true →
        ∃ rest, resolve resource.str.toList = resolve (stem ++ ['/']) ++ rest ∧
          ((splitScheme stem).isSome = true → rest ≠ []) := by
  refine ⟨normalize_normalize _, fun hliteral => normMatches_literal hliteral,
    fun stem hstem h => ?_⟩
  obtain ⟨suffix, hresource, hpath⟩ := matchesPattern_wildcard hstem h
  exact ⟨_, hpath, fun hscheme => resolve_suffix_ne_nil hscheme hresource⟩

theorem matchesPattern_sound_photo :
    ∃ rest, rest ≠ [] ∧ resolve "localhost://photos/.//2024/a.jpg".toList =
      resolve "localhost://photos/".toList ++ rest := by
  obtain ⟨-, -, hwildcard⟩ := matchesPattern_sound ⟨"localhost://photos/.//2024/a.jpg"⟩
    ⟨"localhost://photos/*"⟩
  obtain ⟨rest, hpath, hproper⟩ := hwildcard "localhost://photos".toList (by decide) (by decide)
  exact ⟨rest, hproper (by decide), hpath⟩

/-- The root of a scheme is covered by the scheme's wildcard, and a text without a scheme by the
wildcard behind it: both are at the prefix, not beneath it. -/
theorem prefix_itself_covered :
    (⟨"elastos://"⟩ : ResourceId).matchesPattern ⟨"elastos://*"⟩ = true ∧
      normalize "elastos://*".toList = "elastos:/".toList ++ ['/', '*'] ∧
      resolve "elastos://".toList = resolve ("elastos:/".toList ++ ['/']) ∧
      (⟨"docs/./"⟩ : ResourceId).matchesPattern ⟨"docs/*"⟩ = true ∧
      normalize "docs/*".toList = "docs".toList ++ ['/', '*'] ∧
      resolve "docs/./".toList = resolve ("docs".toList ++ ['/']) ∧
      noTraversal "elastos://*".toList = true ∧ noTraversal "docs/*".toList = true := by
  decide

end

end ElastosRuntime.ResourceId
