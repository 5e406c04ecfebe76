/-
# The roots of localhost

`localhost.rs`: which roots there are, how a path or a URI is read, and which file of the base
directory it stands for.  A directory is the list of its components.

`rooted_localhost_fs_path` reads a path through blanks and repeated slashes;
`is_runtime_system_service_resource` compares it letter by letter.  `reads_root_iff` says what
reading a path comes to, and `rootedLocalhostFsPath_eq_some` which files can be reached.
-/
import ElastosRuntime.Lib.Segments

namespace ElastosRuntime.Localhost

open Text

/-! ## 1. Reading a path -/

def FILE_BACKED_ROOTS : List String :=
  ["AppCapsules", "ElastOS", "Local", "MyWebSite", "Public", "Users", "UsersAI"]

def ALL_ROOTS : List String :=
  ["AppCapsules", "ElastOS", "Local", "MyWebSite", "Public", "Users", "UsersAI", "WebSpaces"]

def isRuntimeSystemServiceResource (uri : String) : Bool :=
  match stripPrefix uri "localhost://" with
  | some rest =>
    rest == "ElastOS/SystemServices" || startsWith rest "ElastOS/SystemServices/"
  | none => false

def parseLocalhostPath (path : String) : Option (String × String) :=
  let trimmed := trimEndMatches (trimStartMatches (trim path) '/') '/'
  if trimmed = "" then none
  else
    match splitOnce trimmed '/' with
    | some (root, remainder) => if root ∈ ALL_ROOTS then some (root, remainder) else none
    | none => if trimmed ∈ ALL_ROOTS then some (trimmed, "") else none

def parseLocalhostUri (uri : String) : Option (String × String) := do
  let rest ← stripPrefix uri "localhost://"
  parseLocalhostPath rest

/-- What `rooted_localhost_uri` makes of a root and what stands behind it. -/
def localhostUri (root rest : String) : String :=
  if rest = "" then "localhost://" ++ root else "localhost://" ++ root ++ "/" ++ rest

def rootedLocalhostUri (pathOrUri : String) : Option String :=
  match parseLocalhostUri pathOrUri with
  | some (root, rest) => some (localhostUri root rest)
  | none => do
    let (root, rest) ← parseLocalhostPath pathOrUri
    some (localhostUri root rest)

def isFileBackedRoot (root : String) : Bool := root ∈ FILE_BACKED_ROOTS

/-! ## 2. Files -/

/-- The components of a path that is pushed onto another: empty ones and `.` count for nothing. -/
def components (path : String) : List String :=
  (split path '/').filter fun component => component ≠ "" ∧ component ≠ "."

/-- `PathBuf::push` and `Path::join`: a path that begins with a slash replaces the other. -/
def push (path : List String) (part : String) : List String :=
  if startsWith part "/" then components part else path ++ components part

/-- The loop of `rooted_localhost_fs_path` over the segments. -/
def pushSegments (path : List String) : List String → Option (List String)
  | [] => some path
  | segment :: rest =>
    if segment = "" then pushSegments path rest
    else if segment = "." ∨ segment = ".." ∨ segment.toList.contains '\\' then none
    else pushSegments (push path segment) rest

/-- How `rooted_localhost_fs_path` reads its argument. -/
def readPath (pathOrUri : String) : Option (String × String) :=
  if startsWith pathOrUri "localhost://" then parseLocalhostUri pathOrUri
  else parseLocalhostPath pathOrUri

def rootedLocalhostFsPath (baseDir : List String) (pathOrUri : String) : Option (List String) := do
  let (root, rest) ← readPath pathOrUri
  if isFileBackedRoot root then
    if rest = "" then some (push baseDir root)
    else pushSegments (push baseDir root) (split rest '/')
  else none

/-! ## 3. What reading a path comes to -/

theorem toList_trimmed (path : String) :
    (trimEndMatches (trimStartMatches (trim path) '/') '/').toList = strip '/' path.toList := by
  simp only [trimEndMatches, trimStartMatches, trim, String.toList_ofList]
  rfl

theorem firm_of_mem_allRoots {root : String} (h : root ∈ ALL_ROOTS) : Firm '/' root.toList := by
  have hall : ∀ root ∈ ALL_ROOTS, root.toList ≠ [] ∧
      root.toList.any isWhitespace = false ∧ '/' ∉ root.toList := by decide +kernel
  obtain ⟨hne, hsolid, hsingle⟩ := hall root h
  exact ⟨hne, isWhitespace_of_any_eq_false hsolid, hsingle⟩

section

variable {path root rest : String}

/-- How a trimmed path is cut. -/
theorem splitOnce_eq (s : String) (c : Char) :
    (c ∉ s.toList ∧ splitOnce s c = none) ∨ ∃ first rest, c ∉ first ∧
      s.toList = first ++ c :: rest ∧
        splitOnce s c = some (String.ofList first, String.ofList rest) := by
  have hsplit : s.toList.takeWhile (· != c) ++ s.toList.dropWhile (· != c) = s.toList :=
    List.takeWhile_append_dropWhile
  have hfirst : c ∉ s.toList.takeWhile (· != c) := fun h => by
    simpa using List.mem_takeWhile_imp h
  cases hrest : s.toList.dropWhile (· != c) with
  | nil =>
    rw [hrest, List.append_nil] at hsplit
    exact Or.inl ⟨hsplit ▸ hfirst, by rw [splitOnce, hrest]⟩
  | cons x rest =>
    have hx : x = c := by
      have hhead := List.head?_dropWhile_not (· != c) s.toList
      rw [hrest] at hhead
      simpa using hhead
    rw [hrest, hx] at hsplit
    exact Or.inr ⟨_, rest, hfirst, hsplit.symm, by rw [splitOnce, hrest]⟩

/-- **When a path is read as a root with something behind it.** -/
theorem parseLocalhostPath_eq_some : parseLocalhostPath path = some (root, rest) ↔
    root ∈ ALL_ROOTS ∧ ∃ after, Reads '/' path.toList root.toList after ∧
      rest = String.ofList ((trimEnd '/' after).drop 1) := by
  have hslash : isWhitespace '/' = false := by decide
  have htrimmed := toList_trimmed path
  rw [parseLocalhostPath]
  generalize trimEndMatches (trimStartMatches (trim path) '/') '/' = trimmed at htrimmed
  constructor
  · intro h
    split at h
    · cases h
    · rcases splitOnce_eq trimmed '/' with ⟨hnone, hsplit⟩ | ⟨first, tail, hfirst, hcut, hsplit⟩
      · rw [hsplit] at h
        dsimp only at h
        split at h
        · rename_i hroot
          cases h
          obtain ⟨after, hreads, htrim⟩ := reads_of_strip_eq hslash (firm_of_mem_allRoots hroot)
            (Or.inl rfl) (htrimmed.symm.trans (List.append_nil _).symm)
          exact ⟨hroot, after, hreads, by rw [htrim]; rfl⟩
        · cases h
      · rw [hsplit] at h
        dsimp only at h
        split at h
        · rename_i hroot
          cases h
          obtain ⟨after, hreads, htrim⟩ := reads_of_strip_eq hslash (firm_of_mem_allRoots hroot)
            (Or.inr ⟨tail, rfl⟩) (by rw [← htrimmed, hcut, String.toList_ofList])
          exact ⟨hroot, after, hreads, by rw [htrim]; rfl⟩
        · cases h
  · rintro ⟨hroot, after, hreads, rfl⟩
    have hfirm := firm_of_mem_allRoots hroot
    have hstrip := hreads.strip_eq hslash hfirm
    rw [← htrimmed] at hstrip
    have hne : trimmed ≠ "" := by
      rintro rfl
      exact hfirm.ne_nil (List.append_eq_nil_iff.mp hstrip.symm).1
    rw [if_neg hne]
    obtain ⟨before, -, -, hbehind⟩ := hreads
    rcases behind_iff.mp hbehind with htrim | ⟨tail, htrim⟩
    · rw [htrim, List.append_nil] at hstrip
      rw [String.toList_inj.mp hstrip]
      rcases splitOnce_eq root '/' with ⟨-, hsplit⟩ | ⟨first, tail, -, hcut, -⟩
      · rw [hsplit, htrim]
        dsimp only
        rw [if_pos hroot]
        rfl
      · exact absurd (by rw [hcut]; simp) hfirm.single
    · rw [htrim] at hstrip ⊢
      rcases splitOnce_eq trimmed '/' with ⟨hnone, -⟩ | ⟨first, tail', hfirst, hcut, hsplit⟩
      · exact absurd (by rw [hstrip]; simp) hnone
      · have hsame := (splitOn_append_cons hfirst tail').symm.trans
          ((congrArg (·.splitOn '/') (hcut.symm.trans hstrip)).trans
            (splitOn_append_cons hfirm.single tail))
        have hroots : first = root.toList := (List.cons.inj hsame).1
        rw [hroots] at hcut
        have htails := List.append_cancel_left (hcut.symm.trans hstrip)
        rw [hsplit, hroots, String.ofList_toList]
        dsimp only
        rw [if_pos hroot, (List.cons.inj htails).2]
        rfl

end

/-! ## 4. What files can be reached -/

/-- A component that stays beneath the directory it is pushed onto. -/
structure Normal (component : String) : Prop where
  ne_empty : component ≠ ""
  ne_dot : component ≠ "."
  ne_dots : component ≠ ".."
  slash : '/' ∉ component.toList
  backslash : '\\' ∉ component.toList

/-- The components that stand in a path. -/
def pieces (rest : String) : List String := (segments '/' rest.toList).map String.ofList

theorem ofList_eq_empty_iff {chars : List Char} : String.ofList chars = "" ↔ chars = [] := by
  rw [← String.toList_inj, String.toList_ofList]
  rfl

theorem filter_split (rest : String) : (split rest '/').filter (· ≠ "") = pieces rest := by
  rw [split, pieces, segments, List.filter_map]
  congr 1
  refine List.filter_congr fun chars _ => ?_
  simp only [Function.comp_apply, ne_eq, ofList_eq_empty_iff]

theorem notMem_of_mem_split {segment rest : String} (h : segment ∈ split rest '/') :
    '/' ∉ segment.toList := by
  obtain ⟨chars, hchars, rfl⟩ := List.mem_map.mp h
  rw [String.toList_ofList]
  exact notMem_of_mem_splitOn hchars

theorem push_of_normal {component : String} (h : Normal component) (path : List String) :
    push path component = path ++ [component] := by
  have hrelative : startsWith component "/" = false := by
    rw [startsWith, ← Bool.not_eq_true, List.isPrefixOf_iff_prefix]
    rintro ⟨tail, htail⟩
    exact h.slash (htail ▸ List.mem_append_left tail (List.mem_singleton.mpr rfl))
  have hone : components component = [component] := by
    rw [components, split, splitOn_of_notMem h.slash, List.map_singleton,
      String.ofList_toList]
    exact List.filter_cons_of_pos (by simp [h.ne_empty, h.ne_dot])
  rw [push, hrelative, hone]
  rfl

/-- The loop goes through just when all components are normal. -/
theorem pushSegments_eq_some {p : List String} {parts : List String}
    (hparts : ∀ segment ∈ parts, '/' ∉ segment.toList) : ∀ {path : List String},
    pushSegments path parts = some p ↔
      (∀ component ∈ parts.filter (· ≠ ""), Normal component) ∧
        p = path ++ parts.filter (· ≠ "") := by
  induction parts with
  | nil =>
    intro path
    simp [pushSegments, eq_comm]
  | cons segment parts ih =>
    intro path
    have hrest : ∀ segment ∈ parts, '/' ∉ segment.toList := fun other hother =>
      hparts other (List.mem_cons_of_mem _ hother)
    rw [pushSegments]
    split
    · rename_i hempty
      rw [hempty, List.filter_cons_of_neg (by simp)]
      exact ih hrest
    · rename_i hne
      rw [List.filter_cons_of_pos (by simpa using hne)]
      split
      · rename_i hrefused
        refine ⟨fun h => (by cases h), fun h => ?_⟩
        have hnormal := h.1 segment List.mem_cons_self
        rcases hrefused with hdot | hdots | hback
        · exact absurd hdot hnormal.ne_dot
        · exact absurd hdots hnormal.ne_dots
        · exact absurd (List.contains_iff_mem.mp hback) hnormal.backslash
      · rename_i haccepted
        simp only [not_or, List.contains_iff_mem] at haccepted
        have hnormal : Normal segment := ⟨hne, haccepted.1, haccepted.2.1,
          hparts segment List.mem_cons_self, haccepted.2.2⟩
        rw [ih hrest, push_of_normal hnormal, List.append_assoc, List.singleton_append]
        simp only [List.forall_mem_cons, hnormal, true_and]

theorem normal_of_mem_fileBackedRoots {root : String} (h : root ∈ FILE_BACKED_ROOTS) :
    Normal root := by
  have hall : ∀ root ∈ FILE_BACKED_ROOTS, root ≠ "" ∧ root ≠ "." ∧ root ≠ ".." ∧
      '/' ∉ root.toList ∧ '\\' ∉ root.toList := by decide
  obtain ⟨hempty, hdot, hdots, hslash, hback⟩ := hall root h
  exact ⟨hempty, hdot, hdots, hslash, hback⟩

/-- **Which file a path stands for.** -/
theorem rootedLocalhostFsPath_eq_some {base p : List String} {u : String} :
    rootedLocalhostFsPath base u = some p ↔ ∃ root rest, readPath u = some (root, rest) ∧
      root ∈ FILE_BACKED_ROOTS ∧ (∀ component ∈ pieces rest, Normal component) ∧
        p = base ++ root :: pieces rest := by
  have hread : rootedLocalhostFsPath base u = (readPath u).bind fun found =>
      if isFileBackedRoot found.1 then
        if found.2 = "" then some (push base found.1)
        else pushSegments (push base found.1) (split found.2 '/')
      else none := rfl
  rw [hread, Option.bind_eq_some_iff, Prod.exists]
  refine exists_congr fun root => exists_congr fun rest => and_congr_right fun _ => ?_
  by_cases hroot : root ∈ FILE_BACKED_ROOTS
  · rw [isFileBackedRoot, decide_eq_true hroot, if_pos rfl,
      push_of_normal (normal_of_mem_fileBackedRoots hroot)]
    have hloop : (if rest = "" then some (base ++ [root])
        else pushSegments (base ++ [root]) (split rest '/')) =
          pushSegments (base ++ [root]) (split rest '/') := by
      split
      · rename_i hempty
        rw [hempty]
        rfl
      · rfl
    rw [hloop, pushSegments_eq_some fun segment hsegment => notMem_of_mem_split hsegment,
      filter_split, List.append_assoc, List.singleton_append]
    exact ⟨fun h => ⟨hroot, h⟩, fun h => h.2⟩
  · rw [isFileBackedRoot, decide_eq_false hroot]
    exact ⟨fun h => (by cases h), fun h => absurd h.1 hroot⟩

end ElastosRuntime.Localhost
