/-
# Listed paths

`list_path` tells of every entry of a directory and writes a path for it: the URI of the public
root, the directory as the caller spelled it, and the entry's name (`elastos-namespace/src/store.rs`).
Reading that path again takes the root off, trims blanks and slashes, and splits what is left.

* For a directory that is not spelled as a URI the path leads back to the entry, unless the name is
  empty or ends in a blank (`pathComponents_fullPath_iff`).
* A directory that is spelled as a URI keeps its own root inside of the new path, which is longer
  than the way to the entry then (`pathComponents_fullPath_ne`).
* `listPath_leads_back_iff` is both, for whole listings; their paths are always different.
-/
import ElastosRuntime.Namespace.Laws

namespace ElastosRuntime.StampedNamespace

open NamespaceStore (ContentId NamespaceError)
open NamespaceStore.Namespace (pathComponents)
open NamespaceEntry Text
open Localhost (parseLocalhostUri parseLocalhostPath)

/-! ## 1. Listing -/

def LOCAL_NAMESPACE_ROOT_URI : String := "localhost://Public"

structure EntryInfo where
  name : String
  path : String
  entryType : String
  cid : Option ContentId
  size : UInt64
  contentType : Option String
  modifiedAt : UInt64
  cached : Bool

/-- The path that is written for an entry of a directory. -/
def fullPath (path name : String) : String :=
  if path = "" ∨ path = "/" then LOCAL_NAMESPACE_ROOT_URI ++ "/" ++ name
  else LOCAL_NAMESPACE_ROOT_URI ++ "/" ++ trimMatches path '/' ++ "/" ++ name

/-- What is told of an entry. Directories are always cached. -/
def entryInfo (isCached : ContentId → Bool) (path name : String) : NamespaceEntry → EntryInfo
  | .file cid size contentType modifiedAt =>
    { name, path := fullPath path name, entryType := "file", cid := some cid, size, contentType,
      modifiedAt := modifiedAt.unixSecs.toUInt64, cached := isCached cid }
  | .directory children modifiedAt =>
    { name, path := fullPath path name, entryType := "directory", cid := none,
      size := (NamespaceEntry.directory children modifiedAt).size, contentType := none,
      modifiedAt := modifiedAt.unixSecs.toUInt64, cached := true }

namespace Namespace

def list (ns : Namespace) (path : String) :
    Except NamespaceError (List (String × NamespaceEntry)) :=
  match ns.resolve path with
  | none => .error (.notFound path)
  | some (.directory children _) => .ok children
  | some (.file ..) => .error (.notADirectory path)

/-- `list_path` of the store, on the namespace it has loaded. -/
def listPath (ns : Namespace) (isCached : ContentId → Bool) (path : String) :
    Except NamespaceError (List EntryInfo) := do
  let entries ← ns.list path
  .ok (entries.map fun entry => entryInfo isCached path entry.1 entry.2)

/-- The names in a directory. -/
def childNames (ns : Namespace) (path : String) : List String :=
  match ns.resolve path with
  | some (.directory children _) => children.map Prod.fst
  | _ => []

end Namespace

@[simp] theorem entryInfo_name (isCached : ContentId → Bool) (path name : String)
    (entry : NamespaceEntry) : (entryInfo isCached path name entry).name = name := by
  cases entry <;> rfl

@[simp] theorem entryInfo_path (isCached : ContentId → Bool) (path name : String)
    (entry : NamespaceEntry) : (entryInfo isCached path name entry).path = fullPath path name := by
  cases entry <;> rfl

/-! ## 2. Reading a URI of the public root -/

/-- What is read behind the public root. -/
def publicRest (chars : List Char) : List Char := (trimEnd '/' chars).dropWhile (· == '/')

/-- The pieces of a text, none of an empty one. -/
def pieces (chars : List Char) : List String :=
  if chars = [] then [] else (chars.splitOn '/').map String.ofList

theorem pathComponents_eq (path : String) :
    pathComponents path = pieces (NamespaceStore.Namespace.normalizePath path).toList := by
  unfold NamespaceStore.Namespace.pathComponents
  generalize NamespaceStore.Namespace.normalizePath path = normal
  by_cases h : normal = ""
  · simp [pieces, h]
  · simp [pieces, h, Text.split]

/-- A slash in front stays as long as anything does. -/
theorem trimEnd_slash_cons (chars : List Char) : trimEnd '/' ('/' :: chars) =
    if trimEnd '/' chars = [] then [] else '/' :: trimEnd '/' chars := by
  have hblank : ('/' :: chars).rdropWhile isWhitespace = '/' :: chars.rdropWhile isWhitespace :=
    rdropWhile_append_cons (l := []) (by decide) chars
  rw [trimEnd, trimEnd, hblank]
  split
  · next hnil =>
    rw [List.rdropWhile_eq_nil_iff] at hnil ⊢
    simpa using hnil
  · next hkept => exact rdropWhile_append_of_ne_nil (l := ['/']) hkept

theorem parseLocalhostUri_public (rest : String) :
    parseLocalhostUri ("localhost://Public/" ++ rest) =
      some ("Public", String.ofList (trimEnd '/' rest.toList)) := by
  have hstrip : stripPrefix ("localhost://Public/" ++ rest) "localhost://" =
      some ("Public/" ++ rest) := by
    refine stripPrefix_eq_some_iff.mpr ?_
    rw [← String.append_assoc]
    rfl
  rw [parseLocalhostUri, hstrip, Option.bind_eq_bind, Option.bind_some]
  refine Localhost.parseLocalhostPath_eq_some.mpr ⟨by decide, '/' :: rest.toList,
    ⟨[], ⟨[], [], rfl, by simp, by simp⟩, ?_, .inl ⟨_, rfl⟩⟩, ?_⟩
  · rw [String.toList_append]
    rfl
  · rw [trimEnd_slash_cons]
    split
    · next hnil => rw [hnil, List.drop_nil]
    · rw [List.drop_one, List.tail_cons]

/-- Trimming at both ends, of a text that is trimmed at its end. -/
theorem rdropWhile_dropWhile_rdropWhile (p : Char → Bool) (chars : List Char) :
    ((chars.rdropWhile p).dropWhile p).rdropWhile p = (chars.rdropWhile p).dropWhile p := by
  rw [List.rdropWhile_eq_self_iff]
  intro hne
  have hwhole : chars.rdropWhile p ≠ [] := fun h => hne (by rw [h, List.dropWhile_nil])
  have hlast : ((chars.rdropWhile p).dropWhile p).getLast hne =
      (chars.rdropWhile p).getLast hwhole := (List.dropWhile_suffix p).getLast hne
  rw [hlast]
  exact List.rdropWhile_last_not p chars hwhole

/-- **What a URI of the public root is read as.** -/
theorem pathComponents_public (rest : String) :
    pathComponents ("localhost://Public/" ++ rest) = pieces (publicRest rest.toList) := by
  rw [pathComponents_eq, NamespaceStore.Namespace.normalizePath, parseLocalhostUri_public]
  dsimp only
  rw [trimMatches, trimEndMatches, trimStartMatches, String.toList_ofList, String.toList_ofList,
    String.toList_ofList]
  exact congrArg pieces (rdropWhile_dropWhile_rdropWhile _ _)

theorem publicRest_slash_cons (chars : List Char) :
    publicRest ('/' :: chars) = publicRest chars := by
  rw [publicRest, publicRest, trimEnd_slash_cons]
  split
  · next hnil => rw [hnil]
  · rw [List.dropWhile_cons_of_pos (by decide)]

theorem publicRest_eq_trimEnd {chars : List Char} (hhead : chars.head? ≠ some '/') :
    publicRest chars = trimEnd '/' chars := by
  obtain ⟨after, hafter⟩ := trimEnd_prefix '/' chars
  rw [publicRest]
  cases htrim : trimEnd '/' chars with
  | nil => rfl
  | cons x kept =>
    rw [← hafter, htrim, List.cons_append, List.head?_cons, ne_eq, Option.some.injEq] at hhead
    exact List.dropWhile_cons_of_neg (by simpa using hhead)

/-! ## 3. A directory that is no URI -/

/-- The way to a directory, with a name behind it. -/
def joined (way name : List Char) : List Char := if way = [] then name else way ++ '/' :: name

/-- A name that can be read back. -/
def PlainName (name : String) : Prop :=
  name ≠ "" ∧ '/' ∉ name.toList ∧ ∀ c ∈ name.toList.getLast?, isWhitespace c = false

theorem pieces_injective : Function.Injective pieces := by
  intro chars others h
  unfold pieces at h
  have hnonempty (chars : List Char) : (chars.splitOn '/').map String.ofList ≠ [] := by
    simp [List.splitOn_ne_nil]
  split at h <;> split at h
  · next hnil hothers => rw [hnil, hothers]
  · exact absurd h.symm (hnonempty others)
  · exact absurd h (hnonempty chars)
  · have htexts : Text.split (String.ofList chars) '/' = Text.split (String.ofList others) '/' := by
      simpa only [Text.split, String.toList_ofList] using h
    exact String.ofList_inj.mp (split_injective '/' htexts)

section

variable {path name : String} {way : List Char}

theorem pieces_joined (hname : '/' ∉ name.toList) (hne : name ≠ "") :
    pieces (joined way name.toList) = pieces way ++ [name] := by
  have hnil : name.toList ≠ [] := fun h => hne (String.toList_eq_nil_iff.mp h)
  by_cases hway : way = []
  · simp [pieces, joined, hway, hne, splitOn_of_notMem hname]
  · simp [pieces, joined, hway, splitOn_append_separator, splitOn_of_notMem hname]

theorem head?_joined (hway : way.head? ≠ some '/') (hname : '/' ∉ name.toList) :
    (joined way name.toList).head? ≠ some '/' := by
  unfold joined
  split
  · exact fun h => hname (List.mem_of_head? h)
  · next hne => rwa [List.head?_append_of_ne_nil _ hne]

theorem getLast?_joined (hne : name ≠ "") :
    (joined way name.toList).getLast? = name.toList.getLast? := by
  have hnil : name.toList ≠ [] := fun h => hne (String.toList_eq_nil_iff.mp h)
  unfold joined
  split
  · rfl
  · rw [List.getLast?_append_of_ne_nil _ (List.cons_ne_nil _ _), List.getLast?_cons_of_ne_nil hnil]

/-- Nothing is trimmed off a text that ends in neither a blank nor a slash. -/
theorem trimEnd_eq_self_iff {chars : List Char} (hslash : chars.getLast? ≠ some '/') :
    trimEnd '/' chars = chars ↔ ∀ c ∈ chars.getLast?, isWhitespace c = false := by
  have hkeeps (p : Char → Bool) : chars.rdropWhile p = chars ↔
      ∀ c ∈ chars.getLast?, p c = false := by
    rw [List.rdropWhile_eq_self_iff]
    constructor
    · intro h c hc
      have hne : chars ≠ [] := by
        rintro rfl
        cases hc
      rw [List.getLast?_eq_some_getLast hne, Option.mem_some] at hc
      subst hc
      simpa using h hne
    · intro h hne
      simpa using h _ (List.getLast?_eq_some_getLast hne)
  constructor
  · intro h
    have hblank : chars.rdropWhile isWhitespace <+: chars := List.rdropWhile_prefix _ _
    have hback : chars <+: chars.rdropWhile isWhitespace := by
      have htrim := List.rdropWhile_prefix (· == '/') (chars.rdropWhile isWhitespace)
      rwa [← trimEnd, h] at htrim
    exact (hkeeps _).mp (hblank.eq_of_length (le_antisymm hblank.length_le hback.length_le))
  · intro h
    rw [trimEnd, (hkeeps _).mpr h, (hkeeps _).mpr]
    intro c hc
    refine beq_eq_false_iff_ne.mpr ?_
    rintro rfl
    exact hslash hc

/-- What stands behind the public root in the path of an entry. -/
def behindRoot (path name : String) : String :=
  if path = "" ∨ path = "/" then name else trimMatches path '/' ++ "/" ++ name

theorem pathComponents_fullPath (path name : String) :
    pathComponents (fullPath path name) = pieces (publicRest (behindRoot path name).toList) := by
  rw [← pathComponents_public]
  unfold fullPath behindRoot
  split
  · rfl
  · rw [String.append_assoc, String.append_assoc, String.append_assoc, String.append_assoc]
    rfl

theorem publicRest_behindRoot (path name : String) :
    publicRest (behindRoot path name).toList =
      publicRest (joined (trimMatches path '/').toList name.toList) := by
  unfold behindRoot joined
  split
  · next hroot =>
    have hnil : (trimMatches path '/').toList = [] := by
      rcases hroot with rfl | rfl <;> decide
    rw [if_pos hnil]
  · rw [String.toList_append, String.toList_append]
    split
    · next hnil =>
      rw [hnil]
      exact publicRest_slash_cons name.toList
    · rw [List.append_assoc]
      rfl

/-- The last component of a path is no empty one. -/
theorem getLast?_pathComponents (path : String) : (pathComponents path).getLast? ≠ some "" := by
  rw [pathComponents_eq]
  unfold pieces
  split
  · simp
  · next hne =>
    intro hlast
    rw [List.getLast?_map, Option.map_eq_some_iff] at hlast
    obtain ⟨piece, hpiece, hempty⟩ := hlast
    rw [String.ofList_eq_empty_iff.mp hempty] at hpiece
    exact getLast?_splitOn hne (getLast?_trimMatches _ '/') hpiece

/-- **When a listed path leads back**: exactly if the name is not empty, has no slash and does not
end in a blank. -/
theorem pathComponents_fullPath_iff (huri : parseLocalhostUri path = none) :
    pathComponents (fullPath path name) = pathComponents path ++ [name] ↔ PlainName name := by
  set way := (trimMatches path '/').toList with hway
  have hdirectory : pathComponents path = pieces way := by
    rw [pathComponents_eq, NamespaceStore.Namespace.normalizePath, huri]
  have hhead : way.head? ≠ some '/' := head?_trimMatches path '/'
  rw [pathComponents_fullPath, publicRest_behindRoot, ← hway]
  -- what both sides come to for a name that is a piece
  have hpiece (hname : '/' ∉ name.toList) (hne : name ≠ "") :
      pieces (publicRest (joined way name.toList)) = pieces way ++ [name] ↔
        ∀ c ∈ name.toList.getLast?, isWhitespace c = false := by
    have hlast : (joined way name.toList).getLast? = name.toList.getLast? := getLast?_joined hne
    have hslash : (joined way name.toList).getLast? ≠ some '/' := by
      rw [hlast]
      exact fun h => hname (List.mem_of_getLast? h)
    rw [publicRest_eq_trimEnd (head?_joined hhead hname), ← pieces_joined hname hne,
      pieces_injective.eq_iff, trimEnd_eq_self_iff hslash, hlast]
  constructor
  · intro h
    have hfull : pathComponents (fullPath path name) = pathComponents path ++ [name] := by
      rw [pathComponents_fullPath, publicRest_behindRoot, ← hway]
      exact h
    have hmem : name ∈ pathComponents (fullPath path name) := by
      rw [hfull]
      exact List.mem_append_right _ List.mem_cons_self
    have hname : '/' ∉ name.toList := Namespace.notMem_of_mem_pathComponents hmem
    have hne : name ≠ "" := by
      rintro rfl
      exact getLast?_pathComponents _ (by rw [hfull, List.getLast?_concat])
    rw [hdirectory] at h
    exact ⟨hne, hname, (hpiece hname hne).mp h⟩
  · rintro ⟨hne, hname, hlast⟩
    rw [hdirectory]
    exact (hpiece hname hne).mpr hlast

/-! ## 4. A directory that is a URI -/

theorem length_pieces {chars : List Char} (hne : chars ≠ []) :
    (pieces chars).length = chars.count '/' + 1 := by
  rw [pieces, if_neg hne, List.length_map, length_splitOn]

theorem length_pieces_le (chars : List Char) : (pieces chars).length ≤ chars.count '/' + 1 := by
  by_cases hne : chars = []
  · simp [pieces, hne]
  · exact (length_pieces hne).le

/-- **A directory's URI has more slashes than the way to it**, also when its end is trimmed. -/
theorem length_pathComponents_uri {root rest : String}
    (huri : parseLocalhostUri path = some (root, rest)) :
    (pathComponents path).length + 2 ≤ (trimMatches path '/').toList.count '/' ∧
      (trimMatches path '/').toList.head? = some 'l' := by
  rw [parseLocalhostUri, Option.bind_eq_bind, Option.bind_eq_some_iff] at huri
  obtain ⟨body, hbody, hparse⟩ := huri
  obtain ⟨hroot, after, ⟨before, -, hchars, hbehind⟩, rfl⟩ :=
    Localhost.parseLocalhostPath_eq_some.mp hparse
  have hfirm := Localhost.firm_of_mem_allRoots hroot
  have hpath : path.toList = "localhost://".toList ++ body.toList := by
    rw [stripPrefix_eq_some_iff.mp hbody, String.toList_append]
  -- the spelling of the directory, trimmed
  have htrimmed : (trimMatches path '/').toList = "localhost://".toList ++ before ++ root.toList ++
      after.rdropWhile (· == '/') := by
    have hstart : path.toList.dropWhile (· == '/') = path.toList := by
      rw [hpath]
      rfl
    have hother : ∀ x ∈ root.toList, (x == '/') = false := fun x hx =>
      beq_eq_false_iff_ne.mpr fun h => hfirm.single (h ▸ hx)
    rw [trimMatches, trimEndMatches, trimStartMatches, hstart, String.toList_ofList,
      String.toList_ofList, hpath, hchars, ← List.append_assoc, ← List.append_assoc]
    exact rdropWhile_append_name hfirm.ne_nil hother
  -- what the reading keeps of its end is kept there too
  have hkept : trimEnd '/' after <+: after.rdropWhile (· == '/') := by
    have hbegin : trimEnd '/' after <+: after := trimEnd_prefix '/' after
    refine prefix_rdropWhile hbegin fun x hx => ?_
    have hne : trimEnd '/' after ≠ [] := by
      intro hnil
      rw [hnil] at hx
      cases hx
    rw [List.getLast?_eq_some_getLast hne, Option.mem_some] at hx
    rw [← hx]
    exact Bool.eq_false_iff.mpr (List.rdropWhile_last_not (· == '/') _ hne)
  have hcount : (trimEnd '/' after).count '/' ≤ (after.rdropWhile (· == '/')).count '/' :=
    hkept.sublist.count_le '/'
  have hcomponents : (pathComponents path).length ≤ (trimEnd '/' after).count '/' := by
    have huri : parseLocalhostUri path =
        some (root, String.ofList ((trimEnd '/' after).drop 1)) := by
      rw [parseLocalhostUri, hbody, Option.bind_eq_bind, Option.bind_some, hparse]
    rw [pathComponents_eq, NamespaceStore.Namespace.normalizePath, huri]
    dsimp only
    rcases behind_iff.mp hbehind with hnil | ⟨tail, htail⟩
    · rw [hnil]
      simp [trimMatches, trimEndMatches, trimStartMatches, pieces]
    · rw [htail, List.drop_one, List.tail_cons, List.count_cons_self]
      refine (length_pieces_le _).trans (Nat.add_le_add_right ?_ 1)
      rw [trimMatches, trimEndMatches, trimStartMatches, String.toList_ofList,
        String.toList_ofList, String.toList_ofList]
      exact ((List.rdropWhile_prefix _ _).sublist.trans (List.dropWhile_sublist _)).count_le '/'
  constructor
  · rw [htrimmed, List.count_append, List.count_append, List.count_append]
    have hslashes : "localhost://".toList.count '/' = 2 := by decide
    omega
  · rw [htrimmed]
    rfl

/-- **A directory that is spelled as a URI is not led back to.** -/
theorem pathComponents_fullPath_ne (huri : (parseLocalhostUri path).isSome) :
    pathComponents (fullPath path name) ≠ pathComponents path ++ [name] := by
  obtain ⟨⟨root, rest⟩, huri⟩ := Option.isSome_iff_exists.mp huri
  obtain ⟨hlength, hhead⟩ := length_pathComponents_uri huri
  intro h
  set way := (trimMatches path '/').toList with hway
  have hne : way ≠ [] := by
    intro hnil
    rw [hnil] at hhead
    cases hhead
  have hlast : way.getLast? ≠ some '/' := getLast?_trimMatches path '/'
  have hkeep : way <+: trimEnd '/' (way ++ '/' :: name.toList) := by
    obtain ⟨front, x, hfront⟩ := (List.eq_nil_or_concat way).resolve_left hne
    rw [List.concat_eq_append] at hfront
    have hx : (x == '/') = false := by
      rw [hfront, List.getLast?_concat, ne_eq, Option.some.injEq] at hlast
      exact beq_eq_false_iff_ne.mpr hlast
    rw [trimEnd, rdropWhile_append_cons (by decide), hfront, List.append_assoc,
      List.singleton_append, rdropWhile_append_cons (p := (· == '/')) hx]
    exact ⟨_, by rw [List.append_assoc, List.singleton_append]⟩
  have hstart : (way ++ '/' :: name.toList).head? ≠ some '/' := by
    rw [List.head?_append_of_ne_nil _ hne, hhead]
    decide
  rw [pathComponents_fullPath, publicRest_behindRoot, ← hway, joined, if_neg hne,
    publicRest_eq_trimEnd hstart] at h
  have hcount := hkeep.sublist.count_le '/'
  have hpieces := length_pieces (hkeep.ne_nil hne)
  rw [h, List.length_append, List.length_singleton] at hpieces
  omega

end

/-! ## 5. Whole listings -/

section

variable {ns : Namespace} {isCached : ContentId → Bool} {path : String} {infos : List EntryInfo}

/-- `list_path` succeeds on the directories, and tells of every child. -/
theorem listPath_eq_ok_iff : ns.listPath isCached path = .ok infos ↔
    ∃ children modifiedAt, ns.resolve path = some (.directory children modifiedAt) ∧
      infos = children.map fun child => entryInfo isCached path child.1 child.2 := by
  unfold Namespace.listPath Namespace.list
  cases hresolve : ns.resolve path with
  | none =>
    constructor
    · intro h
      cases h
    · rintro ⟨children, modifiedAt, hchildren, -⟩
      cases hchildren
  | some entry =>
    cases entry with
    | file cid size contentType modifiedAt =>
      constructor
      · intro h
        cases h
      · rintro ⟨children, modifiedAt, hchildren, -⟩
        cases hchildren
    | directory children modifiedAt =>
      constructor
      · intro h
        exact ⟨children, modifiedAt, rfl, (Except.ok.inj h).symm⟩
      · rintro ⟨others, stamp, hothers, rfl⟩
        cases hothers
        rfl

/-- What is found in a namespace is ordered as the namespace is. -/
theorem NamespaceEntry.Ordered.resolveFrom {current found : NamespaceEntry} (h : current.Ordered)
    {way : List String} (hfound : current.resolveFrom way = some found) : found.Ordered := by
  induction way generalizing current with
  | nil =>
    rw [resolveFrom_nil, Option.some.injEq] at hfound
    exact hfound ▸ h
  | cons component rest ih =>
    cases current with
    | file => cases hfound
    | directory children modifiedAt =>
      rw [resolveFrom_directory_cons, Option.bind_eq_some_iff] at hfound
      obtain ⟨child, hchild, hfound⟩ := hfound
      exact ih (h.get? hchild) hfound

/-- The path of an entry differs from those of the others in the directory. -/
theorem fullPath_injective (path : String) : Function.Injective (fullPath path) := by
  intro name other h
  unfold fullPath at h
  split at h <;> exact String.append_right_inj _ |>.mp h

/-- An entry that is listed is where its directory and its name say. -/
theorem resolve_of_components {children : List (String × NamespaceEntry)}
    {modifiedAt : SecureTimestamp} {name : String} {entry : NamespaceEntry} {full : String}
    (hdirectory : ns.resolve path = some (.directory children modifiedAt))
    (hentry : (name, entry) ∈ children)
    (hfull : pathComponents full = pathComponents path ++ [name]) :
    ns.resolve full = some entry := by
  have hordered := NamespaceEntry.Ordered.resolveFrom ns.root.2 hdirectory
  rw [Namespace.resolve, hfull, resolveFrom_append]
  rw [Namespace.resolve] at hdirectory
  rw [hdirectory, Option.bind_some, resolveFrom_directory_cons,
    OrderedMap.get?_of_mem hordered.ascending hentry, Option.bind_some, resolveFrom_nil]

/-- **Listed paths lead back**, each to its entry at its place, and are different from each other,
exactly if the directory is empty or not spelled as a URI, and every name in it can be read back. -/
theorem listPath_leads_back_iff (h : ns.listPath isCached path = .ok infos) :
    ((∀ info ∈ infos, ∃ entry, info = entryInfo isCached path info.name entry ∧
        pathComponents info.path = pathComponents path ++ [info.name] ∧
        ns.resolve info.path = some entry) ∧
      infos.Pairwise fun info other => info.path ≠ other.path) ↔
    (ns.childNames path = [] ∨ parseLocalhostUri path = none) ∧
      ∀ name ∈ ns.childNames path, PlainName name := by
  obtain ⟨children, modifiedAt, hdirectory, rfl⟩ := listPath_eq_ok_iff.mp h
  have hnames : ns.childNames path = children.map Prod.fst := by
    rw [Namespace.childNames, hdirectory]
  rw [hnames]
  constructor
  · rintro ⟨hback, -⟩
    have hcomponents (child : String × NamespaceEntry) (hchild : child ∈ children) :
        pathComponents (fullPath path child.1) = pathComponents path ++ [child.1] := by
      obtain ⟨-, -, hcomponents, -⟩ := hback _ (List.mem_map_of_mem hchild)
      rwa [entryInfo_path, entryInfo_name] at hcomponents
    have huri : children = [] ∨ parseLocalhostUri path = none := by
      rcases List.eq_nil_or_concat children with hnil | ⟨front, child, hconcat⟩
      · exact .inl hnil
      · refine .inr (Option.not_isSome_iff_eq_none.mp fun huri => ?_)
        exact pathComponents_fullPath_ne huri (hcomponents child (by simp [hconcat]))
    refine ⟨huri.imp_left fun hnil => by rw [hnil, List.map_nil], fun name hname => ?_⟩
    obtain ⟨child, hchild, rfl⟩ := List.mem_map.mp hname
    rcases huri with hnil | huri
    · rw [hnil] at hchild
      cases hchild
    · exact (pathComponents_fullPath_iff huri).mp (hcomponents child hchild)
  · rintro ⟨huri, hplain⟩
    refine ⟨fun info hinfo => ?_, ?_⟩
    · obtain ⟨child, hchild, rfl⟩ := List.mem_map.mp hinfo
      have huri : parseLocalhostUri path = none := by
        refine huri.resolve_left fun hnil => ?_
        rw [List.map_eq_nil_iff.mp hnil] at hchild
        cases hchild
      have hcomponents := (pathComponents_fullPath_iff huri).mpr
        (hplain child.1 (List.mem_map_of_mem hchild))
      refine ⟨child.2, by rw [entryInfo_name], ?_, ?_⟩
      · rw [entryInfo_path, entryInfo_name]
        exact hcomponents
      · rw [entryInfo_path]
        exact resolve_of_components hdirectory hchild hcomponents
    · have hordered := NamespaceEntry.Ordered.resolveFrom ns.root.2 hdirectory
      rw [List.pairwise_map]
      refine hordered.ascending.imp fun hless hsame => ?_
      rw [entryInfo_path, entryInfo_path] at hsame
      exact absurd (fullPath_injective path hsame) (ne_of_lt hless)

end

namespace Sample

def stamp : SecureTimestamp := ⟨0, 0⟩

def note : NamespaceEntry := .file ⟨"cid"⟩ 3 none stamp

def docs : NamespaceEntry := .directory [("note", note)] stamp

def home : Namespace where
  version := 1
  owner := "owner"
  root := ⟨.directory [("docs", docs)] stamp, by
    refine .directory stamp (List.pairwise_singleton _ _) fun child hchild => ?_
    rw [List.mem_singleton.mp hchild]
    refine .directory stamp (List.pairwise_singleton _ _) fun child hchild => ?_
    rw [List.mem_singleton.mp hchild]
    exact .file ⟨"cid"⟩ 3 none stamp⟩
  createdAt := stamp
  modifiedAt := stamp
  signature := none

/-- **A URI is put behind the root once more**: the file that is listed is not found where the
listing says. -/
theorem uri_listing_lost :
    (∃ infos, home.listPath (fun _ => true) "localhost://Public/docs" = .ok infos ∧
      infos.map EntryInfo.path = ["localhost://Public/localhost://Public/docs/note"]) ∧
    home.resolve "localhost://Public/localhost://Public/docs/note" = none := by
  have hdocs : pathComponents "localhost://Public/docs" = ["docs"] :=
    (pathComponents_public "docs").trans (by decide)
  have hlost : pathComponents "localhost://Public/localhost://Public/docs/note" =
      ["localhost:", "", "Public", "docs", "note"] :=
    (pathComponents_public "localhost://Public/docs/note").trans (by decide)
  constructor
  · refine ⟨_, listPath_eq_ok_iff.mpr ⟨[("note", note)], stamp, ?_, rfl⟩, by decide⟩
    rw [Namespace.resolve, hdocs]
    rfl
  · rw [Namespace.resolve, hlost]
    rfl

theorem plain_listing_found :
    home.resolve (fullPath "/docs/" "note") = some note := by
  have hdocs : pathComponents "/docs/" = ["docs"] := (pathComponents_eq _).trans (by decide)
  have hlisted : home.listPath (fun _ => true) "/docs/" =
      .ok [entryInfo (fun _ => true) "/docs/" "note" note] := by
    refine listPath_eq_ok_iff.mpr ⟨[("note", note)], stamp, ?_, rfl⟩
    rw [Namespace.resolve, hdocs]
    rfl
  have hnames : home.childNames "/docs/" = ["note"] := by
    rw [Namespace.childNames, Namespace.resolve, hdocs]
    rfl
  have hplain : PlainName "note" := by
    refine ⟨by decide, by decide, fun c hc => ?_⟩
    rw [← Option.mem_some.mp hc]
    decide
  obtain ⟨hback, -⟩ := (listPath_leads_back_iff hlisted).mpr
    ⟨.inr (by decide), by simpa [hnames] using hplain⟩
  obtain ⟨-, -, hcomponents, -⟩ := hback _ List.mem_cons_self
  rw [entryInfo_path, entryInfo_name, hdocs] at hcomponents
  rw [Namespace.resolve, hcomponents]
  rfl

end Sample

end ElastosRuntime.StampedNamespace
