/-
# The closure of a staged directory

`directory_hash.rs`: before a staged directory is hashed it is opened file by file and held.
`Closure::open` checks the descriptor, goes through the directory and checks what stands there
against it, and looks at everything a second time.

`open_files` says what the files of a closure are: those of the descriptor with the sizes that are
declared, in the order of their paths, whatever the order of the descriptor.
-/
import ElastosRuntime.Lib.Segments
import ElastosRuntime.Lib.Stream
import ElastosRuntime.Contracts.Verification

namespace ElastosRuntime.DirectoryHash

open Contracts (failIf okOr failIf_eq_ok okOr_eq_ok)
open Text
open Streams (Answer Source)

/-! ## 1. Files and directories -/

def MAX_FILES : Nat := 33
def MAX_BYTES : Nat := 16 * 1024 * 1024 * 1024

inductive IoError where
  | invalidData (message : String)
  | timedOut
  /-- What the operating system answers, whatever it is. -/
  | system
deriving DecidableEq, Repr

def invalid (message : String) : IoError := .invalidData message

structure Stamp where
  device : Nat
  inode : Nat
  length : Nat
  mode : UInt32
  uid : UInt32
  links : Nat
  modified : Int × Int
  changed : Int × Int
deriving DecidableEq

inductive FileType where
  | directory
  | regular
  | other
deriving DecidableEq

structure Metadata where
  fileType : FileType
  stamp : Stamp
deriving DecidableEq

/-- What stands in a directory under a name.  Of a file it is what reading it from the start gives,
which need not be as long as its metadata says: it may be written to in the meantime. -/
inductive Node where
  | link
  | directory (metadata : Metadata) (children : List (String × Node))
  | file (metadata : Metadata) (contents : List UInt8) (answers : Nat → Answer)

/-- The user who asks, and the components of the data directory unless it is a relative path. -/
structure Host where
  euid : UInt32
  dataRoot : Option (List String)

def privateDirectory (euid : UInt32) (metadata : Metadata) : Except IoError Unit :=
  failIf (metadata.fileType ≠ .directory ∨ metadata.stamp.uid ≠ euid ∨
    metadata.stamp.mode &&& 0o7777 ≠ 0o700) (invalid "unsafe staged directory")

def privateFile (euid : UInt32) (metadata : Metadata) (size : Nat) : Except IoError Unit :=
  failIf (metadata.fileType ≠ .regular ∨ metadata.stamp.uid ≠ euid ∨
    metadata.stamp.mode &&& 0o7777 ≠ 0o600 ∨ metadata.stamp.links ≠ 1 ∨
    metadata.stamp.length ≠ size) (invalid "unsafe or changed staged file")

/-- `open_at`: no link is followed. -/
def openAt (dir : Node) (name : String) (directory : Bool) : Except IoError Node := do
  failIf ('\x00' ∈ name.toList) (invalid "invalid staged name")
  match dir with
  | .directory _ children =>
    match children.lookup name with
    | some (.directory metadata children) => pure (.directory metadata children)
    | some (.file metadata contents answers) =>
      if directory then throw .system else pure (.file metadata contents answers)
    | some .link | none => throw .system
  | .link | .file .. => throw .system

def Node.metadata : Node → Except IoError Metadata
  | .directory metadata _ | .file metadata _ _ => pure metadata
  | .link => throw .system

/-- An ancestor of the staged directory. -/
def protectedAncestor (host : Host) (current : List String) (metadata : Metadata) :
    Except IoError Unit :=
  let owner := metadata.stamp.uid = 0 ∨ metadata.stamp.uid = host.euid
  let shared := host.dataRoot.any fun boundary => current.isPrefixOf boundary
  let refused := if shared then 0o002 else 0o022
  let guarded := metadata.stamp.mode &&& refused = 0 ∨
    shared ∧ metadata.stamp.uid = 0 ∧ metadata.stamp.mode &&& 0o1000 ≠ 0
  failIf (¬owner ∨ ¬guarded) (invalid "unsafe staged ancestor")

/-- The loop over the components of a path. -/
def openParts (host : Host) : List String → List String → Node → Except IoError Node
  | _, [], dir => pure dir
  | current, name :: rest, dir => do
    let dir ← openAt dir name true
    let metadata ← dir.metadata
    if rest = [] then privateDirectory host.euid metadata
    else protectedAncestor host (current ++ [name]) metadata
    openParts host (current ++ [name]) rest dir

/-- `open_root`, with the root directory of the file system. -/
def openRoot (host : Host) (slash : Node) (path : String) : Except IoError Node := do
  failIf (startsWith path "/" = false ∨ 4096 < byteLength path)
    (invalid "absolute staged root required")
  let parts := split (String.ofList path.toList.tail) '/'
  failIf (64 < parts.length ∨ ∃ part ∈ parts, part = "" ∨ part = "." ∨ part = "..")
    (invalid "invalid staged root")
  openParts host [] parts slash

def isPartChar (c : Char) : Bool := isAsciiAlphanumeric c || c == '.' || c == '_' || c == '-'

def relativeParts (path : String) : Except IoError (List String) := do
  let parts := split path '/'
  failIf (path = "" ∨ 256 < byteLength path ∨ 8 < parts.length ∨
    ∃ part ∈ parts, part = "" ∨ part = "." ∨ part = ".." ∨ all part isPartChar = false)
    (invalid "invalid staged relative path")
  pure parts

/-! ## 2. What is declared -/

structure StagedFile where
  path : String
  size : Nat
deriving DecidableEq

structure StagedDirectory where
  root : String
  files : List StagedFile
  totalBytes : Nat

/-- `u64::checked_add` -/
def checkedAdd (a b : Nat) : Option Nat := if a + b < 2 ^ 64 then some (a + b) else none

/-- What is gathered of the files of a descriptor. -/
structure Declared where
  files : List (String × Nat)
  directories : List String
  total : Nat

/-- The directories above a file. -/
def parentPaths (parts : List String) : List String :=
  (List.range' 1 (parts.length - 1)).map fun depth => "/".intercalate (parts.take depth)

/-- The loop over the files. -/
def Declared.add (declared : Declared) (file : StagedFile) : Except IoError Declared := do
  let parts ← relativeParts file.path
  failIf (MAX_BYTES < file.size ∨ (declared.files.lookup file.path).isSome)
    (invalid "duplicate or oversized staged file")
  let total ← okOr (checkedAdd declared.total file.size) (invalid "staged size overflow")
  pure ⟨declared.files ++ [(file.path, file.size)],
    (parentPaths parts).foldl (fun directories path => directories.insert path)
      declared.directories, total⟩

def REQUIRED_FILES : List String := ["capsule.json", "_elastos_object.json"]

/-- What `Closure::open` checks before it opens anything. -/
def declare (descriptor : StagedDirectory) : Except IoError Declared := do
  failIf (descriptor.files = [] ∨ MAX_FILES < descriptor.files.length ∨
    descriptor.totalBytes = 0 ∨ MAX_BYTES < descriptor.totalBytes) (invalid "staged closure bounds")
  let declared ← descriptor.files.foldlM Declared.add ⟨[], [], 0⟩
  failIf (∃ required ∈ REQUIRED_FILES,
    ((declared.files.lookup required).any fun size => 1 ≤ size ∧ size ≤ 65536) = false)
    (invalid "missing or oversized staged metadata")
  failIf (declared.total ≠ descriptor.totalBytes ∨
    ∃ path ∈ declared.directories, (declared.files.lookup path).isSome)
    (invalid "staged closure mismatch")
  pure declared

/-! ## 3. Going through the directory -/

/-- A file that is held, with what it was when it was opened. -/
structure OpenFile where
  path : String
  file : Source
  stamp : Stamp

/-- What is found in a directory. -/
structure Found where
  directories : List (String × Stamp)
  files : List OpenFile

def childPath (pre name : String) : String := if pre = "" then name else pre ++ "/" ++ name

/-- The loop over the names of a directory, what comes of each being told by the name. -/
def gather (visited : List (String × Except IoError Found)) : Except IoError Found := do
  failIf (MAX_FILES * 8 < visited.length) (invalid "staged entry count exceeded")
  let found ← (sortByKey (fun entry => utf8Bytes entry.1) visited).mapM fun entry => entry.2
  pure ⟨found.flatMap Found.directories, found.flatMap Found.files⟩

section

variable (host : Host) (declared : Declared)

mutual

/-- A round of the loop of `walk`. -/
def walkEntry (path : String) : Node → Except IoError Found
  | .link => do
    let _ ← relativeParts path
    failIf (path ∉ declared.directories ∧ declared.files.lookup path = none)
      (invalid "extra staged entry")
    throw .system
  | .directory metadata children => do
    let _ ← relativeParts path
    if path ∈ declared.directories then
      privateDirectory host.euid metadata
      let found ← gather (walkChildren path children)
      pure ⟨found.directories ++ [(path, metadata.stamp)], found.files⟩
    else
      -- It can be opened like a file, but is none.
      failIf (declared.files.lookup path = none) (invalid "extra staged entry")
      throw (invalid "unsafe or changed staged file")
  | .file metadata contents answers => do
    let _ ← relativeParts path
    if path ∈ declared.directories then throw .system
    else
      let size ← okOr (declared.files.lookup path) (invalid "extra staged entry")
      privateFile host.euid metadata size
      pure ⟨[], [⟨path, ⟨contents, 0, answers, 0⟩, metadata.stamp⟩]⟩

def walkChildren (pre : String) :
    List (String × Node) → List (String × Except IoError Found)
  | [] => []
  | (name, node) :: children =>
    (name, walkEntry (childPath pre name) node) :: walkChildren pre children

end

/-- `walk`, in a directory that is open. -/
def walk (pre : String) : Node → Except IoError Found
  | .directory _ children => gather (walkChildren host declared pre children)
  | .link | .file .. => throw .system

end

structure Closure where
  rootStamp : Stamp
  directories : List (String × Stamp)
  files : List OpenFile

/-- What is seen at the second look: the file system from its root, the staged directory that is
held, and what is told of the handles by their paths. -/
structure View where
  slash : Node
  root : Node
  held : String → Except IoError Stamp

/-- `reopen` -/
def View.reopen (view : View) (path : String) (directory : Bool) : Except IoError Node := do
  let parts ← relativeParts path
  parts.dropLast.foldlM (fun dir name => openAt dir name true) view.root >>= fun dir =>
    openAt dir (parts.getLastD "") directory

/-- A directory or a file that is held is still what it was, and stands where it stood. -/
def View.checkEntry (view : View) (directory : Bool) (message path : String) (before : Stamp) :
    Except IoError Unit := do
  let held ← view.held path
  failIf (held ≠ before) (invalid message)
  let again ← view.reopen path directory >>= Node.metadata
  failIf (again.stamp ≠ before) (invalid message)

def Closure.check (closure : Closure) (host : Host) (descriptor : StagedDirectory) (view : View) :
    Except IoError Unit := do
  let root ← openRoot host view.slash descriptor.root >>= Node.metadata
  failIf (root.stamp ≠ closure.rootStamp) (invalid "staged root changed")
  let held ← view.root.metadata
  failIf (held.stamp ≠ closure.rootStamp) (invalid "staged root changed")
  closure.directories.forM fun (path, before) =>
    view.checkEntry true "staged directory changed" path before
  closure.files.forM fun entry =>
    view.checkEntry false "staged file changed" entry.path entry.stamp

def sortFiles (files : List OpenFile) : List OpenFile :=
  sortByKey (fun entry => utf8Bytes entry.path) files

/-- `Closure::open`, the file system being seen twice. -/
def Closure.open (host : Host) (slash : Node) (view : View) (descriptor : StagedDirectory) :
    Except IoError Closure := do
  let declared ← declare descriptor
  let root ← openRoot host slash descriptor.root
  let metadata ← root.metadata
  let found ← walk host declared "" root
  failIf (found.files.length ≠ declared.files.length ∨
    found.directories.length ≠ declared.directories.length) (invalid "missing staged entries")
  let closure : Closure := ⟨metadata.stamp, found.directories, sortFiles found.files⟩
  closure.check host descriptor view
  pure closure

/-! ## 4. The files of a closure -/

mutual

/-- In no directory do two entries have one name, and no name has a slash. -/
def Node.Proper : Node → Prop
  | .directory _ children => ProperChildren children
  | .link | .file .. => True

def ProperChildren : List (String × Node) → Prop
  | [] => True
  | (name, node) :: children => '/' ∉ name.toList ∧ name ∉ children.map Prod.fst ∧ node.Proper ∧
    ProperChildren children

end

/-- A path is another or lies below it. -/
def Within (base path : String) : Prop :=
  ∃ more, path.toList = base.toList ++ more ∧ (more = [] ∨ ∃ tail, more = '/' :: tail)

section

variable {pre name other path : String}

theorem Within.refl (path : String) : Within path path := ⟨[], (List.append_nil _).symm, .inl rfl⟩

theorem toList_childPath (hpre : pre ≠ "") :
    (childPath pre name).toList = pre.toList ++ '/' :: name.toList := by
  rw [childPath, if_neg hpre, String.toList_append, String.toList_append, List.append_assoc]
  rfl

theorem Within.parent (hpre : pre ≠ "") (h : Within (childPath pre name) path) :
    Within pre path := by
  obtain ⟨more, hpath, -⟩ := h
  refine ⟨'/' :: (name.toList ++ more), ?_, .inr ⟨_, rfl⟩⟩
  rw [hpath, toList_childPath hpre, List.append_assoc, List.cons_append]

/-- What stands before the first slash. -/
theorem takeWhile_append (hname : '/' ∉ name.toList) {more : List Char}
    (hmore : more = [] ∨ ∃ tail, more = '/' :: tail) :
    (name.toList ++ more).takeWhile (· != '/') = name.toList := by
  have hall : ∀ c ∈ name.toList, (c != '/') = true := by
    intro c hc
    exact bne_iff_ne.mpr fun h => hname (h ▸ hc)
  rw [List.takeWhile_append_of_pos hall]
  rcases hmore with rfl | ⟨tail, rfl⟩
  · rw [List.takeWhile_nil, List.append_nil]
  · rw [List.takeWhile_cons_of_neg (by simp), List.append_nil]

/-- What lies below a directory lies below one entry of it. -/
theorem Within.unique (hname : '/' ∉ name.toList) (hother : '/' ∉ other.toList)
    (h : Within (childPath pre name) path) (h' : Within (childPath pre other) path) :
    name = other := by
  obtain ⟨more, hpath, hmore⟩ := h
  obtain ⟨more', hpath', hmore'⟩ := h'
  have hsame : name.toList ++ more = other.toList ++ more' := by
    by_cases hpre : pre = ""
    · rw [childPath, if_pos hpre] at hpath hpath'
      exact hpath.symm.trans hpath'
    · rw [toList_childPath hpre, List.append_assoc] at hpath hpath'
      exact List.cons_injective (List.append_cancel_left (hpath.symm.trans hpath'))
  have hfirst := congrArg (List.takeWhile (· != '/')) hsame
  rw [takeWhile_append hname hmore, takeWhile_append hother hmore'] at hfirst
  exact String.toList_injective hfirst

end

/-! ### What is declared -/

def StagedFile.entry (file : StagedFile) : String × Nat := (file.path, file.size)

theorem bounds_of_relativeParts {path : String} {parts : List String}
    (h : relativeParts path = .ok parts) : path ≠ "" ∧ byteLength path ≤ 256 := by
  rw [relativeParts, Codec.bind_eq_ok] at h
  obtain ⟨⟨⟩, hchecked, -⟩ := h
  rw [failIf_eq_ok, not_or, not_or] at hchecked
  exact ⟨hchecked.1, not_lt.mp hchecked.2.1⟩

theorem notMem_keys_of_lookup_eq_none {entries : List (String × Nat)} {path : String}
    (h : entries.lookup path = none) : path ∉ entries.map Prod.fst := by
  rw [List.lookup_eq_none_iff] at h
  intro hmem
  obtain ⟨entry, hentry, rfl⟩ := List.mem_map.mp hmem
  exact absurd (h entry hentry) (by simp)

theorem Declared.add_eq_ok {declared declared' : Declared} {file : StagedFile}
    (h : declared.add file = .ok declared') :
    declared'.files = declared.files ++ [file.entry] ∧
      declared'.total = declared.total + file.size ∧
      file.path ∉ declared.files.map Prod.fst ∧ byteLength file.path ≤ 256 := by
  rw [Declared.add, Codec.bind_eq_ok] at h
  obtain ⟨parts, hparts, h⟩ := h
  obtain ⟨⟨⟩, hnew, h⟩ := Codec.bind_eq_ok.mp h
  obtain ⟨total, htotal, h⟩ := Codec.bind_eq_ok.mp h
  rw [failIf_eq_ok, not_or, Option.not_isSome_iff_eq_none] at hnew
  rw [okOr_eq_ok, checkedAdd] at htotal
  split at htotal
  · cases htotal
    cases h
    exact ⟨rfl, rfl, notMem_keys_of_lookup_eq_none hnew.2, (bounds_of_relativeParts hparts).2⟩
  · cases htotal

/-- By induction on the files. -/
theorem Declared.of_foldlM {files : List StagedFile} : ∀ {declared declared' : Declared},
    files.foldlM Declared.add declared = .ok declared' → (declared.files.map Prod.fst).Nodup →
      declared'.files = declared.files ++ files.map StagedFile.entry ∧
      (declared'.files.map Prod.fst).Nodup ∧
      declared'.total = declared.total + (files.map StagedFile.size).sum ∧
      ∀ file ∈ files, byteLength file.path ≤ 256 := by
  induction files with
  | nil =>
    rintro declared _ h hnodup
    cases h
    exact ⟨(List.append_nil _).symm, hnodup, rfl, fun _ h => absurd h List.not_mem_nil⟩
  | cons file files ih =>
    intro declared declared' h hnodup
    rw [List.foldlM_cons, Codec.bind_eq_ok] at h
    obtain ⟨middle, hadd, h⟩ := h
    obtain ⟨hfiles, htotal, hnew, hlength⟩ := Declared.add_eq_ok hadd
    have hmiddle : (middle.files.map Prod.fst).Nodup := by
      rw [hfiles, List.map_append, List.nodup_append]
      refine ⟨hnodup, List.pairwise_singleton _ _, fun a ha b hb hab => ?_⟩
      obtain rfl := List.mem_singleton.mp hb
      have hpath : file.path = a := hab.symm
      exact hnew (hpath ▸ ha)
    obtain ⟨hfiles', hnodup', htotal', hlengths⟩ := ih h hmiddle
    refine ⟨?_, hnodup', ?_, List.forall_mem_cons.mpr ⟨hlength, hlengths⟩⟩
    · rw [hfiles', hfiles, List.append_assoc, List.map_cons, List.singleton_append]
    · rw [htotal', htotal, List.map_cons, List.sum_cons, Nat.add_assoc]

/-- What a descriptor that is accepted declares. -/
structure Accepted (descriptor : StagedDirectory) (declared : Declared) : Prop where
  files : declared.files = descriptor.files.map StagedFile.entry
  nodup : (declared.files.map Prod.fst).Nodup
  count : descriptor.files.length ≤ MAX_FILES
  total : (descriptor.files.map StagedFile.size).sum ≤ MAX_BYTES
  paths : ∀ file ∈ descriptor.files, byteLength file.path ≤ 256

theorem accepted_of_declare {descriptor : StagedDirectory} {declared : Declared}
    (h : declare descriptor = .ok declared) : Accepted descriptor declared := by
  rw [declare, Codec.bind_eq_ok] at h
  obtain ⟨⟨⟩, hbounds, h⟩ := h
  obtain ⟨gathered, hgathered, h⟩ := Codec.bind_eq_ok.mp h
  obtain ⟨⟨⟩, -, h⟩ := Codec.bind_eq_ok.mp h
  obtain ⟨⟨⟩, hmatch, h⟩ := Codec.bind_eq_ok.mp h
  cases h
  rw [failIf_eq_ok] at hbounds hmatch
  push Not at hbounds hmatch
  obtain ⟨hfiles, hnodup, htotal, hpaths⟩ := Declared.of_foldlM hgathered List.nodup_nil
  refine ⟨hfiles, hnodup, hbounds.2.1, ?_, hpaths⟩
  have hsum : (descriptor.files.map StagedFile.size).sum = descriptor.totalBytes := by
    rw [← hmatch.1, htotal]
    exact (Nat.zero_add _).symm
  rw [hsum]
  exact hbounds.2.2.2

/-! ### What is found -/

def filesOf : Except IoError Found → List OpenFile
  | .ok found => found.files
  | .error _ => []

/-- The order of the names does not matter to what is found. -/
theorem gather_eq_ok {visited : List (String × Except IoError Found)} {found : Found}
    (h : gather visited = .ok found) : (∀ entry ∈ visited, ∃ child, entry.2 = .ok child) ∧
      found.files.Perm (visited.flatMap fun entry => filesOf entry.2) := by
  rw [gather, Codec.bind_eq_ok] at h
  obtain ⟨⟨⟩, -, h⟩ := h
  obtain ⟨children, hchildren, h⟩ := Codec.bind_eq_ok.mp h
  cases h
  refine ⟨fun entry hentry => ?_, ?_⟩
  · exact Codec.exists_mapM_iff.mp ⟨_, hchildren⟩ entry (mem_sortByKey.mpr hentry)
  · have hflat : ∀ {l : List (String × Except IoError Found)} {found : List Found},
        List.Forall₂ (fun entry child => entry.2 = .ok child) l found →
          found.flatMap Found.files = l.flatMap fun entry => filesOf entry.2 := by
      intro l found h
      induction h with
      | nil => rfl
      | cons hentry _ ih => rw [List.flatMap_cons, List.flatMap_cons, ih, hentry, filesOf]
    rw [hflat (Codec.mapM_eq_ok.mp hchildren)]
    exact (List.perm_insertionSort _ visited).flatMap_right _

/-- Files that are declared with their sizes, each once, and have not been read. -/
structure Listed (declared : Declared) (files : List OpenFile) : Prop where
  sizes : ∀ entry ∈ files, declared.files.lookup entry.path = some entry.stamp.length
  fresh : ∀ entry ∈ files, entry.file.position = 0
  nodup : (files.map OpenFile.path).Nodup

section

variable {host : Host} {declared : Declared}

theorem Listed.nil : Listed declared [] :=
  ⟨fun _ h => absurd h List.not_mem_nil, fun _ h => absurd h List.not_mem_nil, List.nodup_nil⟩

variable {files files' : List OpenFile}

theorem Listed.perm (h : Listed declared files) (hperm : files'.Perm files) :
    Listed declared files' :=
  ⟨fun entry hentry => h.sizes entry (hperm.mem_iff.mp hentry),
    fun entry hentry => h.fresh entry (hperm.mem_iff.mp hentry),
    (hperm.map _).nodup_iff.mpr h.nodup⟩

theorem Listed.append (h : Listed declared files) (h' : Listed declared files')
    (hdisjoint : ∀ entry ∈ files, ∀ entry' ∈ files', entry.path ≠ entry'.path) :
    Listed declared (files ++ files') where
  sizes entry hentry := (List.mem_append.mp hentry).elim (h.sizes entry) (h'.sizes entry)
  fresh entry hentry := (List.mem_append.mp hentry).elim (h.fresh entry) (h'.fresh entry)
  nodup := by
    rw [List.map_append, List.nodup_append]
    refine ⟨h.nodup, h'.nodup, fun a ha b hb => ?_⟩
    obtain ⟨entry, hentry, rfl⟩ := List.mem_map.mp ha
    obtain ⟨entry', hentry', rfl⟩ := List.mem_map.mp hb
    exact hdisjoint entry hentry entry' hentry'

mutual

/-- The files that are found at a path. -/
theorem walkEntry_spec : ∀ (node : Node) {path : String} {found : Found}, node.Proper →
    walkEntry host declared path node = .ok found →
      Listed declared found.files ∧ ∀ entry ∈ found.files, Within path entry.path
  | .link, path, found, _, h => by
    rw [walkEntry, Codec.bind_eq_ok] at h
    obtain ⟨parts, -, h⟩ := h
    obtain ⟨⟨⟩, -, h⟩ := Codec.bind_eq_ok.mp h
    cases h
  | .directory metadata children, path, found, hproper, h => by
    rw [walkEntry, Codec.bind_eq_ok] at h
    obtain ⟨parts, hparts, h⟩ := h
    split at h
    · obtain ⟨⟨⟩, -, h⟩ := Codec.bind_eq_ok.mp h
      obtain ⟨below, hbelow, h⟩ := Codec.bind_eq_ok.mp h
      cases h
      obtain ⟨hok, hperm⟩ := gather_eq_ok hbelow
      obtain ⟨hlisted, hwithin⟩ := walkChildren_spec children hproper hok
      refine ⟨hlisted.perm hperm, fun entry hentry => ?_⟩
      obtain ⟨name, -, h⟩ := hwithin entry (hperm.mem_iff.mp hentry)
      exact h.parent (bounds_of_relativeParts hparts).1
    · obtain ⟨⟨⟩, -, h⟩ := Codec.bind_eq_ok.mp h
      cases h
  | .file metadata contents answers, path, found, _, h => by
    rw [walkEntry, Codec.bind_eq_ok] at h
    obtain ⟨parts, -, h⟩ := h
    split at h
    · cases h
    · obtain ⟨size, hsize, h⟩ := Codec.bind_eq_ok.mp h
      obtain ⟨⟨⟩, hfile, h⟩ := Codec.bind_eq_ok.mp h
      cases h
      rw [okOr_eq_ok] at hsize
      rw [privateFile, failIf_eq_ok] at hfile
      push Not at hfile
      obtain ⟨-, -, -, -, rfl⟩ := hfile
      refine ⟨⟨?_, ?_, List.nodup_singleton _⟩, ?_⟩
      · exact List.forall_mem_singleton.mpr hsize
      · exact List.forall_mem_singleton.mpr rfl
      · exact List.forall_mem_singleton.mpr (Within.refl path)

/-- The files that are found in a directory, each below one of its entries. -/
theorem walkChildren_spec : ∀ (children : List (String × Node)) {pre : String},
    ProperChildren children →
    (∀ entry ∈ walkChildren host declared pre children, ∃ found, entry.2 = .ok found) →
      Listed declared ((walkChildren host declared pre children).flatMap fun entry =>
        filesOf entry.2) ∧
      ∀ entry ∈ (walkChildren host declared pre children).flatMap fun entry => filesOf entry.2,
        ∃ name ∈ (children.map Prod.fst).filter fun name => '/' ∉ name.toList,
          Within (childPath pre name) entry.path
  | [], pre, _, _ => ⟨.nil, fun _ h => absurd h List.not_mem_nil⟩
  | (name, node) :: children, pre, hproper, hok => by
    obtain ⟨hslash, hnew, hnode, hchildren⟩ := hproper
    rw [walkChildren, List.forall_mem_cons] at hok
    obtain ⟨⟨found, hfound⟩, hok⟩ := hok
    obtain ⟨hlisted, hwithin⟩ := walkEntry_spec node hnode hfound
    obtain ⟨hlisted', hwithin'⟩ := walkChildren_spec children hchildren hok
    rw [walkChildren, List.flatMap_cons, hfound, filesOf]
    refine ⟨hlisted.append hlisted' fun entry hentry entry' hentry' hsame => ?_,
      fun entry hentry => ?_⟩
    · obtain ⟨other, hother, h'⟩ := hwithin' entry' hentry'
      obtain ⟨hmem, hother⟩ := List.mem_filter.mp hother
      have h := hwithin entry hentry
      rw [hsame] at h
      exact hnew (h.unique hslash (of_decide_eq_true hother) h' ▸ hmem)
    · rcases List.mem_append.mp hentry with h | h
      · refine ⟨name, List.mem_filter.mpr ⟨List.mem_cons_self, decide_eq_true hslash⟩, ?_⟩
        exact hwithin entry h
      · obtain ⟨other, hother, h⟩ := hwithin' entry h
        obtain ⟨hmem, hother⟩ := List.mem_filter.mp hother
        exact ⟨other, List.mem_filter.mpr ⟨List.mem_cons_of_mem _ hmem, hother⟩, h⟩

end

end

/-! ### Opening -/

section

variable {host : Host}

variable {node slash : Node}

theorem proper_of_lookup {children : List (String × Node)} {name : String}
    (hproper : ProperChildren children) (h : children.lookup name = some node) : node.Proper := by
  induction children with
  | nil => cases h
  | cons entry children ih =>
    obtain ⟨-, -, hnode, hchildren⟩ := hproper
    rw [List.lookup_cons] at h
    split at h
    · exact Option.some.inj h ▸ hnode
    · exact ih hchildren h

theorem proper_openAt {dir : Node} {name : String} {directory : Bool} (hproper : dir.Proper)
    (h : openAt dir name directory = .ok node) : node.Proper := by
  unfold openAt at h
  obtain ⟨⟨⟩, -, h⟩ := Codec.bind_eq_ok.mp h
  cases dir with
  | link | file => cases h
  | directory metadata children =>
    dsimp only at h
    split at h
    · next hlookup =>
      cases h
      have hnode := proper_of_lookup hproper hlookup
      exact hnode
    · split at h <;> cases h
      trivial
    · cases h
    · cases h

theorem proper_openParts {parts : List String} : ∀ {current : List String} {dir node : Node},
    dir.Proper → openParts host current parts dir = .ok node → node.Proper := by
  induction parts with
  | nil =>
    intro current dir node hproper h
    cases h
    exact hproper
  | cons name rest ih =>
    intro current dir node hproper h
    rw [openParts, Codec.bind_eq_ok] at h
    obtain ⟨next, hnext, h⟩ := h
    obtain ⟨metadata, -, h⟩ := Codec.bind_eq_ok.mp h
    split at h <;>
    · obtain ⟨⟨⟩, -, h⟩ := Codec.bind_eq_ok.mp h
      exact ih (proper_openAt hproper hnext) h

theorem proper_openRoot {path : String} (hproper : slash.Proper)
    (h : openRoot host slash path = .ok node) : node.Proper := by
  rw [openRoot, Codec.bind_eq_ok] at h
  obtain ⟨⟨⟩, -, h⟩ := h
  obtain ⟨⟨⟩, -, h⟩ := Codec.bind_eq_ok.mp h
  exact proper_openParts hproper h

/-- A path with the size that is declared of it. -/
def OpenFile.entry (entry : OpenFile) : String × Nat := (entry.path, entry.stamp.length)

/-- Files that are declared, and as many as are declared. -/
theorem Listed.entries_perm {declared : Declared} {files : List OpenFile}
    (h : Listed declared files) (hcount : files.length = declared.files.length) :
    (files.map OpenFile.entry).Perm declared.files := by
  have hnodup : (files.map OpenFile.entry).Nodup := by
    refine List.Nodup.of_map Prod.fst ?_
    rw [List.map_map]
    exact h.nodup
  refine (List.subperm_of_subset hnodup fun entry hentry => ?_).perm_of_length_le (by
    rw [List.length_map, hcount])
  obtain ⟨file, hfile, rfl⟩ := List.mem_map.mp hentry
  obtain ⟨before, after, hfiles, -⟩ := List.lookup_eq_some_iff.mp (h.sizes file hfile)
  rw [hfiles]
  exact List.mem_append_right _ List.mem_cons_self

variable {descriptor : StagedDirectory}

/-- **The files of a closure** are those of the descriptor with their declared sizes, in the order
of their paths, and nothing has been read of them. -/
theorem open_files {view : View} {closure : Closure} (hproper : slash.Proper)
    (h : Closure.open host slash view descriptor = .ok closure) :
    closure.files.map OpenFile.entry =
        sortByKey (fun entry => utf8Bytes entry.1) (descriptor.files.map StagedFile.entry) ∧
      ∀ entry ∈ closure.files, entry.file.position = 0 := by
  rw [Closure.open, Codec.bind_eq_ok] at h
  obtain ⟨declared, hdeclared, h⟩ := h
  obtain ⟨root, hroot, h⟩ := Codec.bind_eq_ok.mp h
  obtain ⟨metadata, -, h⟩ := Codec.bind_eq_ok.mp h
  obtain ⟨found, hfound, h⟩ := Codec.bind_eq_ok.mp h
  obtain ⟨⟨⟩, hcount, h⟩ := Codec.bind_eq_ok.mp h
  obtain ⟨⟨⟩, -, h⟩ := Codec.bind_eq_ok.mp h
  cases h
  rw [failIf_eq_ok, not_or, not_not] at hcount
  have hrootProper := proper_openRoot hproper hroot
  have haccepted := accepted_of_declare hdeclared
  cases root with
  | link | file => cases hfound
  | directory rootMetadata children =>
    obtain ⟨hok, hperm⟩ := gather_eq_ok hfound
    have hlisted := (walkChildren_spec children hrootProper hok).1.perm hperm
    have hsort : (sortFiles found.files).Perm found.files := List.perm_insertionSort _ _
    refine ⟨?_, (hlisted.perm hsort).fresh⟩
    have hkeys : (found.files.map fun entry => utf8Bytes entry.path).Nodup := by
      have hmap := hlisted.nodup.map utf8Bytes_injective
      rwa [List.map_map] at hmap
    have hascending : Ascending (fun entry : String × Nat => utf8Bytes entry.1)
        ((sortFiles found.files).map OpenFile.entry) := by
      have hsorted := ascending_sortByKey hkeys
      rw [Ascending, List.map_map]
      exact hsorted
    rw [← hascending.sortByKey_eq, ← haccepted.files]
    refine sortByKey_perm ((hsort.map _).trans (hlisted.entries_perm hcount.1)) ?_
    have hnodup : (((sortFiles found.files).map OpenFile.entry).map Prod.fst).Nodup := by
      rw [List.map_map]
      exact (hlisted.perm hsort).nodup
    intro a ha b hb hab
    exact List.inj_on_of_nodup_map hnodup ha hb (utf8Bytes_injective hab)

/-- How many files a closure has and how long they and their paths are. -/
theorem open_bounds {view : View} {closure : Closure} (hproper : slash.Proper)
    (h : Closure.open host slash view descriptor = .ok closure) :
    closure.files.length ≤ MAX_FILES ∧
      (closure.files.map fun entry => entry.stamp.length).sum ≤ MAX_BYTES ∧
      ∀ entry ∈ closure.files, byteLength entry.path ≤ 256 := by
  have hentries := (open_files hproper h).1
  rw [Closure.open, Codec.bind_eq_ok] at h
  obtain ⟨declared, hdeclared, -⟩ := h
  have haccepted := accepted_of_declare hdeclared
  have hperm : (closure.files.map OpenFile.entry).Perm (descriptor.files.map StagedFile.entry) := by
    rw [hentries]
    exact List.perm_insertionSort _ _
  refine ⟨?_, ?_, fun entry hentry => ?_⟩
  · have hlength := hperm.length_eq
    rw [List.length_map, List.length_map] at hlength
    exact hlength ▸ haccepted.count
  · have hsum := (hperm.map Prod.snd).sum_eq
    rw [List.map_map, List.map_map] at hsum
    exact hsum.trans_le haccepted.total
  · have hmem := hperm.mem_iff.mp (List.mem_map_of_mem hentry)
    obtain ⟨file, hfile, hsame⟩ := List.mem_map.mp hmem
    have hpath : file.path = entry.path := congrArg Prod.fst hsame
    exact hpath ▸ haccepted.paths file hfile

end

end ElastosRuntime.DirectoryHash
