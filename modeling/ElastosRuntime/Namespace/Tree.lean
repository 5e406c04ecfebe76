/-
# The tree of a namespace

`namespace.rs`: an owner's paths, as a tree of directories and files, and what `put` and `remove`
make of it.  Modification times are left out.

What a reader of a tree sees is `found`: for each path nothing, a directory, or a file with its
content identifier.  `found_putAt` and `found_removeAt` say what an operation on one path changes
for every other path.
-/
import ElastosRuntime.Primitives
import ElastosRuntime.Localhost.Paths

namespace ElastosRuntime.NamespaceStore

open Text Localhost

/-! ## 1. Entries -/

structure ContentId where
  uri : String
deriving DecidableEq

def ContentId.fromContent [Crypto] (content : List UInt8) : ContentId :=
  ⟨"elastos://sha256:" ++ hexEncode (Crypto.sha256 content).toList⟩

inductive NamespaceEntry where
  | file (cid : ContentId) (size : Nat) (contentType : Option String)
  | directory (children : List (String × NamespaceEntry))

inductive NamespaceError where
  | notFound (path : String)
  | notADirectory (path : String)
  | invalidPath (reason : String)
  /-- The reason, where it is not the decoder's own. -/
  | invalidOwner (reason : Option String)
  | serializationError
  | ioError
deriving DecidableEq

namespace NamespaceEntry

def cid : NamespaceEntry → Option ContentId
  | file cid _ _ => some cid
  | directory _ => none

/-- `BTreeMap::insert`. -/
def insert (children : List (String × NamespaceEntry)) (name : String) (entry : NamespaceEntry) :
    List (String × NamespaceEntry) :=
  (name, entry) :: children.filter fun child => child.1 ≠ name

/-- `BTreeMap::remove`. -/
def erase (children : List (String × NamespaceEntry)) (name : String) :
    List (String × NamespaceEntry) :=
  children.filter fun child => child.1 ≠ name

/-- The loop of `resolve`. -/
def resolveFrom : NamespaceEntry → List String → Option NamespaceEntry
  | current, [] => some current
  | directory children, component :: rest => (children.lookup component).bind (resolveFrom · rest)
  | file .., _ :: _ => none

/-- The loop of `get_or_create_parent`, and the insertion into the directory it ends at. -/
def putAt (name : String) (entry : NamespaceEntry) :
    List String → String → NamespaceEntry → Except NamespaceError NamespaceEntry
  | [], _, directory children => .ok (directory (insert children name entry))
  | [], last, file .. => .error (.notADirectory last)
  | component :: rest, _, directory children => do
    let child ← putAt name entry rest component
      ((children.lookup component).getD (directory []))
    .ok (directory (insert children component child))
  | component :: _, _, file .. => .error (.notADirectory component)

/-- The loop of `resolve_mut`, and the removal from the entry it ends at. -/
def removeAt (name path parentPath : String) :
    List String → NamespaceEntry → Except NamespaceError NamespaceEntry
  | [], directory children =>
    if (children.lookup name).isSome then .ok (directory (erase children name))
    else .error (.notFound path)
  | [], file .. => .error (.notADirectory parentPath)
  | component :: rest, directory children =>
    match children.lookup component with
    | none => .error (.notFound parentPath)
    | some child => do
      let child ← removeAt name path parentPath rest child
      .ok (directory (insert children component child))
  | _ :: _, file .. => .error (.notFound parentPath)

end NamespaceEntry

structure Namespace where
  version : Nat
  owner : String
  root : NamespaceEntry
  signature : Option String

def NAMESPACE_VERSION : Nat := 1

namespace Namespace

@[irreducible] def withOwnerHex (ownerHex : String) : Except NamespaceError Namespace :=
  match hexDecode ownerHex with
  | none => .error (.invalidOwner none)
  | some bytes =>
    if bytes.length ≠ 32 then .error (.invalidOwner (some "Owner key must be 32 bytes"))
    else .ok ⟨NAMESPACE_VERSION, ownerHex, .directory [], none⟩

def normalizePath (path : String) : String :=
  let path :=
    match parseLocalhostUri path with
    | some (_, rest) => rest
    | none => path
  trimMatches path '/'

@[irreducible] def pathComponents (path : String) : List String :=
  let path := normalizePath path
  if path = "" then [] else split path '/'

def resolve (ns : Namespace) (path : String) : Option NamespaceEntry :=
  ns.root.resolveFrom (pathComponents path)

def put (ns : Namespace) (path : String) (entry : NamespaceEntry) :
    Except NamespaceError Namespace := do
  let components := pathComponents path
  match components.getLast? with
  | none => .error (.invalidPath "Cannot replace root")
  | some name =>
    let root ← NamespaceEntry.putAt name entry components.dropLast "" ns.root
    .ok { ns with root, signature := none }

/-- The path that `remove` resolves the parent of a path by. -/
def parentPath (components : List String) : String := "/".intercalate components.dropLast

def remove (ns : Namespace) (path : String) : Except NamespaceError Namespace := do
  let components := pathComponents path
  match components.getLast? with
  | none => .error (.invalidPath "Cannot remove root")
  | some name =>
    let parent := parentPath components
    let root ← NamespaceEntry.removeAt name path parent (pathComponents parent) ns.root
    .ok { ns with root, signature := none }

end Namespace

/-! ## 2. What is found at a path -/

namespace NamespaceEntry

/-- Nothing, a directory, or a file with its content. -/
def found (current : NamespaceEntry) (path : List String) : Option (Option ContentId) :=
  (current.resolveFrom path).map cid

section

variable {children : List (String × NamespaceEntry)} {name component : String}
  {entry current changed : NamespaceEntry} {path parent : List String}

theorem lookup_erase (children : List (String × NamespaceEntry)) (name component : String) :
    (erase children name).lookup component =
      if component = name then none else children.lookup component := by
  induction children with
  | nil => simp [erase]
  | cons child rest ih =>
    obtain ⟨key, value⟩ := child
    rw [erase] at ih ⊢
    by_cases hkey : key = name
    · rw [List.filter_cons_of_neg (by simp [hkey]), ih]
      split
      · rfl
      · rename_i hne
        rw [List.lookup_cons, beq_eq_false_iff_ne.mpr (by rw [hkey]; exact hne)]
    · rw [List.filter_cons_of_pos (by simp [hkey]), List.lookup_cons, List.lookup_cons, ih]
      cases hsame : component == key with
      | true =>
        have hne : component ≠ name := by
          rw [beq_iff_eq.mp hsame]
          exact hkey
        simp only [if_neg hne]
      | false =>
        dsimp only

theorem lookup_insert (children : List (String × NamespaceEntry)) (name component : String)
    (entry : NamespaceEntry) : (insert children name entry).lookup component =
      if component = name then some entry else children.lookup component := by
  rw [insert, List.lookup_cons]
  cases hsame : component == name with
  | true => rw [if_pos (beq_iff_eq.mp hsame)]
  | false =>
    have hne := beq_eq_false_iff_ne.mp hsame
    have herase := lookup_erase children name component
    rw [erase] at herase
    rw [if_neg hne] at herase ⊢
    exact herase

@[simp] theorem found_nil (current : NamespaceEntry) : current.found [] = some current.cid := rfl

@[simp] theorem found_directory_cons (children : List (String × NamespaceEntry))
    (component : String) (path : List String) : (directory children).found (component :: path) =
      (children.lookup component).bind (found · path) := by
  rw [found, resolveFrom, Option.map_bind]
  rfl

@[simp] theorem found_file_cons (cid : ContentId) (size : Nat) (contentType : Option String)
    (component : String) (path : List String) :
    (file cid size contentType).found (component :: path) = none := rfl

/-- What `put` leaves at a path: the file at its own, nothing beneath it, directories above it. -/
def afterPut (target : List String) (cid : ContentId)
    (before : List String → Option (Option ContentId)) (path : List String) :
    Option (Option ContentId) :=
  if target <+: path then if path = target then some (some cid) else none
  else if path <+: target then some none
  else before path

/-- **What `put` changes.** -/
theorem found_putAt {cid : ContentId} {size : Nat} {contentType : Option String} {last : String}
    (h : putAt name (file cid size contentType) parent last current = .ok changed)
    (path : List String) :
    changed.found path = afterPut (parent ++ [name]) cid current.found path := by
  induction parent generalizing last current changed path with
  | nil =>
    cases current with
    | file => cases h
    | directory children =>
      cases h
      cases path with
      | nil => simp [afterPut, NamespaceEntry.cid]
      | cons component path =>
        rw [found_directory_cons, lookup_insert, afterPut]
        by_cases hname : component = name
        · subst hname
          cases path <;> simp [NamespaceEntry.cid]
        · simp [hname, Ne.symm hname]
  | cons directoryName rest ih =>
    cases current with
    | file => cases h
    | directory children =>
      rw [putAt] at h
      cases hchild : putAt name (file cid size contentType) rest directoryName
          ((children.lookup directoryName).getD (directory [])) with
      | error e =>
        rw [hchild] at h
        cases h
      | ok child =>
        rw [hchild] at h
        cases h
        cases path with
        | nil => simp [afterPut, NamespaceEntry.cid]
        | cons component path =>
          rw [found_directory_cons, lookup_insert, afterPut, List.cons_append]
          by_cases hname : component = directoryName
          · subst hname
            simp only [if_true, Option.bind_some, List.cons_prefix_cons, true_and, List.cons.injEq]
            rw [ih hchild, afterPut]
            split
            · rfl
            · split
              · rfl
              · rename_i hnotabove
                rw [found_directory_cons]
                cases hlookup : children.lookup component with
                | some child => rfl
                | none =>
                  -- the directory that `put` makes is empty
                  cases path with
                  | nil => exact absurd List.nil_prefix hnotabove
                  | cons _ _ => rfl
          · simp [hname, Ne.symm hname]

/-- What `remove` leaves at a path: nothing at its own and beneath it. -/
def afterRemove (target : List String) (before : List String → Option (Option ContentId))
    (path : List String) : Option (Option ContentId) :=
  if target <+: path then none else before path

/-- **What `remove` changes.** -/
theorem found_removeAt {given parentPath : String}
    (h : removeAt name given parentPath parent current = .ok changed) (path : List String) :
    changed.found path = afterRemove (parent ++ [name]) current.found path := by
  induction parent generalizing current changed path with
  | nil =>
    cases current with
    | file => cases h
    | directory children =>
      rw [removeAt] at h
      split at h
      · cases h
        cases path with
        | nil => simp [afterRemove, NamespaceEntry.cid]
        | cons component path =>
          rw [found_directory_cons, lookup_erase, afterRemove]
          by_cases hname : component = name
          · simp [hname]
          · simp [hname, Ne.symm hname]
      · cases h
  | cons directoryName rest ih =>
    cases current with
    | file => cases h
    | directory children =>
      rw [removeAt] at h
      split at h
      · cases h
      · rename_i child hlookup
        cases hchild : removeAt name given parentPath rest child with
        | error e =>
          rw [hchild] at h
          cases h
        | ok child' =>
          rw [hchild] at h
          cases h
          cases path with
          | nil => simp [afterRemove, NamespaceEntry.cid]
          | cons component path =>
            rw [found_directory_cons, lookup_insert, afterRemove, List.cons_append]
            by_cases hname : component = directoryName
            · subst hname
              rw [if_pos rfl, Option.bind_some, ih hchild, afterRemove, found_directory_cons,
                hlookup, Option.bind_some]
              simp only [List.cons_prefix_cons, true_and]
            · simp [hname, Ne.symm hname]

end

end NamespaceEntry

namespace Namespace

/-- What `resolve` finds at a path, as a list of components. -/
def found (ns : Namespace) (path : List String) : Option (Option ContentId) := ns.root.found path

theorem map_cid_resolve (ns : Namespace) (path : String) :
    (ns.resolve path).map NamespaceEntry.cid = ns.found (pathComponents path) := rfl

/-- The path that `remove` takes out: where its own parent path leads, which need not be where it
came from. -/
def removed (path : String) : List String :=
  pathComponents (parentPath (pathComponents path)) ++ (pathComponents path).getLast?.toList

variable {ns changed : Namespace}

theorem found_put {path : String} {cid : ContentId} {size : Nat} {contentType : Option String}
    (h : ns.put path (.file cid size contentType) = .ok changed) :
    pathComponents path ≠ [] ∧ changed.owner = ns.owner ∧ ∀ other,
      changed.found other = NamespaceEntry.afterPut (pathComponents path) cid ns.found other := by
  unfold put at h
  cases hname : (pathComponents path).getLast? with
  | none =>
    simp only [hname] at h
    cases h
  | some name =>
    simp only [hname] at h
    have hsplit : (pathComponents path).dropLast ++ [name] = pathComponents path :=
      List.dropLast_append_getLast? _ hname
    cases hroot : NamespaceEntry.putAt name (.file cid size contentType)
        (pathComponents path).dropLast "" ns.root with
    | error e =>
      rw [hroot] at h
      cases h
    | ok root =>
      rw [hroot] at h
      cases h
      refine ⟨fun hnil => ?_, rfl, fun other => ?_⟩
      · rw [hnil] at hname
        cases hname
      · have hfound := NamespaceEntry.found_putAt hroot other
        rw [hsplit] at hfound
        exact hfound

theorem found_remove {path : String} (h : ns.remove path = .ok changed) :
    pathComponents path ≠ [] ∧ changed.owner = ns.owner ∧ ∀ other,
      changed.found other = NamespaceEntry.afterRemove (removed path) ns.found other := by
  unfold remove at h
  cases hname : (pathComponents path).getLast? with
  | none =>
    simp only [hname] at h
    cases h
  | some name =>
    simp only [hname] at h
    cases hroot : NamespaceEntry.removeAt name path (parentPath (pathComponents path))
        (pathComponents (parentPath (pathComponents path))) ns.root with
    | error e =>
      rw [hroot] at h
      cases h
    | ok root =>
      rw [hroot] at h
      cases h
      refine ⟨fun hnil => ?_, rfl, fun other => ?_⟩
      · rw [hnil] at hname
        cases hname
      · have hfound := NamespaceEntry.found_removeAt hroot other
        rw [removed, hname]
        exact hfound

/-- A new namespace is its owner's, and empty. -/
theorem withOwnerHex_eq_ok {owner : String} (h : withOwnerHex owner = .ok ns) :
    ns.owner = owner ∧ ns.root = .directory [] := by
  unfold withOwnerHex at h
  split at h
  · cases h
  · split at h
    · cases h
    · cases h
      exact ⟨rfl, rfl⟩

end Namespace

end ElastosRuntime.NamespaceStore
