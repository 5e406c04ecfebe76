/-
# Laws of the namespace tree

What `resolve` finds after `put` and `remove`, and what `entry_count` and `total_size` come to.
An edit of a path concerns the entries at its prefixes and at its extensions; every other path
leads to the very entry it led to before, with the times it bears
(`resolveFrom_putAt_other`, `resolveFrom_removeAt_other`).

`remove` looks for the parent of a path by a path of its own, the components but the last joined
with slashes, and splits that again.  Where it is not read back as the same components, as when it
ends in a slash, `remove` edits another directory than `put` (`remove_laws_fail`).
-/
import Mathlib.Data.UInt
import ElastosRuntime.Namespace.Stamped

namespace ElastosRuntime.StampedNamespace

open NamespaceStore (ContentId NamespaceError)
open NamespaceStore.Namespace (pathComponents parentPath)
open OrderedMap (get? worthOf total)

namespace NamespaceEntry

section

variable {clock : Readings} {stamp : SecureTimestamp}
  {name component last given parentPath : String}
  {entry current removed : NamespaceEntry} {depth : Nat} {parent path rest : List String}
  {children : List (String × NamespaceEntry)} {modifiedAt : SecureTimestamp}

@[simp] theorem resolveFrom_nil (current : NamespaceEntry) :
    current.resolveFrom [] = some current := by
  cases current <;> rfl

@[simp] theorem resolveFrom_directory_cons (children : List (String × NamespaceEntry))
    (modifiedAt : SecureTimestamp) (component : String) (rest : List String) :
    (directory children modifiedAt).resolveFrom (component :: rest) =
      (get? children component).bind (resolveFrom · rest) := rfl

@[simp] theorem resolveFrom_file_cons (cid : ContentId) (size : UInt64)
    (contentType : Option String) (modifiedAt : SecureTimestamp) (component : String)
    (rest : List String) :
    (file cid size contentType modifiedAt).resolveFrom (component :: rest) = none := rfl

/-! ## 1. What `put` changes -/

/-- The entry is where it was put. -/
theorem resolveFrom_putAt_self
    (h : (putAt clock name entry depth parent last current).2 = .ok ()) :
    (putAt clock name entry depth parent last current).1.resolveFrom (parent ++ [name]) =
      some entry := by
  induction parent generalizing depth last current with
  | nil =>
    cases current with
    | file => cases h
    | directory children modifiedAt =>
      rw [putAt, List.nil_append, resolveFrom_directory_cons, OrderedMap.get?_insert, if_pos rfl,
        Option.bind_some, resolveFrom_nil]
  | cons component rest ih =>
    cases current with
    | file => cases h
    | directory children modifiedAt =>
      rw [putAt, List.cons_append, resolveFrom_directory_cons, OrderedMap.get?_insert, if_pos rfl,
        Option.bind_some]
      exact ih h

/-- **Other paths lead where they led**, also where `put` fails. -/
theorem resolveFrom_putAt_other (hbelow : ¬parent ++ [name] <+: path)
    (habove : ¬path <+: parent ++ [name]) :
    (putAt clock name entry depth parent last current).1.resolveFrom path =
      current.resolveFrom path := by
  induction parent generalizing depth last current path with
  | nil =>
    cases current with
    | file => rfl
    | directory children modifiedAt =>
      cases path with
      | nil => exact absurd List.nil_prefix habove
      | cons component rest =>
        rw [putAt, resolveFrom_directory_cons, resolveFrom_directory_cons,
          OrderedMap.get?_insert]
        split
        · next hname =>
          subst hname
          exact absurd (List.cons_prefix_cons.mpr ⟨rfl, List.nil_prefix⟩) hbelow
        · rfl
  | cons component parent ih =>
    cases current with
    | file => rfl
    | directory children modifiedAt =>
      cases path with
      | nil => exact absurd List.nil_prefix habove
      | cons first rest =>
        rw [putAt, resolveFrom_directory_cons, resolveFrom_directory_cons,
          OrderedMap.get?_insert]
        split
        · next hname =>
          subst hname
          rw [List.cons_append, List.cons_prefix_cons, and_iff_right rfl] at hbelow habove
          rw [Option.bind_some, ih hbelow habove]
          cases hchild : get? children first with
          | some child => rfl
          | none =>
            -- the directory that `put` makes is empty
            cases rest with
            | nil => exact absurd List.nil_prefix habove
            | cons _ _ => rfl
        · rfl

/-- A path that goes through a file leads nowhere. -/
theorem resolveFrom_append (current : NamespaceEntry) (path rest : List String) :
    current.resolveFrom (path ++ rest) = (current.resolveFrom path).bind (resolveFrom · rest) := by
  induction path generalizing current with
  | nil => rw [List.nil_append, resolveFrom_nil, Option.bind_some]
  | cons component path ih =>
    cases current with
    | file => rfl
    | directory children modifiedAt =>
      rw [List.cons_append, resolveFrom_directory_cons, resolveFrom_directory_cons,
        Option.bind_assoc]
      exact congrArg _ (funext fun child => ih child)

/-! ## 2. What `remove` changes -/

/-- **`remove` takes out what is found.** -/
theorem removeAt_eq_ok : (removeAt stamp name given parentPath parent current).2 = .ok removed ↔
    current.resolveFrom (parent ++ [name]) = some removed := by
  induction parent generalizing current with
  | nil =>
    cases current with
    | file => exact ⟨fun h => (by cases h), fun h => (by cases h)⟩
    | directory children modifiedAt =>
      rw [removeAt, List.nil_append, resolveFrom_directory_cons]
      cases get? children name with
      | none => exact ⟨fun h => (by cases h), fun h => (by cases h)⟩
      | some found =>
        rw [Option.bind_some, resolveFrom_nil, Except.ok.injEq, Option.some.injEq]
  | cons component rest ih =>
    cases current with
    | file => exact ⟨fun h => (by cases h), fun h => (by cases h)⟩
    | directory children modifiedAt =>
      rw [removeAt, List.cons_append, resolveFrom_directory_cons]
      cases get? children component with
      | none => exact ⟨fun h => (by cases h), fun h => (by cases h)⟩
      | some child => exact ih

theorem resolveFrom_removeAt_self
    (h : (removeAt stamp name given parentPath parent current).2 = .ok removed) :
    (removeAt stamp name given parentPath parent current).1.resolveFrom (parent ++ [name]) =
      none := by
  induction parent generalizing current with
  | nil =>
    cases current with
    | file => cases h
    | directory children modifiedAt =>
      rw [removeAt] at h ⊢
      split at h
      · rw [List.nil_append, resolveFrom_directory_cons, OrderedMap.get?_erase, if_pos rfl,
          Option.bind_none]
      · cases h
  | cons component rest ih =>
    cases current with
    | file => cases h
    | directory children modifiedAt =>
      rw [removeAt] at h ⊢
      split at h
      · rw [List.cons_append, resolveFrom_directory_cons, OrderedMap.get?_insert, if_pos rfl,
          Option.bind_some]
        exact ih h
      · cases h

/-- **Other paths lead where they led**, also where `remove` fails. -/
theorem resolveFrom_removeAt_other (hbelow : ¬parent ++ [name] <+: path)
    (habove : ¬path <+: parent ++ [name]) :
    (removeAt stamp name given parentPath parent current).1.resolveFrom path =
      current.resolveFrom path := by
  induction parent generalizing current path with
  | nil =>
    cases current with
    | file => rfl
    | directory children modifiedAt =>
      cases path with
      | nil => exact absurd List.nil_prefix habove
      | cons component rest =>
        rw [removeAt]
        split
        · rw [resolveFrom_directory_cons, resolveFrom_directory_cons, OrderedMap.get?_erase]
          split
          · next hname =>
            subst hname
            exact absurd (List.cons_prefix_cons.mpr ⟨rfl, List.nil_prefix⟩) hbelow
          · rfl
        · rfl
  | cons component parent ih =>
    cases current with
    | file => rfl
    | directory children modifiedAt =>
      cases path with
      | nil => exact absurd List.nil_prefix habove
      | cons first rest =>
        rw [removeAt]
        split
        · next child hchild =>
          rw [resolveFrom_directory_cons, resolveFrom_directory_cons, OrderedMap.get?_insert]
          split
          · next hname =>
            subst hname
            rw [List.cons_append, List.cons_prefix_cons, and_iff_right rfl] at hbelow habove
            rw [Option.bind_some, ih hbelow habove, hchild, Option.bind_some]
          · rfl
        · rfl

/-! ## 3. What the files come to -/

variable {worth : UInt64 → UInt64}

theorem sumChildren_eq (worth : UInt64 → UInt64) (children : List (String × NamespaceEntry)) :
    sumChildren worth children = total (sumFiles worth) children := by
  induction children with
  | nil => rfl
  | cons child rest ih =>
    rw [sumChildren, OrderedMap.total_cons, ih]

theorem sumFiles_directory (worth : UInt64 → UInt64) (children : List (String × NamespaceEntry))
    (modifiedAt : SecureTimestamp) :
    (directory children modifiedAt).sumFiles worth = total (sumFiles worth) children := by
  rw [sumFiles, sumChildren_eq]

/-- **`put` adds its entry and takes away what it replaces.** -/
theorem sumFiles_putAt (hordered : current.Ordered)
    (h : (putAt clock name entry depth parent last current).2 = .ok ()) :
    (putAt clock name entry depth parent last current).1.sumFiles worth +
        worthOf (sumFiles worth) (current.resolveFrom (parent ++ [name])) =
      current.sumFiles worth + entry.sumFiles worth := by
  induction parent generalizing depth last current with
  | nil =>
    cases current with
    | file => cases h
    | directory children modifiedAt =>
      have hfound : (directory children modifiedAt).resolveFrom [name] = get? children name := by
        rw [resolveFrom_directory_cons]
        cases get? children name with
        | none => rfl
        | some child => exact resolveFrom_nil child
      rw [putAt, List.nil_append, hfound, sumFiles_directory, sumFiles_directory]
      exact OrderedMap.total_insert _ hordered.ascending name entry
  | cons component rest ih =>
    cases current with
    | file => cases h
    | directory children modifiedAt =>
      rw [putAt, List.cons_append, resolveFrom_directory_cons, sumFiles_directory,
        sumFiles_directory]
      have hinsert := OrderedMap.total_insert (sumFiles worth) hordered.ascending component
      rw [putAt] at h
      cases hchild : get? children component with
      | some child =>
        rw [hchild] at hinsert h
        have hchild' := ih (hordered.get? hchild) h
        have hinsert' := hinsert
          (putAt clock name entry (depth + 1) rest component child).1
        rw [worthOf, Option.map_some, Option.getD_some] at hinsert'
        rw [Option.bind_some, Option.getD_some]
        grind
      | none =>
        rw [hchild] at hinsert h
        have hmade := ih (ordered_empty (clock.created (depth + 1))) h
        have hempty : ∀ stamp : SecureTimestamp,
            (directory [] stamp).resolveFrom (rest ++ [name]) = none := by
          intro stamp
          cases rest <;> rfl
        have hnothing : (directory [] (clock.created (depth + 1))).sumFiles worth = 0 := rfl
        have hinsert' := hinsert (putAt clock name entry (depth + 1) rest component
          (directory [] (clock.created (depth + 1)))).1
        rw [worthOf, Option.map_none, Option.getD_none, add_zero] at hinsert'
        rw [hempty, hnothing, worthOf, Option.map_none, Option.getD_none, add_zero, zero_add]
          at hmade
        rw [Option.bind_none, Option.getD_none, worthOf, Option.map_none, Option.getD_none,
          add_zero, hinsert', hmade]

/-- **`remove` takes away what it takes out.** -/
theorem sumFiles_removeAt (hordered : current.Ordered)
    (h : (removeAt stamp name given parentPath parent current).2 = .ok removed) :
    (removeAt stamp name given parentPath parent current).1.sumFiles worth +
      removed.sumFiles worth = current.sumFiles worth := by
  induction parent generalizing current with
  | nil =>
    cases current with
    | file => cases h
    | directory children modifiedAt =>
      rw [removeAt] at h ⊢
      split at h
      · next found hfound =>
        obtain rfl : found = removed := Except.ok.inj h
        have herase := OrderedMap.total_erase (sumFiles worth) hordered.ascending name
        rw [hfound, worthOf, Option.map_some, Option.getD_some] at herase
        rw [sumFiles_directory, sumFiles_directory]
        exact herase
      · cases h
  | cons component rest ih =>
    cases current with
    | file => cases h
    | directory children modifiedAt =>
      rw [removeAt] at h ⊢
      split at h
      · next child hchild =>
        have hchild' := ih (hordered.get? hchild) h
        have hinsert := OrderedMap.total_insert (sumFiles worth) hordered.ascending component
          (removeAt stamp name given parentPath rest child).1
        rw [hchild, worthOf, Option.map_some, Option.getD_some] at hinsert
        rw [sumFiles_directory, sumFiles_directory]
        grind
      · cases h

end

end NamespaceEntry

/-! ## 4. Edits of a namespace -/

namespace Namespace

open NamespaceEntry
open NamespaceStore.Namespace (removed)

section

variable {ns : Namespace} {clock : Readings} {path : String} {entry : OrderedEntry}

/-- **What `put` does.** -/
theorem put_cases (ns : Namespace) (clock : Readings) (path : String) (entry : OrderedEntry) :
    (pathComponents path = [] ∧
      ns.put clock path entry = (ns, .error (.invalidPath "Cannot replace root"))) ∨
    ∃ (parent : List String) (name : String) (root : OrderedEntry),
      pathComponents path = parent ++ [name] ∧
      root.1 = (putAt clock name entry.1 0 parent "" ns.root.1).1 ∧
      ns.put clock path entry =
        (ns.edited root clock.modified (putAt clock name entry.1 0 parent "" ns.root.1).2.toBool,
          (putAt clock name entry.1 0 parent "" ns.root.1).2) := by
  unfold put
  dsimp only
  split
  · next hnone => exact .inl ⟨List.getLast?_eq_none_iff.mp hnone, rfl⟩
  · next name hname =>
    exact .inr ⟨(pathComponents path).dropLast, name, _,
      (List.dropLast_append_getLast? _ hname).symm, rfl, rfl⟩

/-- **What `remove` does.** -/
theorem remove_cases (ns : Namespace) (clock : Readings) (path : String) :
    (pathComponents path = [] ∧
      ns.remove clock path = (ns, .error (.invalidPath "Cannot remove root"))) ∨
    ∃ (name : String) (root : OrderedEntry),
      pathComponents path = (pathComponents path).dropLast ++ [name] ∧
      root.1 = (removeAt (clock.entered 0) name path (parentPath (pathComponents path))
        (pathComponents (parentPath (pathComponents path))) ns.root.1).1 ∧
      ns.remove clock path =
        (ns.edited root clock.modified
          (removeAt (clock.entered 0) name path (parentPath (pathComponents path))
            (pathComponents (parentPath (pathComponents path))) ns.root.1).2.toBool,
          (removeAt (clock.entered 0) name path (parentPath (pathComponents path))
            (pathComponents (parentPath (pathComponents path))) ns.root.1).2) := by
  unfold remove
  dsimp only
  split
  · next hnone => exact .inl ⟨List.getLast?_eq_none_iff.mp hnone, rfl⟩
  · next name hname =>
    exact .inr ⟨name, _, (List.dropLast_append_getLast? _ hname).symm, rfl, rfl⟩

@[simp] theorem edited_root (ns : Namespace) (root : OrderedEntry) (modified : SecureTimestamp)
    (ok : Bool) : (ns.edited root modified ok).root = root := by
  cases ok <;> rfl

/-- Neither path goes through the other. -/
def Apart (path other : String) : Prop :=
  ¬pathComponents path <+: pathComponents other ∧ ¬pathComponents other <+: pathComponents path

/-- What an edit of a path may not change. -/
def SameElsewhere (ns changed : Namespace) (path : String) : Prop :=
  ∀ other, Apart path other → changed.resolve other = ns.resolve other

theorem put_laws (h : (ns.put clock path entry).2 = .ok ()) :
    (ns.put clock path entry).1.resolve path = some entry.1 ∧
      SameElsewhere ns (ns.put clock path entry).1 path ∧
      ∀ worth, (ns.put clock path entry).1.root.1.sumFiles worth +
          worthOf (sumFiles worth) (ns.resolve path) =
        ns.root.1.sumFiles worth + entry.1.sumFiles worth := by
  obtain ⟨-, hput⟩ | ⟨parent, name, root, hpath, hroot, hput⟩ := put_cases ns clock path entry
  · rw [hput] at h
    cases h
  · rw [hput] at h ⊢
    simp only [resolve, edited_root, hpath, hroot, SameElsewhere, Apart]
    exact ⟨resolveFrom_putAt_self h, fun other hapart =>
      resolveFrom_putAt_other hapart.1 hapart.2, fun worth => sumFiles_putAt ns.root.2 h⟩

/-- A parent path that is read back leads to the parent. -/
theorem parent_of_removed {name : String} (h : removed path = pathComponents path)
    (hpath : pathComponents path = (pathComponents path).dropLast ++ [name]) :
    pathComponents (parentPath (pathComponents path)) ++ [name] = pathComponents path := by
  have hlast : (pathComponents path).getLast? = some name := by
    rw [hpath, List.getLast?_concat]
  rw [removed, hlast] at h
  exact h

theorem remove_laws (hback : removed path = pathComponents path) :
    (∀ found, (ns.remove clock path).2 = .ok found ↔
      pathComponents path ≠ [] ∧ ns.resolve path = some found) ∧
    ∀ found, (ns.remove clock path).2 = .ok found →
      (ns.remove clock path).1.resolve path = none ∧
      SameElsewhere ns (ns.remove clock path).1 path ∧
      ∀ worth, (ns.remove clock path).1.root.1.sumFiles worth + found.sumFiles worth =
        ns.root.1.sumFiles worth := by
  obtain ⟨hpath, hremove⟩ | ⟨name, root, hpath, hroot, hremove⟩ := remove_cases ns clock path
  · rw [hremove]
    exact ⟨fun found => ⟨fun h => (by cases h), fun h => absurd hpath h.1⟩,
      fun found h => (by cases h)⟩
  · have hparent := parent_of_removed hback hpath
    have hne : pathComponents path ≠ [] := by
      rw [hpath]
      exact List.append_ne_nil_of_right_ne_nil _ (List.cons_ne_nil _ _)
    rw [hremove, edited_root]
    simp only [resolve, hroot, SameElsewhere, Apart, edited_root]
    generalize pathComponents (parentPath (pathComponents path)) = parent at hparent
    rw [← hparent] at hne ⊢
    exact ⟨fun found => removeAt_eq_ok.trans (and_iff_right hne).symm, fun found h =>
      ⟨resolveFrom_removeAt_self h, fun other hapart =>
        resolveFrom_removeAt_other hapart.1 hapart.2, fun worth => sumFiles_removeAt ns.root.2 h⟩⟩

theorem notMem_of_mem_pathComponents {component : String}
    (h : component ∈ pathComponents path) : '/' ∉ component.toList := by
  unfold NamespaceStore.Namespace.pathComponents at h
  dsimp only at h
  split at h
  · cases h
  · obtain ⟨piece, hpiece, rfl⟩ := List.mem_map.mp h
    rw [String.toList_ofList]
    exact Text.notMem_of_mem_splitOn hpiece

/-- **The laws of the tree.**  After a `put` its entry is found, and where `remove` looks for the
parent of a path under the path's own components, it takes out exactly what is found; other paths
are left alone, and the counts change by what came in and what went out. -/
theorem tree_laws (ns : Namespace) (clock : Readings) (path : String) :
    (∀ entry, (ns.put clock path entry).2 = .ok () →
      (ns.put clock path entry).1.resolve path = some entry.1 ∧
      SameElsewhere ns (ns.put clock path entry).1 path ∧
      (ns.put clock path entry).1.entryCount + worthOf countRecursive (ns.resolve path) =
        ns.entryCount + entry.1.countRecursive ∧
      (ns.put clock path entry).1.totalSize + worthOf size (ns.resolve path) =
        ns.totalSize + entry.1.size) ∧
    (removed path = pathComponents path →
      (∀ found, (ns.remove clock path).2 = .ok found ↔
        pathComponents path ≠ [] ∧ ns.resolve path = some found) ∧
      ∀ found, (ns.remove clock path).2 = .ok found →
        (ns.remove clock path).1.resolve path = none ∧
        SameElsewhere ns (ns.remove clock path).1 path ∧
        (ns.remove clock path).1.entryCount + found.countRecursive = ns.entryCount ∧
        (ns.remove clock path).1.totalSize + found.size = ns.totalSize) := by
  constructor
  · intro entry h
    obtain ⟨hself, hother, hsums⟩ := put_laws h
    exact ⟨hself, hother, hsums fun _ => 1, hsums id⟩
  · intro hback
    obtain ⟨hfound, hlaws⟩ := @remove_laws ns clock path hback
    refine ⟨hfound, fun found h => ?_⟩
    obtain ⟨hself, hother, hsums⟩ := hlaws found h
    exact ⟨hself, hother, hsums fun _ => 1, hsums id⟩

end

/-! ## 5. Where the laws end -/

/-- A clock that stands still. -/
def stillClock (now : SecureTimestamp) : Readings := ⟨fun _ => now, fun _ => now, now⟩

def emptyNamespace (now : SecureTimestamp) : Namespace :=
  ⟨1, "", ⟨.directory [] now, ordered_empty now⟩, now, now, none⟩

def sampleFile (now : SecureTimestamp) : OrderedEntry :=
  ⟨.file ⟨"elastos://sha256:00"⟩ 1 none now, .file _ _ _ _⟩

/-- A namespace with one file. -/
def withFile (path : String) : Namespace :=
  ((emptyNamespace ⟨0, 0⟩).put (stillClock ⟨0, 0⟩) path (sampleFile ⟨0, 0⟩)).1

/-- A directory above what is removed does not stay as it was, and behind a path of two slashes in
a row `remove` finds nothing of what `put` has put there. -/
theorem remove_laws_fail :
    ((∃ found, ((withFile "a/f").remove (stillClock ⟨0, 0⟩) "a/f").2 = .ok found) ∧
      ¬pathComponents "a/f" <+: pathComponents "a" ∧
      ((withFile "a/f").remove (stillClock ⟨0, 0⟩) "a/f").1.resolve "a" ≠
        (withFile "a/f").resolve "a") ∧
    (withFile "a//f").resolve "a//f" = some (sampleFile ⟨0, 0⟩).1 ∧
      pathComponents "a//f" ≠ [] ∧
      ¬∃ found, ((withFile "a//f").remove (stillClock ⟨0, 0⟩) "a//f").2 = .ok found := by
  have hok : ∀ {result : Except NamespaceError NamespaceEntry}, result.toBool = true →
      ∃ found, result = .ok found := by
    intro result h
    cases result with
    | ok found => exact ⟨found, rfl⟩
    | error e => cases h
  refine ⟨⟨hok (by decide +kernel), by decide +kernel, fun h => ?_⟩, ?_, by decide +kernel, ?_⟩
  · have hcount := congrArg (Option.map countRecursive) h
    revert hcount
    decide +kernel
  · have hput : ((emptyNamespace ⟨0, 0⟩).put (stillClock ⟨0, 0⟩) "a//f" (sampleFile ⟨0, 0⟩)).2 =
        .ok () := by decide +kernel
    exact (put_laws hput).1
  · rintro ⟨found, hfound⟩
    have hfails : ((withFile "a//f").remove (stillClock ⟨0, 0⟩) "a//f").2.toBool = false := by
      decide +kernel
    rw [hfound] at hfails
    cases hfails

end Namespace

end ElastosRuntime.StampedNamespace
