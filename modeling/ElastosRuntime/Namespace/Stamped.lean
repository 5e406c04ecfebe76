/-
# Namespaces with their modification times

`namespace.rs` in full: the tree as `Tree` has it, with the times its entries bear, and the
namespace around it with its own times and its signature.  A directory's children are a tree map,
in the order of their names, and the root of a namespace carries that they are.

`children_mut` stamps a directory whenever it hands out its children, before anything is known to
come of it.  So an edit that fails is not without effect, and `put` and `remove` give the namespace
they leave in either case.  What the clock reads during an edit is an argument.
-/
import Mathlib.Data.String.Basic
import ElastosRuntime.Lib.OrderedMap
import ElastosRuntime.Namespace.Tree

namespace ElastosRuntime.StampedNamespace

open NamespaceStore (ContentId NamespaceError)
open NamespaceStore.Namespace (pathComponents parentPath)
open OrderedMap (get?)

/-! ## 1. Entries -/

inductive NamespaceEntry where
  | file (cid : ContentId) (size : UInt64) (contentType : Option String)
      (modifiedAt : SecureTimestamp)
  | directory (children : List (String × NamespaceEntry)) (modifiedAt : SecureTimestamp)

namespace NamespaceEntry

def isDirectory : NamespaceEntry → Bool
  | file .. => false
  | directory .. => true

def cid : NamespaceEntry → Option ContentId
  | file cid .. => some cid
  | directory .. => none

def modifiedAt : NamespaceEntry → SecureTimestamp
  | file _ _ _ modifiedAt => modifiedAt
  | directory _ modifiedAt => modifiedAt

/-- The children of every directory are a tree map. -/
inductive Ordered : NamespaceEntry → Prop where
  | file (cid : ContentId) (size : UInt64) (contentType : Option String)
      (modifiedAt : SecureTimestamp) : Ordered (file cid size contentType modifiedAt)
  | directory {children : List (String × NamespaceEntry)} (modifiedAt : SecureTimestamp)
      (ascending : OrderedMap.Ascending children) (ordered : ∀ child ∈ children, Ordered child.2) :
      Ordered (directory children modifiedAt)

mutual

/-- A sum over the files of an entry, as the code counts: without regard to an overflow. -/
def sumFiles (worth : UInt64 → UInt64) : NamespaceEntry → UInt64
  | file _ size _ _ => worth size
  | directory children _ => sumChildren worth children

def sumChildren (worth : UInt64 → UInt64) : List (String × NamespaceEntry) → UInt64
  | [] => 0
  | (_, child) :: rest => sumFiles worth child + sumChildren worth rest

end

def size (entry : NamespaceEntry) : UInt64 := entry.sumFiles id

def countRecursive (entry : NamespaceEntry) : UInt64 := entry.sumFiles fun _ => 1

/-- The loop of `resolve`. -/
def resolveFrom : NamespaceEntry → List String → Option NamespaceEntry
  | current, [] => some current
  | directory children _, component :: rest =>
    (get? children component).bind (resolveFrom · rest)
  | file .., _ :: _ => none

/-- What the clock reads during an edit. -/
structure Readings where
  /-- When the directory at a depth hands out its children. -/
  entered : Nat → SecureTimestamp
  /-- When the directory at a depth is made. -/
  created : Nat → SecureTimestamp
  /-- When the namespace itself is stamped. -/
  modified : SecureTimestamp

/-- The loop of `get_or_create_parent`, and the insertion into the directory it ends at: the entry
as it is left, and what came of it. -/
def putAt (clock : Readings) (name : String) (entry : NamespaceEntry) :
    Nat → List String → String → NamespaceEntry → NamespaceEntry × Except NamespaceError Unit
  | depth, [], _, directory children _ =>
    (directory (OrderedMap.insert children name entry) (clock.entered depth), .ok ())
  | _, [], last, file cid size contentType modifiedAt =>
    (file cid size contentType modifiedAt, .error (.notADirectory last))
  | depth, component :: rest, _, directory children _ =>
    let child := (get? children component).getD (directory [] (clock.created (depth + 1)))
    let (child, result) := putAt clock name entry (depth + 1) rest component child
    (directory (OrderedMap.insert children component child) (clock.entered depth), result)
  | _, component :: _, _, file cid size contentType modifiedAt =>
    (file cid size contentType modifiedAt, .error (.notADirectory component))

/-- The loop of `resolve_mut`, and the removal from the entry it ends at. -/
def removeAt (stamp : SecureTimestamp) (name path parentPath : String) :
    List String → NamespaceEntry → NamespaceEntry × Except NamespaceError NamespaceEntry
  | [], directory children _ =>
    match get? children name with
    | some entry => (directory (OrderedMap.erase children name) stamp, .ok entry)
    | none => (directory children stamp, .error (.notFound path))
  | [], file cid size contentType modifiedAt =>
    (file cid size contentType modifiedAt, .error (.notADirectory parentPath))
  | component :: rest, directory children modifiedAt =>
    match get? children component with
    | some child =>
      let (child, result) := removeAt stamp name path parentPath rest child
      (directory (OrderedMap.insert children component child) modifiedAt, result)
    | none => (directory children modifiedAt, .error (.notFound parentPath))
  | _ :: _, file cid size contentType modifiedAt =>
    (file cid size contentType modifiedAt, .error (.notFound parentPath))

/-! ## 2. The maps stay maps -/

section

variable {children : List (String × NamespaceEntry)} {component name : String}
  {entry current child : NamespaceEntry} {modifiedAt : SecureTimestamp}

theorem Ordered.get? (h : Ordered (NamespaceEntry.directory children modifiedAt))
    (hchild : OrderedMap.get? children component = some child) : child.Ordered := by
  cases h with
  | directory _ _ hordered => exact hordered _ (OrderedMap.mem_of_get?_eq_some hchild)

theorem Ordered.ascending (h : Ordered (NamespaceEntry.directory children modifiedAt)) :
    OrderedMap.Ascending children := by
  cases h with
  | directory _ hascending _ => exact hascending

theorem Ordered.insert (h : Ordered (NamespaceEntry.directory children modifiedAt))
    (hchild : child.Ordered) (component : String) (stamp : SecureTimestamp) :
    Ordered (NamespaceEntry.directory (OrderedMap.insert children component child) stamp) := by
  cases h with
  | directory _ hascending hordered =>
    refine .directory stamp (hascending.insert component child) fun e he => ?_
    rcases OrderedMap.mem_insert he with rfl | he
    · exact hchild
    · exact hordered e he

theorem Ordered.erase (h : Ordered (NamespaceEntry.directory children modifiedAt)) (name : String)
    (stamp : SecureTimestamp) :
    Ordered (NamespaceEntry.directory (OrderedMap.erase children name) stamp) := by
  cases h with
  | directory _ hascending hordered =>
    exact .directory stamp (hascending.erase name) fun e he =>
      hordered e (List.mem_of_mem_filter he)

theorem Ordered.restamp (h : Ordered (NamespaceEntry.directory children modifiedAt))
    (stamp : SecureTimestamp) : Ordered (NamespaceEntry.directory children stamp) := by
  cases h with
  | directory _ hascending hordered => exact .directory stamp hascending hordered

theorem ordered_empty (stamp : SecureTimestamp) : Ordered (NamespaceEntry.directory [] stamp) :=
  .directory stamp List.Pairwise.nil fun _ h => by cases h

theorem Ordered.putAt (clock : Readings) (hentry : entry.Ordered) (parent : List String) :
    ∀ {depth : Nat} {last : String} {current : NamespaceEntry}, current.Ordered →
      (NamespaceEntry.putAt clock name entry depth parent last current).1.Ordered := by
  induction parent with
  | nil =>
    intro depth last current h
    cases current with
    | file => exact h
    | directory => exact h.insert hentry name _
  | cons component rest ih =>
    intro depth last current h
    cases current with
    | file => exact h
    | directory children =>
      refine h.insert (ih ?_) component _
      cases hchild : OrderedMap.get? children component with
      | none => exact ordered_empty _
      | some child => exact h.get? hchild

theorem Ordered.removeAt (stamp : SecureTimestamp) (name path parentPath : String)
    (parent : List String) : ∀ {current : NamespaceEntry}, current.Ordered →
      (NamespaceEntry.removeAt stamp name path parentPath parent current).1.Ordered := by
  induction parent with
  | nil =>
    intro current h
    cases current with
    | file => exact h
    | directory =>
      rw [NamespaceEntry.removeAt]
      split
      · exact h.erase name _
      · exact h.restamp _
  | cons component rest ih =>
    intro current h
    cases current with
    | file => exact h
    | directory =>
      rw [NamespaceEntry.removeAt]
      split
      · next hchild => exact h.insert (ih (h.get? hchild)) component _
      · exact h

end

end NamespaceEntry

/-- An entry whose directories are tree maps. -/
abbrev OrderedEntry := {entry : NamespaceEntry // entry.Ordered}

/-! ## 3. The namespace -/

structure Namespace where
  version : UInt32
  owner : String
  root : OrderedEntry
  createdAt : SecureTimestamp
  modifiedAt : SecureTimestamp
  signature : Option String

namespace Namespace

open NamespaceEntry

def resolve (ns : Namespace) (path : String) : Option NamespaceEntry :=
  ns.root.1.resolveFrom (pathComponents path)

def entryCount (ns : Namespace) : UInt64 := ns.root.1.countRecursive

def totalSize (ns : Namespace) : UInt64 := ns.root.1.size

/-- What is left of a namespace by an edit that leaves this root. -/
def edited (ns : Namespace) (root : OrderedEntry) (modified : SecureTimestamp) (ok : Bool) :
    Namespace :=
  if ok then { ns with root, modifiedAt := modified, signature := none } else { ns with root }

def put (ns : Namespace) (clock : Readings) (path : String) (entry : OrderedEntry) :
    Namespace × Except NamespaceError Unit :=
  let components := pathComponents path
  match components.getLast? with
  | none => (ns, .error (.invalidPath "Cannot replace root"))
  | some name =>
    let walk := putAt clock name entry.1 0 components.dropLast "" ns.root.1
    (ns.edited ⟨walk.1, Ordered.putAt clock entry.2 _ ns.root.2⟩ clock.modified walk.2.toBool,
      walk.2)

def remove (ns : Namespace) (clock : Readings) (path : String) :
    Namespace × Except NamespaceError NamespaceEntry :=
  let components := pathComponents path
  match components.getLast? with
  | none => (ns, .error (.invalidPath "Cannot remove root"))
  | some name =>
    let parent := parentPath components
    let walk := removeAt (clock.entered 0) name path parent (pathComponents parent) ns.root.1
    (ns.edited ⟨walk.1, Ordered.removeAt _ name path parent _ ns.root.2⟩ clock.modified
      walk.2.toBool, walk.2)

end Namespace

end ElastosRuntime.StampedNamespace
