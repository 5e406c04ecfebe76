/-
# Hash-bound support trees

A release's support files are whole trees, and each tree is bound by one digest.  `visit` feeds the
hash with what stands at a path, directory by directory: the permission bits, a tag for the file
type, and then a link's target, a file's content or the children of a directory with their names,
sorted.  Lengths and counts stand before what they measure, the tags do not.  `copyTree` makes the
copies that are staged and kept for a rollback.

The order of the children in a `Tree` is the order in which the directory was listed.  What a tree
is without that order is `Tree.entryAt`, what stands at each path; `frame_eq_iff` says that the
bytes fed to the hash come to the same.
-/
import ElastosRuntime.Primitives
import ElastosRuntime.Lib.Codec
import ElastosRuntime.Lib.Framing

namespace ElastosRuntime.InstallTransaction

/-! ## 1. Trees of files -/

/-- A file name: any bytes. -/
abbrev FileName := List UInt8

/-- What `symlink_metadata` reports of the owner and of the mode, the bits of the file type left
out. -/
structure Metadata where
  uid : UInt32
  mode : UInt32
deriving DecidableEq

/-- What stands at a path, the children of a directory in the order of its listing. -/
inductive Tree where
  | link (metadata : Metadata) (target : List UInt8)
  | directory (metadata : Metadata) (children : List (FileName × Tree))
  | file (metadata : Metadata) (nlink : Nat) (content : List UInt8)
  | other (metadata : Metadata)

/-- Why `state` or `copy_tree` fails. -/
inductive SupportError where
  /-- `unsafe release support ownership or mode` -/
  | ownershipOrMode
  /-- `unsupported release support file type` -/
  | fileType
  /-- `installation file is unsafe: {path}` -/
  | unsafeFile (path : List FileName)
  /-- `installation file is unsafe: {path} is accessible to other users` -/
  | accessibleFile (path : List FileName)
  /-- A step of the file system fails. -/
  | io
deriving DecidableEq

/-- The permission bits of a mode. -/
def permissions (mode : UInt32) : UInt32 := mode &&& 0o777

/-- `check_file` of a regular file, other users being allowed to read it. -/
def checkFile (euid : UInt32) (path : List FileName) (metadata : Metadata) (nlink : Nat) :
    Except SupportError Unit :=
  if metadata.uid ≠ euid ∨ nlink ≠ 1 ∨ metadata.mode &&& 0o6000 ≠ 0 then .error (.unsafeFile path)
  else if metadata.mode &&& 0o022 ≠ 0 then .error (.accessibleFile path)
  else .ok ()

/-- A child in its directory: its name behind the length of it, and what its visit adds. -/
def childBytes (child : FileName × List UInt8) : List UInt8 :=
  leBytes 8 child.1.length ++ child.1 ++ child.2

mutual

/-- `visit`: what it adds to the hash.  The children are sorted before the first is visited. -/
def visit (euid : UInt32) (path : List FileName) : Tree → Except SupportError (List UInt8)
  | .link metadata target =>
    if metadata.uid ≠ euid then .error .ownershipOrMode
    else .ok (leBytes 4 (permissions metadata.mode).toNat ++ utf8Bytes "link" ++
      (leBytes 8 target.length ++ target))
  | .directory metadata children =>
    if metadata.uid ≠ euid ∨ metadata.mode &&& 0o7022 ≠ 0 then .error .ownershipOrMode
    else do
      let added ← (sortByKey Prod.fst (visitChildren euid path children)).mapM fun child =>
        child.2.map fun added => childBytes (child.1, added)
      return leBytes 4 (permissions metadata.mode).toNat ++ utf8Bytes "directory" ++
        (leBytes 8 children.length ++ added.flatten)
  | .file metadata nlink content =>
    if metadata.uid ≠ euid ∨ metadata.mode &&& 0o7022 ≠ 0 then .error .ownershipOrMode
    else do
      checkFile euid path metadata nlink
      return leBytes 4 (permissions metadata.mode).toNat ++ utf8Bytes "file" ++
        (leBytes 8 content.length ++ content)
  | .other metadata =>
    if metadata.uid ≠ euid ∨ metadata.mode &&& 0o7022 ≠ 0 then .error .ownershipOrMode
    else .error .fileType

def visitChildren (euid : UInt32) (path : List FileName) :
    List (FileName × Tree) → List (FileName × Except SupportError (List UInt8))
  | [] => []
  | (name, child) :: children =>
    (name, visit euid (path ++ [name]) child) :: visitChildren euid path children

end

/-- `state`: the digest of what stands at a path, if anything does. -/
def state [Crypto] (euid : UInt32) (path : List FileName) :
    Option Tree → Except SupportError (Option (Bytes 32))
  | none => .ok none
  | some tree => do
    let added ← visit euid path tree
    return some (Crypto.sha256 added)

/-! ## 2. What stands at each path -/

/-- What stands at one path, apart from what stands below it. -/
inductive Node where
  | link (metadata : Metadata) (target : List UInt8)
  | directory (metadata : Metadata)
  | file (metadata : Metadata) (nlink : Nat) (content : List UInt8)
  | other (metadata : Metadata)
deriving DecidableEq

/-- The type of an entry, its permission bits, and its content or target. -/
inductive Entry where
  | link (permissions : UInt32) (target : List UInt8)
  | directory (permissions : UInt32)
  | file (permissions : UInt32) (content : List UInt8)
  | other
deriving DecidableEq

def Node.entry : Node → Entry
  | .link metadata target => .link (permissions metadata.mode) target
  | .directory metadata => .directory (permissions metadata.mode)
  | .file metadata _ content => .file (permissions metadata.mode) content
  | .other _ => .other

namespace Tree

def node : Tree → Node
  | .link metadata target => .link metadata target
  | .directory metadata _ => .directory metadata
  | .file metadata nlink content => .file metadata nlink content
  | .other metadata => .other metadata

/-- The tree at a path below. -/
def find : List FileName → Tree → Option Tree
  | [], tree => some tree
  | name :: path, .directory _ children => (children.lookup name).bind (find path)
  | _ :: _, _ => none

def nodeAt (tree : Tree) (path : List FileName) : Option Node := (tree.find path).map node

def entryAt (tree : Tree) (path : List FileName) : Option Entry := (tree.nodeAt path).map Node.entry

/-- A tree as a file system holds it: the children of a directory have different names, lengths and
counts are 64-bit numbers, and a link has the permission bits that all links have. -/
inductive Stored : Tree → Prop
  | link {metadata : Metadata} {target : List UInt8} (hmode : permissions metadata.mode = 0o777)
      (hlength : target.length < 256 ^ 8) : Stored (.link metadata target)
  | directory {metadata : Metadata} {children : List (FileName × Tree)}
      (hnames : (children.map Prod.fst).Nodup) (hcount : children.length < 256 ^ 8)
      (hlength : ∀ child ∈ children, child.1.length < 256 ^ 8)
      (hstored : ∀ child ∈ children, Stored child.2) : Stored (.directory metadata children)
  | file {metadata : Metadata} {nlink : Nat} {content : List UInt8}
      (hlength : content.length < 256 ^ 8) : Stored (.file metadata nlink content)
  | other {metadata : Metadata} : Stored (.other metadata)

/-- What `visit` asks of every entry. -/
inductive Safe (euid : UInt32) : Tree → Prop
  | link {metadata : Metadata} {target : List UInt8} (howner : metadata.uid = euid) :
      Safe euid (.link metadata target)
  | directory {metadata : Metadata} {children : List (FileName × Tree)}
      (howner : metadata.uid = euid) (hmode : metadata.mode &&& 0o7022 = 0)
      (hsafe : ∀ child ∈ children, Safe euid child.2) : Safe euid (.directory metadata children)
  | file {metadata : Metadata} {content : List UInt8} (howner : metadata.uid = euid)
      (hmode : metadata.mode &&& 0o7022 = 0) : Safe euid (.file metadata 1 content)

/-- Induction over a tree, directory by directory. -/
theorem induct {P : Tree → Prop} (link : ∀ metadata target, P (.link metadata target))
    (directory : ∀ metadata children, (∀ child ∈ children, P child.2) →
      P (.directory metadata children))
    (file : ∀ metadata nlink content, P (.file metadata nlink content))
    (other : ∀ metadata, P (.other metadata)) : ∀ tree, P tree
  | .link metadata target => link metadata target
  | .directory metadata children => directory metadata children fun child hchild =>
    have : sizeOf child < sizeOf children := List.sizeOf_lt_of_mem hchild
    induct link directory file other child.2
  | .file metadata nlink content => file metadata nlink content
  | .other metadata => other metadata
termination_by tree => sizeOf tree
decreasing_by
  rcases child with ⟨name, tree⟩
  simp only [Prod.mk.sizeOf_spec, Tree.directory.sizeOf_spec] at this ⊢
  omega

end Tree

/-- A tree of files, as a file system holds it. -/
structure SupportTree where
  tree : Tree
  stored : tree.Stored

/-! ## 3. The bytes of a tree -/

/-- An entry with the bytes of its children, which stand in the order of their names. -/
inductive Surface where
  | link (permissions : UInt32) (target : List UInt8)
  | directory (permissions : UInt32) (children : List (FileName × List UInt8))
  | file (permissions : UInt32) (content : List UInt8)
  | other
deriving DecidableEq

def headBytes (permissions : UInt32) (tag : String) : List UInt8 :=
  leBytes 4 permissions.toNat ++ utf8Bytes tag

def Surface.encode : Surface → List UInt8
  | .link permissions target =>
    headBytes permissions "link" ++ (leBytes 8 target.length ++ target)
  | .directory permissions children =>
    headBytes permissions "directory" ++ (leBytes 8 children.length ++ children.flatMap childBytes)
  | .file permissions content =>
    headBytes permissions "file" ++ (leBytes 8 content.length ++ content)
  | .other => []

mutual

def Tree.surface : Tree → Surface
  | .link metadata target => .link (permissions metadata.mode) target
  | .directory metadata children =>
    .directory (permissions metadata.mode) (sortByKey Prod.fst (childFrames children))
  | .file metadata _ content => .file (permissions metadata.mode) content
  | .other _ => .other

def childFrames : List (FileName × Tree) → List (FileName × List UInt8)
  | [] => []
  | (name, child) :: children => (name, child.surface.encode) :: childFrames children

end

/-- What a tree adds to the hash. -/
def Tree.frame (tree : Tree) : List UInt8 := tree.surface.encode

theorem childFrames_eq (children : List (FileName × Tree)) :
    childFrames children = children.map fun child => (child.1, child.2.frame) := by
  induction children with
  | nil => rfl
  | cons child children ih => rw [childFrames, ih, List.map_cons, Tree.frame]

theorem visitChildren_eq (euid : UInt32) (path : List FileName)
    (children : List (FileName × Tree)) : visitChildren euid path children =
      children.map fun child => (child.1, visit euid (path ++ [child.1]) child.2) := by
  induction children with
  | nil => rfl
  | cons child children ih => rw [visitChildren, ih, List.map_cons]

theorem sortByKey_map {α : Type} (f : FileName × Tree → α) (children : List (FileName × Tree)) :
    sortByKey Prod.fst (children.map fun child => (child.1, f child)) =
      (sortByKey Prod.fst children).map fun child => (child.1, f child) :=
  (List.map_insertionSort (fun a b : FileName × Tree => a.1 ≤ b.1)
    (fun a b : FileName × α => a.1 ≤ b.1) (fun child => (child.1, f child)) children
      fun _ _ _ _ => Iff.rfl).symm

theorem sortByKey_fst_perm {α : Type} (l : List (FileName × α)) :
    (sortByKey Prod.fst l).Perm l := List.perm_insertionSort _ l

theorem length_sorted_childFrames (children : List (FileName × Tree)) :
    (sortByKey Prod.fst (childFrames children)).length = children.length := by
  rw [(sortByKey_fst_perm _).length_eq, childFrames_eq, List.length_map]

/-- Visiting one entry after the other. -/
theorem mapM_visit_eq_ok {α : Type} {l : List α} {f : α → Except SupportError (List UInt8)}
    {P : α → Prop} {g : α → List UInt8}
    (h : ∀ a ∈ l, ∀ added, f a = .ok added ↔ P a ∧ g a = added) {blocks : List (List UInt8)} :
    l.mapM f = .ok blocks ↔ (∀ a ∈ l, P a) ∧ l.map g = blocks := by
  rw [Codec.mapM_eq_ok]
  induction l generalizing blocks with
  | nil => simp [eq_comm]
  | cons a l ih =>
    rw [List.forall₂_cons_left_iff]
    constructor
    · rintro ⟨added, rest, hadded, hrest, rfl⟩
      obtain ⟨ha, rfl⟩ := (h a List.mem_cons_self added).mp hadded
      obtain ⟨hl, rfl⟩ := (ih fun a ha => h a (List.mem_cons_of_mem _ ha)).mp hrest
      exact ⟨List.forall_mem_cons.mpr ⟨ha, hl⟩, rfl⟩
    · rintro ⟨hall, rfl⟩
      obtain ⟨ha, hl⟩ := List.forall_mem_cons.mp hall
      exact ⟨_, _, (h a List.mem_cons_self _).mpr ⟨ha, rfl⟩,
        (ih fun a ha => h a (List.mem_cons_of_mem _ ha)).mpr ⟨hl, rfl⟩, rfl⟩

theorem map_eq_ok {x : Except SupportError (List UInt8)} {f : List UInt8 → List UInt8}
    {added : List UInt8} : x.map f = .ok added ↔ ∃ frame, x = .ok frame ∧ f frame = added := by
  cases x with
  | error e => simp [Except.map]
  | ok frame => simp [Except.map]

variable {euid : UInt32} {path : List FileName}

variable {metadata metadata' : Metadata}

theorem checkFile_eq_ok {nlink : Nat} :
    checkFile euid path metadata nlink = .ok () ↔
      (metadata.uid = euid ∧ nlink = 1 ∧ metadata.mode &&& 0o6000 = 0) ∧
        metadata.mode &&& 0o022 = 0 := by
  rw [checkFile]
  split
  · rename_i hrefused
    simp only [reduceCtorEq, false_iff, not_and]
    rintro ⟨howner, hnlink, hmode⟩
    simp [howner, hnlink, hmode] at hrefused
  · rename_i hsafe
    simp only [not_or, Decidable.not_not] at hsafe
    split <;> simp_all

theorem frame_directory (metadata : Metadata) (children : List (FileName × Tree)) :
    (Tree.directory metadata children).frame = headBytes (permissions metadata.mode) "directory" ++
      (leBytes 8 children.length ++
        ((sortByKey Prod.fst (childFrames children)).map childBytes).flatten) := by
  rw [Tree.frame, Tree.surface, Surface.encode, length_sorted_childFrames, List.flatMap_def]

/-- Bits that are all clear are clear in part. -/
theorem and_eq_zero_of_and_eq_zero {mode bits part : UInt32} (hpart : bits &&& part = part)
    (h : mode &&& bits = 0) : mode &&& part = 0 := by
  rw [← hpart, ← UInt32.and_assoc, h, UInt32.zero_and]

variable {tree : Tree}

/-- **What `visit` accepts, and what it adds to the hash.** -/
theorem visit_eq_ok : ∀ {path : List FileName} {added : List UInt8},
    visit euid path tree = .ok added ↔ tree.Safe euid ∧ tree.frame = added := by
  induction tree using Tree.induct with
  | link metadata target =>
    intro path added
    rw [visit]
    split
    · rename_i howner
      simp only [reduceCtorEq, false_iff, not_and]
      intro hsafe
      cases hsafe with
      | link hsame => exact absurd hsame howner
    · rename_i howner
      have hsafe : (Tree.link metadata target).Safe euid := .link (Decidable.not_not.mp howner)
      rw [Except.ok.injEq, and_iff_right hsafe]
      rfl
  | directory metadata children ih =>
    intro path added
    have hvisits : ∀ blocks, (sortByKey Prod.fst (visitChildren euid path children)).mapM
        (fun child => child.2.map fun added => childBytes (child.1, added)) = .ok blocks ↔
          (∀ child ∈ children, child.2.Safe euid) ∧
            (sortByKey Prod.fst (childFrames children)).map childBytes = blocks := by
      intro blocks
      rw [visitChildren_eq, sortByKey_map, List.mapM_map, childFrames_eq, sortByKey_map,
        List.map_map, mapM_visit_eq_ok (P := fun child => child.2.Safe euid)
          (g := fun child => childBytes (child.1, child.2.frame))]
      · simp only [(sortByKey_fst_perm children).mem_iff]
        rfl
      · intro child hchild frame
        rw [Function.comp_apply, map_eq_ok]
        simp only [ih child ((sortByKey_fst_perm children).mem_iff.mp hchild)]
        constructor
        · rintro ⟨_, ⟨hsafe, rfl⟩, hframe⟩
          exact ⟨hsafe, hframe⟩
        · rintro ⟨hsafe, hframe⟩
          exact ⟨_, ⟨hsafe, rfl⟩, hframe⟩
    rw [visit]
    split
    · rename_i hrefused
      simp only [reduceCtorEq, false_iff, not_and]
      intro hsafe
      cases hsafe with
      | directory howner hmode => simp [howner, hmode] at hrefused
    · rename_i howned
      simp only [not_or, Decidable.not_not] at howned
      rw [Codec.bind_eq_ok]
      simp only [hvisits]
      constructor
      · rintro ⟨_, ⟨hsafe, rfl⟩, hadded⟩
        exact ⟨.directory howned.1 howned.2 hsafe,
          (frame_directory metadata children).trans (Except.ok.inj hadded)⟩
      · rintro ⟨hsafe, hadded⟩
        cases hsafe with
        | directory howner hmode hsafe =>
          exact ⟨_, ⟨hsafe, rfl⟩, congrArg Except.ok
            ((frame_directory metadata children).symm.trans hadded)⟩
  | file metadata nlink content =>
    intro path added
    rw [visit]
    split
    · rename_i hrefused
      simp only [reduceCtorEq, false_iff, not_and]
      intro hsafe
      cases hsafe with
      | file howner hmode => simp [howner, hmode] at hrefused
    · rename_i howned
      simp only [not_or, Decidable.not_not] at howned
      rw [Codec.bind_eq_ok]
      constructor
      · rintro ⟨⟨⟩, hcheck, hadded⟩
        obtain ⟨⟨howner, rfl, -⟩, -⟩ := checkFile_eq_ok.mp hcheck
        exact ⟨.file howner howned.2, Except.ok.inj hadded⟩
      · rintro ⟨hsafe, hadded⟩
        cases hsafe with
        | file howner hmode =>
          refine ⟨(), checkFile_eq_ok.mpr ⟨⟨howner, rfl, ?_⟩, ?_⟩, congrArg Except.ok hadded⟩
          · exact and_eq_zero_of_and_eq_zero (by decide) hmode
          · exact and_eq_zero_of_and_eq_zero (by decide) hmode
  | other metadata =>
    intro path added
    have hrefused : ¬(Tree.other metadata).Safe euid := fun hsafe => by cases hsafe
    rw [visit]
    split <;> simp [hrefused]

/-! ## 4. The bytes tell the entries apart -/

theorem selfDelimiting_permissions : SelfDelimiting (fun _ => True)
    fun permissions : UInt32 => leBytes 4 permissions.toNat := by
  have h := (SelfDelimiting.le 4).comap fun (a b : UInt32) h => UInt32.toNat_inj.mp h
  exact fun a b _ _ => h a.toNat_lt b.toNat_lt

theorem headBytes_append_inj {p q : UInt32} {tag tag' : String} {x y s t : List UInt8}
    (h : headBytes p tag ++ x ++ s = headBytes q tag' ++ y ++ t) :
    p = q ∧ utf8Bytes tag ++ (x ++ s) = utf8Bytes tag' ++ (y ++ t) := by
  simp only [headBytes, List.append_assoc] at h ⊢
  exact selfDelimiting_permissions trivial trivial h

/-- The frames that the trees of a file system can have. -/
def IsFrame (bytes : List UInt8) : Prop :=
  ∃ euid tree, Tree.Safe euid tree ∧ tree.Stored ∧ tree.frame = bytes

/-- The children of a directory, as they stand in its bytes. -/
def IsChild (child : FileName × List UInt8) : Prop := child.1.length < 256 ^ 8 ∧ IsFrame child.2

theorem isChild_of_mem_childFrames {children : List (FileName × Tree)}
    (hsafe : (Tree.directory metadata children).Safe euid)
    (hstored : (Tree.directory metadata children).Stored) {child : FileName × List UInt8}
    (h : child ∈ sortByKey Prod.fst (childFrames children)) :
    IsChild child := by
  rw [(sortByKey_fst_perm _).mem_iff, childFrames_eq, List.mem_map] at h
  obtain ⟨child, hchild, rfl⟩ := h
  cases hsafe with
  | directory howner hmode hsafe =>
    cases hstored with
    | directory hnames hcount hlength hstored =>
      exact ⟨hlength child hchild, euid, child.2, hsafe child hchild, hstored child hchild, rfl⟩

theorem childBytes_delimited {child : FileName × List UInt8} (hlength : child.1.length < 256 ^ 8)
    (h : DelimitedAmong IsFrame id child.2) : DelimitedAmong IsChild childBytes child := by
  have hname := (SelfDelimiting.prefixed 8).among hlength
  rintro other ⟨hother, hframe⟩ s t heq
  exact hname.append h ⟨hother, hframe⟩ heq

/-- Tags of different first bytes. -/
theorem tag_append_ne {tag tag' : String} {b b' : UInt8} (h : (utf8Bytes tag).head? = some b)
    (h' : (utf8Bytes tag').head? = some b') (hne : b ≠ b') (s t : List UInt8) :
    utf8Bytes tag ++ s ≠ utf8Bytes tag' ++ t := by
  obtain ⟨xs, hxs⟩ := List.head?_eq_some_iff.mp h
  obtain ⟨ys, hys⟩ := List.head?_eq_some_iff.mp h'
  rw [hxs, hys]
  exact fun heq => hne (List.cons.inj heq).1

theorem head_link : (utf8Bytes "link").head? = some 0x6c := by decide

theorem head_directory : (utf8Bytes "directory").head? = some 0x64 := by decide

theorem head_file : (utf8Bytes "file").head? = some 0x66 := by decide

/-- A surface whose lengths fit, and whose children are of the kind `P`. -/
def Surface.Bounded (P : FileName × List UInt8 → Prop) : Surface → Prop
  | .link _ target => target.length < 256 ^ 8
  | .directory _ children => children.length < 256 ^ 8 ∧ ∀ child ∈ children, P child
  | .file _ content => content.length < 256 ^ 8
  | .other => False

/-- **A surface is told by its bytes**, when its children are. -/
theorem Surface.encode_append_inj {p q : Surface}
    (hp : p.Bounded (DelimitedAmong IsChild childBytes)) (hq : q.Bounded IsChild)
    {s t : List UInt8} (h : p.encode ++ s = q.encode ++ t) : p = q ∧ s = t := by
  cases p with
  | other => cases hp
  | link permissions target =>
    cases q with
    | other => cases hq
    | link permissions' target' =>
      obtain ⟨rfl, htag⟩ := headBytes_append_inj h
      obtain ⟨rfl, hst⟩ := SelfDelimiting.prefixed 8 hp hq (List.append_cancel_left htag)
      exact ⟨rfl, hst⟩
    | directory =>
      exact absurd (headBytes_append_inj h).2
        (tag_append_ne head_link head_directory (by decide) _ _)
    | file =>
      exact absurd (headBytes_append_inj h).2
        (tag_append_ne head_link head_file (by decide) _ _)
  | directory permissions children =>
    cases q with
    | other => cases hq
    | link =>
      exact absurd (headBytes_append_inj h).2
        (tag_append_ne head_directory head_link (by decide) _ _)
    | directory permissions' children' =>
      obtain ⟨rfl, htag⟩ := headBytes_append_inj h
      have hcount := List.append_cancel_left htag
      rw [List.append_assoc, List.append_assoc] at hcount
      obtain ⟨hlength, hchildren⟩ := SelfDelimiting.le 8 hp.1 hq.1 hcount
      obtain ⟨rfl, hst⟩ := DelimitedAmong.flatMap hp.2 hq.2 hlength hchildren
      exact ⟨rfl, hst⟩
    | file =>
      exact absurd (headBytes_append_inj h).2
        (tag_append_ne head_directory head_file (by decide) _ _)
  | file permissions content =>
    cases q with
    | other => cases hq
    | link =>
      exact absurd (headBytes_append_inj h).2
        (tag_append_ne head_file head_link (by decide) _ _)
    | directory =>
      exact absurd (headBytes_append_inj h).2
        (tag_append_ne head_file head_directory (by decide) _ _)
    | file permissions' content' =>
      obtain ⟨rfl, htag⟩ := headBytes_append_inj h
      obtain ⟨rfl, hst⟩ := SelfDelimiting.prefixed 8 hp hq (List.append_cancel_left htag)
      exact ⟨rfl, hst⟩

/-- The surface of an accepted tree fits, and its children are those of an accepted tree. -/
theorem bounded_surface (hsafe : tree.Safe euid) (hstored : tree.Stored) :
    tree.surface.Bounded IsChild := by
  cases hstored with
  | link hmode hlength => exact hlength
  | directory hnames hcount hlength hstored =>
    refine ⟨by rwa [length_sorted_childFrames], fun child hchild => ?_⟩
    exact isChild_of_mem_childFrames hsafe (.directory hnames hcount hlength hstored) hchild
  | file hlength => exact hlength
  | other => cases hsafe

/-- **What a tree adds to the hash tells its surface**, whatever stands behind. -/
theorem frame_append_inj (hsafe : tree.Safe euid) (hstored : tree.Stored) :
    ∀ {euid' : UInt32} {other : Tree}, other.Safe euid' →
      other.Stored → ∀ {s t : List UInt8}, tree.frame ++ s = other.frame ++ t →
        tree.surface = other.surface ∧ s = t := by
  induction hsafe with
  | @link metadata target howner =>
    intro euid' other hsafe' hstored' s t h
    cases hstored with
    | link hmode hlength =>
      have hbounded : (Tree.link metadata target).surface.Bounded
          (DelimitedAmong IsChild childBytes) := hlength
      exact Surface.encode_append_inj hbounded (bounded_surface hsafe' hstored') h
  | @directory metadata children howner hmode hsafe ih =>
    intro euid' other hsafe' hstored' s t h
    cases hstored with
    | directory hnames hcount hlength hstored =>
      have hbounded : (Tree.directory metadata children).surface.Bounded
          (DelimitedAmong IsChild childBytes) := by
        refine ⟨by rwa [length_sorted_childFrames], fun child hchild => ?_⟩
        rw [(sortByKey_fst_perm _).mem_iff, childFrames_eq, List.mem_map] at hchild
        obtain ⟨child, hchild, rfl⟩ := hchild
        -- the bytes of a child are told among those of all accepted trees, by induction
        refine childBytes_delimited (hlength child hchild) ?_
        rintro _ ⟨euid', other, hsafe', hstored', rfl⟩ s t hframes
        obtain ⟨hsurface, hst⟩ := ih child hchild (hstored child hchild) hsafe' hstored' hframes
        exact ⟨congrArg Surface.encode hsurface, hst⟩
      exact Surface.encode_append_inj hbounded (bounded_surface hsafe' hstored') h
  | @file metadata content howner hmode =>
    intro euid' other hsafe' hstored' s t h
    cases hstored with
    | file hlength =>
      have hbounded : (Tree.file metadata 1 content).surface.Bounded
          (DelimitedAmong IsChild childBytes) := hlength
      exact Surface.encode_append_inj hbounded (bounded_surface hsafe' hstored') h

theorem surface_inj {euid' : UInt32} {other : Tree} (hsafe : tree.Safe euid) (hstored : tree.Stored)
    (hsafe' : other.Safe euid') (hstored' : other.Stored)
    (h : tree.frame = other.frame) : tree.surface = other.surface :=
  (frame_append_inj hsafe hstored hsafe' hstored' (congrArg (· ++ []) h)).1

/-! ## 5. The same bytes, the same entries -/

section

variable {α : Type} {l m : List (FileName × α)} {name : FileName}

theorem lookup_eq_some_iff (hnames : (l.map Prod.fst).Nodup) {a : α} :
    l.lookup name = some a ↔ (name, a) ∈ l := by
  induction l with
  | nil => simp
  | cons child l ih =>
    obtain ⟨first, b⟩ := child
    rw [List.map_cons, List.nodup_cons] at hnames
    rw [List.lookup_cons, List.mem_cons, Prod.mk.injEq]
    by_cases hname : name = first
    · subst hname
      have habsent : (name, a) ∉ l := fun h =>
        hnames.1 (List.mem_map.mpr ⟨_, h, rfl⟩)
      simp [habsent, eq_comm]
    · rw [beq_eq_false_iff_ne.mpr hname, ih hnames.2]
      simp [hname]

theorem lookup_perm (hnames : (l.map Prod.fst).Nodup) (h : l.Perm m) :
    l.lookup name = m.lookup name := by
  refine Option.ext fun a => ?_
  rw [lookup_eq_some_iff hnames, lookup_eq_some_iff ((h.map _).nodup_iff.mp hnames), h.mem_iff]

theorem perm_of_lookup (hnames : (l.map Prod.fst).Nodup) (hnames' : (m.map Prod.fst).Nodup)
    (h : ∀ name, l.lookup name = m.lookup name) : l.Perm m := by
  refine (List.perm_ext_iff_of_nodup hnames.of_map hnames'.of_map).mpr ?_
  rintro ⟨name, a⟩
  rw [← lookup_eq_some_iff hnames, ← lookup_eq_some_iff hnames', h]

end

variable {euid euid' : UInt32} {tree other : Tree} {metadata : Metadata}
  {children : List (FileName × Tree)} {name : FileName}

theorem lookup_childFrames :
    (childFrames children).lookup name = (children.lookup name).map Tree.frame := by
  rw [childFrames_eq]
  induction children with
  | nil => rfl
  | cons child children ih =>
    rw [List.map_cons, List.lookup_cons, List.lookup_cons, ih]
    split <;> rfl

theorem names_childFrames : (childFrames children).map Prod.fst = children.map Prod.fst := by
  rw [childFrames_eq, List.map_map]
  rfl

theorem Tree.Safe.child (h : (Tree.directory metadata children).Safe euid) {child : Tree}
    (hstored : (Tree.directory metadata children).Stored)
    (hchild : children.lookup name = some child) : child.Safe euid ∧ child.Stored := by
  cases h with
  | directory howner hmode hsafe =>
    cases hstored with
    | directory hnames hcount hlength hstored =>
      have hmem := (lookup_eq_some_iff hnames).mp hchild
      exact ⟨hsafe _ hmem, hstored _ hmem⟩

/-- The entry that a surface shows. -/
def Surface.entry : Surface → Entry
  | .link permissions target => .link permissions target
  | .directory permissions _ => .directory permissions
  | .file permissions content => .file permissions content
  | .other => .other

theorem entry_surface : ∀ tree : Tree, tree.surface.entry = tree.node.entry
  | .link _ _ => rfl
  | .directory _ _ => rfl
  | .file _ _ _ => rfl
  | .other _ => rfl

@[simp] theorem Tree.entryAt_nil : tree.entryAt [] = some tree.node.entry := rfl

theorem Tree.entryAt_cons :
    (Tree.directory metadata children).entryAt (name :: path) =
      (children.lookup name).bind fun child => child.entryAt path := by
  rw [Tree.entryAt, Tree.nodeAt, Tree.find]
  cases children.lookup name <;> rfl

variable {children' : List (FileName × Tree)}

/-- The frames of the children are the same, name by name. -/
theorem map_frame_lookup (name : FileName) (hstored : (Tree.directory metadata children).Stored)
    (h : (Tree.directory metadata children).surface = (Tree.directory metadata'
      children').surface) :
    (children.lookup name).map Tree.frame = (children'.lookup name).map Tree.frame := by
  cases hstored with
  | directory hnames hcount hlength hstored =>
    rw [Tree.surface, Tree.surface, Surface.directory.injEq] at h
    have hperm : (childFrames children).Perm (childFrames children') :=
      (sortByKey_fst_perm _).symm.trans (h.2 ▸ sortByKey_fst_perm _)
    rw [← lookup_childFrames, ← lookup_childFrames]
    exact lookup_perm (by rwa [names_childFrames]) hperm

theorem entryAt_of_surface (hsafe : tree.Safe euid) (hstored : tree.Stored)
    (hsafe' : other.Safe euid') (hstored' : other.Stored) (h : tree.surface = other.surface)
    (path : List FileName) : tree.entryAt path = other.entryAt path := by
  induction path generalizing tree other with
  | nil => rw [Tree.entryAt_nil, Tree.entryAt_nil, ← entry_surface, ← entry_surface, h]
  | cons name path ih =>
    cases tree with
    | other => cases hsafe
    | link | file =>
      cases other with
      | other => cases hsafe'
      | link | file => rfl
      | directory => cases h
    | directory metadata children =>
      cases other with
      | other => cases hsafe'
      | link | file => cases h
      | directory metadata' children' =>
        have hframes := map_frame_lookup name hstored h
        rw [Tree.entryAt_cons, Tree.entryAt_cons]
        cases hchild : children.lookup name with
        | none =>
          rw [hchild, Option.map_none, eq_comm, Option.map_eq_none_iff] at hframes
          rw [hframes]
        | some child =>
          rw [hchild, Option.map_some, eq_comm, Option.map_eq_some_iff] at hframes
          obtain ⟨child', hchild', hframe⟩ := hframes
          rw [hchild']
          obtain ⟨hsafe, hstored⟩ := hsafe.child hstored hchild
          obtain ⟨hsafe', hstored'⟩ := hsafe'.child hstored' hchild'
          exact ih hsafe hstored hsafe' hstored'
            (surface_inj hsafe hstored hsafe' hstored' hframe.symm)

/-- Children that show the same entries have the same names, and the entries below a name are the
same. -/
theorem children_of_entryAt (name : FileName)
    (h : ∀ path, (Tree.directory metadata children).entryAt path = (Tree.directory metadata'
      children').entryAt path) :
    (children.lookup name = none ∧ children'.lookup name = none) ∨
      ∃ child child', children.lookup name = some child ∧ children'.lookup name = some child' ∧
        ∀ path, child.entryAt path = child'.entryAt path := by
  have hbelow := fun path => h (name :: path)
  simp only [Tree.entryAt_cons] at hbelow
  cases hchild : children.lookup name with
  | none =>
    cases hchild' : children'.lookup name with
    | none => exact .inl ⟨rfl, rfl⟩
    | some child' => simpa [hchild, hchild'] using hbelow []
  | some child =>
    cases hchild' : children'.lookup name with
    | none => simpa [hchild, hchild'] using hbelow []
    | some child' =>
      refine .inr ⟨child, child', rfl, rfl, fun path => ?_⟩
      simpa [hchild, hchild'] using hbelow path

theorem surface_of_entryAt (hstored : tree.Stored) : ∀ {other : Tree}, other.Stored →
    (∀ path, tree.entryAt path = other.entryAt path) → tree.surface = other.surface := by
  induction hstored with
  | @link metadata target hmode hlength =>
    intro other hstored' h
    have hroot := Option.some.inj (h [])
    cases other with
    | link metadata' target' =>
      obtain ⟨hmode, htarget⟩ := Entry.link.inj hroot
      rw [Tree.surface, Tree.surface, hmode, htarget]
    | directory | file | other => cases hroot
  | @file metadata nlink content hlength =>
    intro other hstored' h
    have hroot := Option.some.inj (h [])
    cases other with
    | file metadata' nlink' content' =>
      obtain ⟨hmode, hcontent⟩ := Entry.file.inj hroot
      rw [Tree.surface, Tree.surface, hmode, hcontent]
    | link | directory | other => cases hroot
  | other =>
    intro other hstored' h
    have hroot := Option.some.inj (h [])
    cases other with
    | other => rfl
    | link | directory | file => cases hroot
  | @directory metadata children hnames hcount hlength hstored ih =>
    intro other hstored' h
    have hroot := Option.some.inj (h [])
    cases hstored' with
    | link | file | other => cases hroot
    | @directory metadata' children' hnames' hcount' hlength' hstored' =>
      have hlookup : ∀ name, (childFrames children).lookup name =
          (childFrames children').lookup name := by
        intro name
        rw [lookup_childFrames, lookup_childFrames]
        rcases children_of_entryAt name h with ⟨hnone, hnone'⟩ |
          ⟨child, child', hchild, hchild', hentries⟩
        · rw [hnone, hnone']
        · have hmem := (lookup_eq_some_iff hnames).mp hchild
          have hmem' := (lookup_eq_some_iff hnames').mp hchild'
          have hsurface := ih _ hmem (hstored' _ hmem') hentries
          rw [hchild, hchild', Option.map_some, Option.map_some, Tree.frame, Tree.frame, hsurface]
      have hframes : ((childFrames children).map Prod.fst).Nodup := by rwa [names_childFrames]
      have hframes' : ((childFrames children').map Prod.fst).Nodup := by rwa [names_childFrames]
      have hperm := perm_of_lookup hframes hframes' hlookup
      rw [Tree.surface, Tree.surface, Entry.directory.inj hroot,
        sortByKey_perm hperm fun a ha b hb hkey => List.inj_on_of_nodup_map hframes ha hb hkey]

/-- **Frames of accepted trees are equal when the same entries stand at the same paths**, and only
then, in whatever order the directories were listed. -/
theorem frame_eq_iff (hsafe : tree.Safe euid) (hstored : tree.Stored) (hsafe' : other.Safe euid')
    (hstored' : other.Stored) :
    tree.frame = other.frame ↔ ∀ path, tree.entryAt path = other.entryAt path := by
  constructor
  · intro h
    exact entryAt_of_surface hsafe hstored hsafe' hstored'
      (surface_inj hsafe hstored hsafe' hstored' h)
  · intro h
    exact congrArg Surface.encode (surface_of_entryAt hstored hstored' h)

/-! ## 6. Copies -/

/-- The process that copies: the user it runs as, and the bits its new files are denied. -/
structure Host where
  euid : UInt32
  umask : UInt32

/-- The mode of a directory made with the permission bits `permissions` in a directory of the mode
`parent`: the umask takes bits away, and a set-group-ID directory passes that bit on. -/
def Host.mkdirMode (host : Host) (parent permissions : UInt32) : UInt32 :=
  permissions &&& ~~~host.umask ||| parent &&& 0o2000

/-- What a copy of an entry is, in a directory of the mode `parent`.  `open_new` sets the mode of a
file whatever the umask. -/
def Node.copied (host : Host) (parent : UInt32) : Node → Node
  | .link _ target => .link ⟨host.euid, 0o777⟩ target
  | .directory metadata =>
    .directory ⟨host.euid, host.mkdirMode parent (permissions metadata.mode)⟩
  | .file metadata _ content => .file ⟨host.euid, permissions metadata.mode⟩ 1 content
  | .other metadata => .other metadata

mutual

/-- `copy_tree`, into a directory of the mode `parent`, where the steps at some paths succeed: what
stands at the destination. -/
def copyTree (host : Host) (succeeds : List FileName → Bool) (parent : UInt32)
    (path : List FileName) : Tree → Except SupportError Tree
  | .link _ target =>
    if succeeds path then .ok (.link ⟨host.euid, 0o777⟩ target) else .error .io
  | .directory metadata children =>
    if succeeds path then do
      let mode := host.mkdirMode parent (permissions metadata.mode)
      let copies ← copyChildren host succeeds mode path children
      return .directory ⟨host.euid, mode⟩ copies
    else .error .io
  | .file metadata nlink content => do
    checkFile host.euid path metadata nlink
    if succeeds path then return .file ⟨host.euid, permissions metadata.mode⟩ 1 content
    else .error .io
  | .other _ => .error .fileType

def copyChildren (host : Host) (succeeds : List FileName → Bool) (parent : UInt32)
    (path : List FileName) : List (FileName × Tree) → Except SupportError (List (FileName × Tree))
  | [] => .ok []
  | (name, child) :: children => do
    let copy ← copyTree host succeeds parent (path ++ [name]) child
    let copies ← copyChildren host succeeds parent path children
    return (name, copy) :: copies

end

section

variable {host : Host} {succeeds : List FileName → Bool} {parent : UInt32} {path : List FileName}
  {copy : Tree} {copies : List (FileName × Tree)}

theorem copyChildren_eq_ok : copyChildren host succeeds parent path children = .ok copies ↔
    List.Forall₂ (fun child copy => child.1 = copy.1 ∧
      copyTree host succeeds parent (path ++ [child.1]) child.2 = .ok copy.2) children copies := by
  induction children generalizing copies with
  | nil =>
    rw [copyChildren, List.forall₂_nil_left_iff, Except.ok.injEq, eq_comm]
  | cons child children ih =>
    obtain ⟨name, child⟩ := child
    rw [copyChildren, Codec.bind_eq_ok, List.forall₂_cons_left_iff]
    constructor
    · rintro ⟨copy, hcopy, hrest⟩
      obtain ⟨rest, hrest, hcopies⟩ := Codec.bind_eq_ok.mp hrest
      exact ⟨(name, copy), rest, ⟨rfl, hcopy⟩, ih.mp hrest, (Except.ok.inj hcopies).symm⟩
    · rintro ⟨⟨_, copy⟩, rest, ⟨rfl, hcopy⟩, hrest, rfl⟩
      exact ⟨copy, hcopy, Codec.bind_eq_ok.mpr ⟨rest, ih.mpr hrest, rfl⟩⟩

theorem names_copyChildren (h : copyChildren host succeeds parent path children = .ok copies) :
    copies.map Prod.fst = children.map Prod.fst := by
  have hall : List.Forall₂ (fun child copy => child.1 = copy.1) children copies :=
    (copyChildren_eq_ok.mp h).imp fun _ _ h => h.1
  clear h
  induction hall with
  | nil => rfl
  | cons hname _ ih => rw [List.map_cons, List.map_cons, hname, ih]

theorem lookup_copyChildren (h : copyChildren host succeeds parent path children = .ok copies)
    (name : FileName) : (children.lookup name = none ∧ copies.lookup name = none) ∨
      ∃ child copy, children.lookup name = some child ∧ copies.lookup name = some copy ∧
        copyTree host succeeds parent (path ++ [name]) child = .ok copy := by
  have hall := copyChildren_eq_ok.mp h
  clear h
  induction hall with
  | nil => exact .inl ⟨rfl, rfl⟩
  | @cons child copy children copies hchild _ ih =>
    rw [List.lookup_cons, List.lookup_cons, ← hchild.1]
    by_cases hname : name = child.1
    · subst hname
      rw [beq_self_eq_true]
      exact .inr ⟨_, _, rfl, rfl, hchild.2⟩
    · rw [beq_eq_false_iff_ne.mpr hname]
      exact ih

/-- What a copy can be. -/
theorem copyTree_cases (h : copyTree host succeeds parent path tree = .ok copy) :
    (∃ metadata target, tree = .link metadata target ∧
      copy = .link ⟨host.euid, 0o777⟩ target) ∨
    (∃ metadata children copies, tree = .directory metadata children ∧
      copyChildren host succeeds (host.mkdirMode parent (permissions metadata.mode)) path children =
        .ok copies ∧
      copy = .directory ⟨host.euid, host.mkdirMode parent (permissions metadata.mode)⟩ copies) ∨
    ∃ metadata nlink content, tree = .file metadata nlink content ∧
      copy = .file ⟨host.euid, permissions metadata.mode⟩ 1 content := by
  cases tree with
  | link metadata target =>
    rw [copyTree] at h
    split at h
    · exact .inl ⟨metadata, target, rfl, (Except.ok.inj h).symm⟩
    · cases h
  | directory metadata children =>
    rw [copyTree] at h
    split at h
    · obtain ⟨copies, hcopies, hcopy⟩ := Codec.bind_eq_ok.mp h
      exact .inr (.inl ⟨metadata, children, copies, rfl, hcopies, (Except.ok.inj hcopy).symm⟩)
    · cases h
  | file metadata nlink content =>
    rw [copyTree] at h
    obtain ⟨-, -, hcopy⟩ := Codec.bind_eq_ok.mp h
    split at hcopy
    · exact .inr (.inr ⟨metadata, nlink, content, rfl, (Except.ok.inj hcopy).symm⟩)
    · cases hcopy
  | other metadata =>
    rw [copyTree] at h
    cases h

/-! The bits of a copied mode. -/

theorem or_and_distrib (a b c : UInt32) : (a ||| b) &&& c = a &&& c ||| b &&& c :=
  UInt32.toBitVec_inj.mp BitVec.and_or_distrib_right

theorem and_not_of_and_eq_zero {a b : UInt32} (h : a &&& b = 0) : a &&& ~~~b = a := by
  rw [← UInt32.toBitVec_inj] at h ⊢
  refine BitVec.eq_of_getLsbD_eq fun i hi => ?_
  have hbit := congrArg (fun v => v.getLsbD i) h
  simp only [UInt32.toBitVec_and, BitVec.getLsbD_and, UInt32.toBitVec_not, BitVec.getLsbD_not,
    hi, decide_true, Bool.true_and] at hbit ⊢
  cases ha : a.toBitVec.getLsbD i with
  | false => rfl
  | true =>
    rw [ha, Bool.true_and] at hbit
    simpa using hbit

theorem mkdirMode_setgid (mode : UInt32) :
    host.mkdirMode parent (permissions mode) &&& 0o2000 = parent &&& 0o2000 := by
  have hnone : (0o777 &&& (~~~host.umask &&& 0o2000) : UInt32) = 0 := by
    rw [UInt32.and_comm (~~~host.umask), ← UInt32.and_assoc]
    exact UInt32.zero_and
  rw [Host.mkdirMode, permissions, or_and_distrib, UInt32.and_assoc, UInt32.and_assoc, hnone,
    UInt32.and_zero, UInt32.zero_or, UInt32.and_assoc, UInt32.and_self]

theorem mkdirMode_mkdirMode (mode mode' : UInt32) :
    host.mkdirMode (host.mkdirMode parent (permissions mode)) (permissions mode') =
      host.mkdirMode parent (permissions mode') := by
  rw [Host.mkdirMode, mkdirMode_setgid, Host.mkdirMode]

theorem copied_mkdirMode (mode : UInt32) :
    Node.copied host (host.mkdirMode parent (permissions mode)) = Node.copied host parent := by
  funext node
  cases node with
  | directory metadata => rw [Node.copied, mkdirMode_mkdirMode, Node.copied]
  | link | file | other => rfl

theorem permissions_permissions (mode : UInt32) :
    permissions (permissions mode) = permissions mode := by
  rw [permissions, permissions, UInt32.and_assoc, UInt32.and_self]

/-- A directory keeps its permission bits when the umask clears none of them. -/
theorem permissions_mkdirMode {mode : UInt32} (hclear : permissions mode &&& host.umask = 0) :
    permissions (host.mkdirMode parent (permissions mode)) = permissions mode := by
  have hnone : (0o2000 &&& 0o777 : UInt32) = 0 := rfl
  rw [Host.mkdirMode, and_not_of_and_eq_zero hclear, permissions, or_and_distrib, UInt32.and_assoc,
    hnone, UInt32.and_zero, UInt32.or_zero]
  exact permissions_permissions mode

/-- A copied directory has a bit that `visit` refuses exactly when it is made in a set-group-ID
directory. -/
theorem mkdirMode_refused_iff {mode : UInt32} (hclear : permissions mode &&& host.umask = 0)
    (hmode : mode &&& 0o7022 = 0) :
    host.mkdirMode parent (permissions mode) &&& 0o7022 = 0 ↔ parent &&& 0o2000 = 0 := by
  have hkept : permissions mode &&& 0o7022 = 0 := by
    rw [permissions, UInt32.and_assoc]
    exact and_eq_zero_of_and_eq_zero (by decide) hmode
  rw [Host.mkdirMode, and_not_of_and_eq_zero hclear, or_and_distrib, hkept, UInt32.zero_or,
    UInt32.and_assoc]
  rfl

/-! ## 7. What is said of a tree is said of its nodes -/

/-- What `visit` asks of one entry. -/
def Node.Safe (euid : UInt32) : Node → Prop
  | .link metadata _ => metadata.uid = euid
  | .directory metadata => metadata.uid = euid ∧ metadata.mode &&& 0o7022 = 0
  | .file metadata nlink _ => metadata.uid = euid ∧ metadata.mode &&& 0o7022 = 0 ∧ nlink = 1
  | .other _ => False

@[simp] theorem Tree.nodeAt_nil : tree.nodeAt [] = some tree.node := rfl

theorem Tree.nodeAt_cons :
    (Tree.directory metadata children).nodeAt (name :: path) =
      (children.lookup name).bind fun child => child.nodeAt path := by
  rw [Tree.nodeAt, Tree.find]
  cases children.lookup name <;> rfl

theorem Tree.node_safe (h : tree.Safe euid) : tree.node.Safe euid := by
  cases h with
  | link howner => exact howner
  | directory howner hmode => exact ⟨howner, hmode⟩
  | file howner hmode => exact ⟨howner, hmode, rfl⟩

variable {node : Node}

theorem nodeAt_safe (hsafe : tree.Safe euid) (hstored : tree.Stored)
    (h : tree.nodeAt path = some node) : node.Safe euid := by
  induction path generalizing tree with
  | nil =>
    rw [Tree.nodeAt_nil, Option.some.injEq] at h
    exact h ▸ Tree.node_safe hsafe
  | cons name path ih =>
    cases tree with
    | link | file | other => cases h
    | directory metadata children =>
      rw [Tree.nodeAt_cons, Option.bind_eq_some_iff] at h
      obtain ⟨child, hchild, hnode⟩ := h
      obtain ⟨hsafe, hstored⟩ := hsafe.child hstored hchild
      exact ih hsafe hstored hnode

/-- A tree is accepted when each of its entries is. -/
theorem safe_iff_nodes (hstored : tree.Stored) :
    tree.Safe euid ↔ ∀ path node, tree.nodeAt path = some node → node.Safe euid := by
  refine ⟨fun hsafe path node h => nodeAt_safe hsafe hstored h, fun h => ?_⟩
  induction hstored with
  | link hmode hlength => exact .link (h [] _ rfl)
  | other => exact (h [] _ rfl).elim
  | file hlength =>
    obtain ⟨howner, hmode, rfl⟩ := h [] _ rfl
    exact .file howner hmode
  | directory hnames hcount hlength hstored ih =>
    obtain ⟨howner, hmode⟩ := h [] _ rfl
    refine .directory howner hmode fun child hchild => ih child hchild fun path node hnode => ?_
    refine h (child.1 :: path) node ?_
    rw [Tree.nodeAt_cons, (lookup_eq_some_iff hnames).mpr hchild]
    exact hnode

theorem link_permissions (hstored : tree.Stored) {target : List UInt8}
    (h : tree.nodeAt path = some (.link metadata target)) : permissions metadata.mode = 0o777 := by
  induction path generalizing tree with
  | nil =>
    cases hstored with
    | link hmode hlength =>
      cases h
      exact hmode
    | directory | file | other => cases h
  | cons name path ih =>
    cases hstored with
    | link | file | other => cases h
    | directory hnames hcount hlength hstored =>
      rw [Tree.nodeAt_cons, Option.bind_eq_some_iff] at h
      obtain ⟨child, hchild, hnode⟩ := h
      exact ih (hstored _ ((lookup_eq_some_iff hnames).mp hchild)) hnode

/-! ## 8. What a copy shows -/

variable {source : List FileName}

/-- Where an entry stands, its copy stands. -/
theorem nodeAt_copyTree (h : copyTree host succeeds parent source tree = .ok copy)
    (path : List FileName) :
    copy.nodeAt path = (tree.nodeAt path).map (Node.copied host parent) := by
  induction path generalizing tree copy parent source with
  | nil =>
    rcases copyTree_cases h with ⟨metadata, target, rfl, rfl⟩ |
      ⟨metadata, children, copies, rfl, -, rfl⟩ | ⟨metadata, nlink, content, rfl, rfl⟩ <;> rfl
  | cons name path ih =>
    rcases copyTree_cases h with ⟨metadata, target, rfl, rfl⟩ |
      ⟨metadata, children, copies, rfl, hcopies, rfl⟩ | ⟨metadata, nlink, content, rfl, rfl⟩
    · rfl
    · rw [Tree.nodeAt_cons, Tree.nodeAt_cons]
      rcases lookup_copyChildren hcopies name with ⟨hchild, hcopy⟩ |
        ⟨child, copy, hchild, hcopy, hcopied⟩
      · rw [hchild, hcopy]
        rfl
      · rw [hchild, hcopy]
        have hnode := ih hcopied
        rwa [copied_mkdirMode] at hnode
    · rfl

theorem stored_copyTree (hstored : tree.Stored)
    (h : copyTree host succeeds parent source tree = .ok copy) : copy.Stored := by
  induction hstored generalizing copy parent source with
  | link hmode hlength =>
    obtain ⟨_, _, heq, rfl⟩ | ⟨_, _, _, heq, -, -⟩ | ⟨_, _, _, heq, -⟩ := copyTree_cases h
    · cases heq
      exact .link UInt32.and_self hlength
    · cases heq
    · cases heq
  | other =>
    obtain ⟨_, _, heq, -⟩ | ⟨_, _, _, heq, -, -⟩ | ⟨_, _, _, heq, -⟩ := copyTree_cases h
    · cases heq
    · cases heq
    · cases heq
  | file hlength =>
    obtain ⟨_, _, heq, -⟩ | ⟨_, _, _, heq, -, -⟩ | ⟨_, _, _, heq, rfl⟩ := copyTree_cases h
    · cases heq
    · cases heq
    · cases heq
      exact .file hlength
  | directory hnames hcount hlength hstored ih =>
    obtain ⟨_, _, heq, -⟩ | ⟨_, _, copies, heq, hcopies, rfl⟩ | ⟨_, _, _, heq, -⟩ :=
      copyTree_cases h
    · cases heq
    · cases heq
      have hsame := names_copyChildren hcopies
      have hall := copyChildren_eq_ok.mp hcopies
      have hnames' : (copies.map Prod.fst).Nodup := hsame ▸ hnames
      have hlookup : ∀ copy ∈ copies, ∃ child, (copy.1, child) ∈ _ ∧ _ := fun copy hcopy => by
        rcases lookup_copyChildren hcopies copy.1 with ⟨-, hnone⟩ |
          ⟨child, copy', hchild, hcopy', hcopied⟩
        · rw [(lookup_eq_some_iff hnames').mpr hcopy] at hnone
          cases hnone
        · rw [(lookup_eq_some_iff hnames').mpr hcopy, Option.some.injEq] at hcopy'
          subst hcopy'
          exact ⟨child, (lookup_eq_some_iff hnames).mp hchild, hcopied⟩
      refine .directory hnames' (hall.length_eq ▸ hcount) (fun copy hcopy => ?_)
        fun copy hcopy => ?_
      · obtain ⟨child, hchild, -⟩ := hlookup copy hcopy
        exact hlength (copy.1, child) hchild
      · obtain ⟨child, hchild, hcopied⟩ := hlookup copy hcopy
        exact ih _ hchild hcopied
    · cases heq

/-- The copy of an accepted entry is accepted, but for a directory in a set-group-ID directory. -/
theorem safe_copied_iff (hsafe : node.Safe host.euid)
    (hclear : ∀ metadata, node = .directory metadata → permissions metadata.mode &&& host.umask =
      0) :
    (node.copied host parent).Safe host.euid ↔
      ((∃ metadata, node = .directory metadata) → parent &&& 0o2000 = 0) := by
  cases node with
  | link metadata target => simp [Node.copied, Node.Safe]
  | other metadata => cases hsafe
  | directory metadata =>
    simp [Node.copied, Node.Safe, mkdirMode_refused_iff (hclear metadata rfl) hsafe.2]
  | file metadata nlink content =>
    obtain ⟨-, hmode, -⟩ := hsafe
    have hkept : permissions metadata.mode &&& 0o7022 = 0 := by
      rw [permissions, UInt32.and_assoc]
      exact and_eq_zero_of_and_eq_zero (by decide) hmode
    simp [Node.copied, Node.Safe, hkept]

theorem entry_copied (hsafe : node.Safe euid)
    (hlink : ∀ metadata target, node = .link metadata target → permissions metadata.mode = 0o777)
    (hclear : ∀ metadata, node = .directory metadata → permissions metadata.mode &&& host.umask =
      0) :
    (node.copied host parent).entry = node.entry := by
  cases node with
  | other metadata => rfl
  | link metadata target =>
    rw [Node.copied, Node.entry, Node.entry, hlink metadata target rfl]
    exact congrArg (Entry.link · target) UInt32.and_self
  | directory metadata =>
    rw [Node.copied, Node.entry, Node.entry, permissions_mkdirMode (hclear metadata rfl)]
  | file metadata nlink content =>
    rw [Node.copied, Node.entry, Node.entry, permissions_permissions]

/-- The permission bits of the directories of a tree are left alone by the umask. -/
def Host.ClearsNone (host : Host) (tree : Tree) : Prop :=
  ∀ path metadata, tree.nodeAt path = some (.directory metadata) →
    permissions metadata.mode &&& host.umask = 0

/-- A copy shows the entries of its source. -/
theorem entryAt_copyTree (hsafe : tree.Safe euid) (hstored : tree.Stored)
    (hclear : host.ClearsNone tree) (h : copyTree host succeeds parent source tree = .ok copy)
    (path : List FileName) : copy.entryAt path = tree.entryAt path := by
  rw [Tree.entryAt, Tree.entryAt, nodeAt_copyTree h, Option.map_map]
  cases hnode : tree.nodeAt path with
  | none => rfl
  | some node =>
    refine congrArg some (entry_copied (nodeAt_safe hsafe hstored hnode) ?_ ?_)
    · rintro metadata target rfl
      exact link_permissions hstored hnode
    · rintro metadata rfl
      exact hclear path metadata hnode

theorem node_directory_of_below
    (h : ∃ path metadata, tree.nodeAt path = some (.directory metadata)) :
    ∃ metadata children, tree = .directory metadata children := by
  obtain ⟨path, metadata, h⟩ := h
  cases tree with
  | directory metadata children => exact ⟨metadata, children, rfl⟩
  | link | file | other =>
    cases path with
    | nil => cases h
    | cons name path => cases h

/-- **A copy, listed in any order, is accepted** unless it is a directory that was made in a
set-group-ID directory. -/
theorem safe_copyTree_iff {seen : Tree} (hsafe : tree.Safe host.euid) (hstored : tree.Stored)
    (hclear : host.ClearsNone tree) (h : copyTree host succeeds parent source tree = .ok copy)
    (hseen : seen.Stored) (hlisted : ∀ path, seen.nodeAt path = copy.nodeAt path) :
    seen.Safe host.euid ↔
      ((∃ metadata children, tree = .directory metadata children) → parent &&& 0o2000 = 0) := by
  rw [safe_iff_nodes hseen]
  constructor
  · rintro hall ⟨metadata, children, rfl⟩
    have hroot := hall [] (Node.copied host parent (.directory metadata))
      ((hlisted []).trans (nodeAt_copyTree h []))
    exact (safe_copied_iff (nodeAt_safe hsafe hstored Tree.nodeAt_nil) fun metadata' heq => by
      cases heq
      exact hclear [] metadata rfl).mp hroot ⟨metadata, rfl⟩
  · intro hparent path node hnode
    rw [hlisted, nodeAt_copyTree h, Option.map_eq_some_iff] at hnode
    obtain ⟨original, horiginal, rfl⟩ := hnode
    refine (safe_copied_iff (nodeAt_safe hsafe hstored horiginal) ?_).mpr ?_
    · rintro metadata rfl
      exact hclear path metadata horiginal
    · rintro ⟨metadata, rfl⟩
      exact hparent (node_directory_of_below ⟨path, metadata, horiginal⟩)

end

/-! ## 9. Digests of support trees -/

theorem state_eq_ok [Crypto] {digest : Bytes 32} : state euid path (some tree) = .ok (some digest) ↔
      tree.Safe euid ∧ Crypto.sha256 tree.frame = digest := by
  rw [state, Codec.bind_eq_ok]
  simp only [visit_eq_ok]
  constructor
  · rintro ⟨_, ⟨hsafe, rfl⟩, h⟩
    exact ⟨hsafe, Option.some.inj (Except.ok.inj h)⟩
  · rintro ⟨hsafe, rfl⟩
    exact ⟨_, ⟨hsafe, rfl⟩, rfl⟩

/-- **The digest binds a tree.**  Two accepted trees feed the hash with the same bytes when the same
entries stand at the same paths, and only then.  A copy, listed in any order, has the digest of its
source, unless it is a directory that was made in a set-group-ID directory. -/
theorem support_tree_digests [Crypto] (euid umask : UInt32) :
    (∀ (t u : SupportTree) (p q : List FileName) (a b : List UInt8),
      visit euid p t.tree = .ok a → visit euid q u.tree = .ok b →
        (a = b ↔ ∀ path, t.tree.entryAt path = u.tree.entryAt path)) ∧
    ∀ (t : SupportTree) (succeeds : List FileName → Bool) (parent : UInt32)
      (p q : List FileName) (digest : Bytes 32) (copy : Tree),
      state euid p (some t.tree) = .ok (some digest) →
      copyTree ⟨euid, umask⟩ succeeds parent q t.tree = .ok copy →
      Host.ClearsNone ⟨euid, umask⟩ t.tree →
        copy.Stored ∧ ∀ (seen : SupportTree) (r : List FileName),
          (∀ path, seen.tree.nodeAt path = copy.nodeAt path) →
            (state euid r (some seen.tree) = .ok (some digest) ↔
              ((∃ metadata children, t.tree = .directory metadata children) →
                parent &&& 0o2000 = 0)) := by
  constructor
  · intro t u p q a b ha hb
    obtain ⟨hsafe, rfl⟩ := visit_eq_ok.mp ha
    obtain ⟨hsafe', rfl⟩ := visit_eq_ok.mp hb
    exact frame_eq_iff hsafe t.stored hsafe' u.stored
  · intro t succeeds parent p q digest copy hstate hcopy hclear
    obtain ⟨hsafe, rfl⟩ := state_eq_ok.mp hstate
    refine ⟨stored_copyTree t.stored hcopy, fun seen r hlisted => ?_⟩
    have haccepted := safe_copyTree_iff hsafe t.stored hclear hcopy seen.stored hlisted
    rw [state_eq_ok, ← haccepted, and_iff_left_iff_imp]
    intro hseen
    have hentries : ∀ path, seen.tree.entryAt path = t.tree.entryAt path := fun path =>
      (congrArg (Option.map Node.entry) (hlisted path)).trans
        (entryAt_copyTree hsafe t.stored hclear hcopy path)
    rw [(frame_eq_iff hseen seen.stored hsafe t.stored).mpr hentries]

section

attribute [local instance] keyEchoCrypto

def sampleChildren : List (FileName × Tree) :=
  [([0x61], .link ⟨1000, 0o777⟩ [0x62]), ([0x62], .file ⟨1000, 0o644⟩ 1 [1, 2])]

variable {children : List (FileName × Tree)}

theorem stored_sample (h : children.Perm sampleChildren) :
    (Tree.directory ⟨1000, 0o755⟩ children).Stored := by
  have hnames : (sampleChildren.map Prod.fst).Nodup := by decide
  have hlength : children.length = 2 := h.length_eq
  refine .directory ((h.map Prod.fst).nodup_iff.mpr hnames) (by omega) ?_ ?_ <;>
    intro child hchild <;> rcases List.mem_pair.mp (h.mem_iff.mp hchild) with rfl | rfl
  · decide
  · decide
  · exact .link UInt32.and_self (by decide)
  · exact .file (by decide)

def sampleTree (children : List (FileName × Tree)) (h : children.Perm sampleChildren) :
    SupportTree := ⟨.directory ⟨1000, 0o755⟩ children, stored_sample h⟩

theorem clearsNone_sample (h : children.Perm sampleChildren) :
    Host.ClearsNone ⟨1000, 0o022⟩ (Tree.directory ⟨1000, 0o755⟩ children) := by
  intro path metadata hnode
  cases path with
  | nil =>
    cases hnode
    decide
  | cons name path =>
    rw [Tree.nodeAt_cons, Option.bind_eq_some_iff] at hnode
    obtain ⟨child, hchild, hnode⟩ := hnode
    have hnames : (sampleChildren.map Prod.fst).Nodup := by decide
    have hmem := (lookup_eq_some_iff ((h.map Prod.fst).nodup_iff.mpr hnames)).mp hchild
    rcases List.mem_pair.mp (h.mem_iff.mp hmem) with heq | heq <;> cases heq <;> cases path <;>
      cases hnode

def sampleCopy (parent : UInt32) : Tree :=
  .directory ⟨1000, (⟨1000, 0o022⟩ : Host).mkdirMode parent 0o755⟩ sampleChildren

/-- Two listings of one directory feed the hash with the same bytes, and a copy has the digest of
its source. -/
theorem support_tree_digests_sample :
    (∀ path, (sampleTree sampleChildren (.refl _)).tree.entryAt path =
      (sampleTree sampleChildren.reverse (List.reverse_perm _)).tree.entryAt path) ∧
    state 1000 [] (some (sampleCopy 0o700)) =
      state 1000 [] (some (sampleTree sampleChildren (.refl _)).tree) := by
  obtain ⟨hbinds, hcopies⟩ := support_tree_digests 1000 0o022
  refine ⟨(hbinds (sampleTree sampleChildren (.refl _))
    (sampleTree sampleChildren.reverse (List.reverse_perm _)) [] [] _ _ rfl rfl).mp ?_, ?_⟩
  · decide +kernel
  · obtain ⟨hstored, hsame⟩ := hcopies (sampleTree sampleChildren (.refl _)) (fun _ => true) 0o700
      [] [] _ (sampleCopy 0o700) rfl rfl (clearsNone_sample (.refl _))
    exact (hsame ⟨_, hstored⟩ [] fun _ => rfl).mpr fun _ => by decide

/-- The copy of a directory that is made in a set-group-ID directory is refused. -/
theorem setgid_copy_refused : ∃ (t : SupportTree) (copy : Tree) (digest : Bytes 32),
    state 1000 [] (some t.tree) = .ok (some digest) ∧
      copyTree ⟨1000, 0o022⟩ (fun _ => true) 0o2755 [] t.tree = .ok copy ∧
      Host.ClearsNone ⟨1000, 0o022⟩ t.tree ∧
        state 1000 [] (some copy) = .error .ownershipOrMode :=
  ⟨sampleTree sampleChildren (.refl _), sampleCopy 0o2755, _, rfl, rfl,
    clearsNone_sample (.refl _), rfl⟩

end

end ElastosRuntime.InstallTransaction
