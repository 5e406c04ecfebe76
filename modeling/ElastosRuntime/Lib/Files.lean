/-
# A directory of files

A directory maps names to inodes, and two names may share one: what `link` makes, and what the
link count of `stat` tells.  The inodes hold the contents, of any type.

A program sees a directory through `stat` only.  So each operation has one lemma, which says what
`stat` answers after it (`stat_create`, `stat_link`, `stat_rename`, `stat_unlink`),
and no proof about a program has to look at the tables.
-/
import ElastosRuntime.Lib.Table

/-- Names `N`, contents `C`. -/
structure Directory (N C : Type) [DecidableEq N] where
  names : Table N Nat
  content : Nat → C
  next : Nat

namespace Directory

variable {N C : Type} [DecidableEq N]

/-! ## 1. The operations -/

/-- What the directory says about a name that is there. -/
structure Metadata (C : Type) where
  inode : Nat
  content : C
  links : Nat

variable (d : Directory N C)

/-- How many names an inode has. -/
def links (inode : Nat) : Nat := Table.countVals (· == inode) d.names

def metadata (inode : Nat) : Metadata C := ⟨inode, d.content inode, d.links inode⟩

def stat (n : N) : Option (Metadata C) := (d.names.lookup n).map d.metadata

/-- A new file. -/
def create (n : N) (c : C) : Directory N C where
  names := d.names.insert n d.next
  content := Function.update d.content d.next c
  next := d.next + 1

/-- Replace the content of the file a name stands for. -/
def write (n : N) (c : C) : Directory N C :=
  match d.names.lookup n with
  | some inode => { d with content := Function.update d.content inode c }
  | none => d

/-- A second name for a file. -/
def link (old new : N) : Directory N C :=
  match d.names.lookup old with
  | some inode => { d with names := d.names.insert new inode }
  | none => d

/-- Give a file another name, which may be taken from another file.  Two names of one file stay as
they are. -/
def rename (old new : N) : Directory N C :=
  match d.names.lookup old with
  | some inode =>
    if d.names.lookup new = some inode then d
    else { d with names := (d.names.erase old).insert new inode }
  | none => d

def unlink (n : N) : Directory N C := { d with names := d.names.erase n }

/-- Inodes are handed out in order. -/
def WellFormed : Prop := ∀ n inode, d.names.lookup n = some inode → inode < d.next

/-! ## 2. What `stat` answers -/

variable {d}

variable {n old new : N}

theorem stat_eq_none : d.stat n = none ↔ d.names.lookup n = none :=
  Option.map_eq_none_iff

variable {md md' : Metadata C}

theorem stat_eq_some :
    d.stat n = some md ↔ d.names.lookup n = some md.inode ∧ md = d.metadata md.inode := by
  rw [stat, Option.map_eq_some_iff]
  constructor
  · rintro ⟨inode, hlookup, rfl⟩
    exact ⟨hlookup, rfl⟩
  · rintro ⟨hlookup, hmd⟩
    exact ⟨md.inode, hlookup, hmd.symm⟩

/-- The names of a directory are those `stat` finds. -/
theorem mem_keys_iff : n ∈ d.names.keys ↔ ∃ md, d.stat n = some md := by
  have hkeys : n ∈ d.names.keys ↔ (d.names.lookup n).isSome := AList.lookup_isSome.symm
  rw [hkeys, ← Option.isSome_iff_exists, stat, Option.isSome_map]

theorem WellFormed.inode_lt (h : d.WellFormed) (hstat : d.stat n = some md) : md.inode < d.next :=
  h n md.inode (stat_eq_some.mp hstat).1

/-- Nothing is known under the inode that comes next. -/
theorem WellFormed.stat_map (hwf : d.WellFormed) (f : Metadata C → Metadata C) (n : N) :
    ((d.stat n).map fun md => if md.inode = d.next then f md else md) = d.stat n := by
  cases hstat : d.stat n with
  | none => rfl
  | some md =>
    have hlt := hwf.inode_lt hstat
    rw [Option.map_some, if_neg (by omega)]

/-- A file with two names has a link count of two at least. -/
theorem two_le_links {n' : N} (hne : n' ≠ n) (h : d.stat n = some md) (h' : d.stat n' = some md')
    (hsame : md'.inode = md.inode) : 2 ≤ md.links := by
  obtain ⟨hlookup, hmd⟩ := stat_eq_some.mp h
  obtain ⟨hlookup', -⟩ := stat_eq_some.mp h'
  have hrest : (d.names.erase n).lookup n' = some md.inode := by
    rw [AList.lookup_erase_ne hne, hlookup', hsame]
  have hpos : 0 < Table.countVals (· == md.inode) (d.names.erase n) :=
    Table.countVals_pos hrest (beq_self_eq_true _)
  have hcount := Table.countVals_erase (· == md.inode) hlookup
  rw [if_pos (beq_self_eq_true _)] at hcount
  have hlinks : md.links = Table.countVals (· == md.inode) d.names := congrArg Metadata.links hmd
  omega

/-- The metadata of another name, when only the link counts and contents of one inode change. -/
private theorem map_metadata {d' : Directory N C} {f : Metadata C → Metadata C} {o : Option Nat}
    (h : ∀ inode, o = some inode → d'.metadata inode = f (d.metadata inode)) :
    o.map d'.metadata = (o.map d.metadata).map f := by
  cases o with
  | none => rfl
  | some inode => exact congrArg some (h inode rfl)

/-- **A new file has its name to itself.** -/
theorem stat_create (hwf : d.WellFormed) (hnew : d.stat n = none) (c : C) (n' : N) :
    (d.create n c).stat n' = if n' = n then some ⟨d.next, c, 1⟩ else d.stat n' := by
  have habsent := stat_eq_none.mp hnew
  -- no name stands for the new inode yet
  have hnone : Table.countVals (· == d.next) d.names = 0 := by
    rw [Table.countVals, List.countP_eq_zero]
    intro e he heq
    have := hwf e.1 e.2 (Table.mem_entries_iff.mp he)
    rw [beq_iff_eq] at heq
    omega
  split
  · next h =>
    subst h
    refine stat_eq_some.mpr ⟨AList.lookup_insert _, ?_⟩
    simp only [metadata, links, create, Function.update_self, Metadata.mk.injEq, true_and]
    rw [Table.countVals_insert_new _ _ habsent, hnone, if_pos (beq_self_eq_true _)]
  · next h =>
    have hlookup : (d.create n c).names.lookup n' = d.names.lookup n' := AList.lookup_insert_ne h
    rw [stat, hlookup, stat]
    refine (map_metadata (f := id) fun inode hinode => ?_).trans (congrFun Option.map_id _)
    have hlt := hwf n' inode hinode
    have hne : inode ≠ d.next := by omega
    simp only [metadata, links, create, Function.update_of_ne hne, id, Metadata.mk.injEq, true_and]
    rw [Table.countVals_insert_new _ _ habsent, if_neg fun h => hne (beq_iff_eq.mp h).symm]
    rfl

theorem WellFormed.create (hwf : d.WellFormed) (n : N) (c : C) : (d.create n c).WellFormed := by
  intro n' inode hlookup
  have hins := Table.lookup_insert_eq d.names n n' d.next
  rw [show (d.create n c).names = d.names.insert n d.next from rfl, hins] at hlookup
  split at hlookup
  · cases hlookup
    exact Nat.lt_succ_self _
  · exact Nat.lt_succ_of_lt (hwf n' inode hlookup)

theorem write_of_stat_eq_none (h : d.stat n = none) (c : C) : d.write n c = d := by
  rw [write, stat_eq_none.mp h]

/-- A file that has just been made holds what is written to it. -/
theorem write_create (n : N) (c c' : C) : (d.create n c).write n c' = d.create n c' := by
  have hlookup : (d.create n c).names.lookup n = some d.next := AList.lookup_insert _
  rw [write, hlookup]
  simp only [create, Function.update_idem]

/-- **A second name counts for both.** -/
theorem stat_link (h : d.stat old = some md) (hnew : d.stat new = none) (n' : N) :
    (d.link old new).stat n' =
      if n' = new then some ⟨md.inode, md.content, md.links + 1⟩ else
        (d.stat n').map fun md' =>
          if md'.inode = md.inode then { md' with links := md'.links + 1 } else md' := by
  obtain ⟨hlookup, hmd⟩ := stat_eq_some.mp h
  have habsent := stat_eq_none.mp hnew
  have hlinks : ∀ inode, Table.countVals (· == inode) (d.names.insert new md.inode) =
      Table.countVals (· == inode) d.names + if md.inode = inode then 1 else 0 := fun inode => by
    rw [Table.countVals_insert_new _ _ habsent]
    simp only [beq_iff_eq]
  have hop : d.link old new = { d with names := d.names.insert new md.inode } := by
    rw [link, hlookup]
  rw [hop]
  split
  · next h =>
    subst h
    refine stat_eq_some.mpr ⟨AList.lookup_insert _, ?_⟩
    rw [hmd]
    simp only [metadata, links, Metadata.mk.injEq, true_and]
    rw [hlinks, if_pos rfl]
  · next h =>
    have hrest : (d.names.insert new md.inode).lookup n' = d.names.lookup n' :=
      AList.lookup_insert_ne h
    rw [stat, hrest, stat]
    refine map_metadata fun inode _ => ?_
    simp only [metadata, links, hlinks]
    by_cases hinode : inode = md.inode
    · subst hinode
      simp
    · simp [hinode, Ne.symm hinode]

theorem WellFormed.link (hwf : d.WellFormed) (old new : N) : (d.link old new).WellFormed := by
  unfold Directory.link
  split
  · next inode hold =>
    intro n' inode' hlookup
    rw [Table.lookup_insert_eq] at hlookup
    split at hlookup
    · cases hlookup
      exact hwf old inode hold
    · exact hwf n' inode' hlookup
  · exact hwf

/-- **A name that is gone counts no more.** -/
theorem stat_unlink (h : d.stat n = some md) (n' : N) :
    (d.unlink n).stat n' = if n' = n then none else (d.stat n').map fun md' =>
      if md'.inode = md.inode then { md' with links := md'.links - 1 } else md' := by
  obtain ⟨hlookup, -⟩ := stat_eq_some.mp h
  split
  · next h =>
    subst h
    exact stat_eq_none.mpr (AList.lookup_erase _ _)
  · next h =>
    have hrest : (d.unlink n).names.lookup n' = d.names.lookup n' := AList.lookup_erase_ne h
    rw [stat, hrest, stat]
    refine map_metadata fun inode _ => ?_
    have hcount := Table.countVals_erase (· == inode) hlookup
    simp only [metadata, links, unlink, hcount, beq_iff_eq]
    by_cases hinode : inode = md.inode
    · subst hinode
      simp
    · simp [hinode, Ne.symm hinode]

theorem WellFormed.unlink (hwf : d.WellFormed) (n : N) : (d.unlink n).WellFormed := by
  intro n' inode hlookup
  rw [show (d.unlink n).names = d.names.erase n from rfl, Table.lookup_erase_eq] at hlookup
  split at hlookup
  · exact nomatch hlookup
  · exact hwf n' inode hlookup

/-- **A file that takes over a name keeps everything else**, and the file it takes the name from
loses one. -/
theorem stat_rename (h : d.stat old = some md) (h' : d.stat new = some md')
    (hne : md'.inode ≠ md.inode) (n' : N) :
    (d.rename old new).stat n' =
      if n' = new then some md else if n' = old then none else
        (d.stat n').map fun md'' =>
          if md''.inode = md'.inode then { md'' with links := md''.links - 1 } else md'' := by
  obtain ⟨hlookup, hmd⟩ := stat_eq_some.mp h
  obtain ⟨hlookup', -⟩ := stat_eq_some.mp h'
  have hnames : new ≠ old := by
    rintro rfl
    rw [hlookup, Option.some.injEq] at hlookup'
    exact hne hlookup'.symm
  have hnew : (d.names.erase old).lookup new = some md'.inode := by
    rw [AList.lookup_erase_ne hnames, hlookup']
  have hlinks : ∀ inode,
      Table.countVals (· == inode) ((d.names.erase old).insert new md.inode) =
        d.links inode - if md'.inode = inode then 1 else 0 := fun inode => by
    have herase := Table.countVals_erase (· == inode) hlookup
    have hinsert := Table.countVals_insert_replace md.inode (· == inode) hnew
    simp only [beq_iff_eq] at herase hinsert
    rw [links]
    omega
  have hop : d.rename old new = { d with names := (d.names.erase old).insert new md.inode } := by
    rw [rename, hlookup]
    exact if_neg (by rw [hlookup', Option.some.injEq]; exact hne)
  rw [hop]
  by_cases hn : n' = new
  · subst hn
    rw [if_pos rfl]
    refine stat_eq_some.mpr ⟨AList.lookup_insert _, hmd.trans ?_⟩
    simp only [metadata, Metadata.mk.injEq, true_and]
    rw [links, links, hlinks, if_neg hne, Nat.sub_zero, links]
  · rw [if_neg hn]
    by_cases hn' : n' = old
    · subst hn'
      rw [if_pos rfl]
      refine stat_eq_none.mpr ?_
      simp only [AList.lookup_insert_ne hn, AList.lookup_erase]
    · rw [if_neg hn']
      have hrest : ((d.names.erase old).insert new md.inode).lookup n' = d.names.lookup n' := by
        rw [AList.lookup_insert_ne hn, AList.lookup_erase_ne hn']
      rw [stat, hrest, stat]
      refine map_metadata fun inode _ => ?_
      simp only [metadata]
      rw [links, hlinks]
      by_cases hinode : inode = md'.inode
      · subst hinode
        simp [links]
      · simp [links, hinode, Ne.symm hinode]

theorem WellFormed.rename (hwf : d.WellFormed) (old new : N) : (d.rename old new).WellFormed := by
  unfold Directory.rename
  split
  · next inode hold =>
    split
    · exact hwf
    · intro n' inode' hlookup
      rw [Table.lookup_insert_eq, Table.lookup_erase_eq] at hlookup
      split at hlookup
      · cases hlookup
        exact hwf old inode hold
      · split at hlookup
        · exact nomatch hlookup
        · exact hwf n' inode' hlookup
  · exact hwf

end Directory
