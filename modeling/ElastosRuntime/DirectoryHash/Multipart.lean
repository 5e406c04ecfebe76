/-
# The body of an upload

`directory_hash.rs`: a closure is sent as one body, a part for every file and a last boundary behind
them.  `Multipart` makes it while it is read: a header that is partly given out, a file that is
partly read, and what has not been begun.  The length of the body is computed beforehand, from the
sizes that are declared.

`pending` is all that is still to be given out, whatever is given out by how many calls.  A call
takes its answer off the front (`read_eq_ok`), so what a run has given out is a beginning of the
body, and all of it when the end is told (`readAll_spec`).
-/
import ElastosRuntime.DirectoryHash.Closure

namespace ElastosRuntime.DirectoryHash

open Contracts (okOr okOr_eq_ok)
open Text
open Streams (Source)

/-! ## 1. The reader -/

/-- `new_boundary`, from what is drawn. -/
def newBoundary (random : Bytes 32) : String := hexEncode random.toList

def partHeader (path boundary : String) : List UInt8 :=
  utf8Bytes ("--" ++ boundary ++
    "\r\nContent-Disposition: form-data; name=\"file\"; filename=\"" ++ path ++
    "\"\r\nContent-Type: application/octet-stream\r\n\r\n")

def partEnd : List UInt8 := utf8Bytes "\r\n"

def lastBoundary (boundary : String) : List UInt8 := utf8Bytes ("--" ++ boundary ++ "--\r\n")

/-- What a file adds to the length that is announced. -/
def addPart (boundary : String) (sum : Nat) (file : OpenFile) : Option Nat := do
  let n ← checkedAdd sum file.stamp.length
  checkedAdd n ((partHeader file.path boundary).length + 2)

/-- The length that is announced. -/
def bodyLength (boundary : String) (files : List OpenFile) : Except IoError Nat :=
  okOr (files.foldlM (addPart boundary) (lastBoundary boundary).length)
    (invalid "directory hash body size overflow")

/-- `Multipart`, of the header what has not been given out. -/
structure Multipart where
  files : List OpenFile
  current : Option OpenFile
  left : Nat
  header : List UInt8
  finished : Bool
  boundary : String

/-- What a call finds: whether the deadline is over, and what is told of the handles. -/
structure Moment where
  expired : Bool
  held : String → Except IoError Stamp

namespace Multipart

def new (files : List OpenFile) (boundary : String) : Multipart :=
  ⟨files, none, 0, [], false, boundary⟩

/-- The current file has been read from. -/
def reading (m : Multipart) (file : OpenFile) (source : Source) : Multipart :=
  { m with current := some { file with file := source } }

/-- The loop of `read`. -/
def readLoop (moment : Moment) (size : Nat) (m : Multipart) :
    Except IoError (List UInt8) × Multipart :=
  if m.header.take size ≠ [] then
    (.ok (m.header.take size), { m with header := m.header.drop size })
  else
    match _hcurrent : m.current with
    | some file =>
      if m.left ≠ 0 then
        match file.file.read (min size (min m.left 65536)) with
        | (.error (), source) => (.error .system, m.reading file source)
        | (.ok bytes, source) =>
          if bytes = [] then (.error (invalid "staged file truncated"), m.reading file source)
          else (.ok bytes, { m.reading file source with left := m.left - bytes.length })
      else
        match file.file.read 1 with
        | (.error (), source) => (.error .system, m.reading file source)
        | (.ok extra, source) =>
          if extra ≠ [] then
            (.error (invalid "staged file changed during hash"), m.reading file source)
          else
            match moment.held file.path with
            | .error e => (.error e, m.reading file source)
            | .ok now =>
              if now ≠ file.stamp then
                (.error (invalid "staged file changed during hash"), m.reading file source)
              else readLoop moment size { m with current := none, header := partEnd }
    | none =>
      match _hfiles : m.files with
      | file :: files =>
        readLoop moment size { m with
          files, current := some file, left := file.stamp.length,
          header := partHeader file.path m.boundary }
      | [] =>
        if _hopen : m.finished = false then
          readLoop moment size { m with finished := true, header := lastBoundary m.boundary }
        else (.ok [], m)
termination_by 2 * m.files.length + (if m.current.isSome then 1 else 0) +
  (if m.finished then 0 else 1)
decreasing_by
  · simp [_hcurrent]
  · simp only [_hcurrent, _hfiles, List.length_cons, Option.isSome_some, Option.isSome_none,
      if_true, Bool.false_eq_true, if_false]
    omega
  · simp [_hopen]

def read (moment : Moment) (size : Nat) (m : Multipart) :
    Except IoError (List UInt8) × Multipart :=
  if size = 0 then (.ok [], m)
  else if moment.expired then (.error .timedOut, m)
  else m.readLoop moment size

/-- How far reading has come. -/
inductive Ending where
  | reading
  | ended
  | failed (e : IoError)
deriving DecidableEq

/-- Call after call until the end is told or a call fails, with what was given out. -/
def readAll : List (Moment × Nat) → Multipart → List UInt8 × Ending
  | [], _ => ([], .reading)
  | (moment, size) :: reads, m =>
    match m.read moment size with
    | (.error e, _) => ([], .failed e)
    | (.ok bytes, m') =>
      if bytes = [] ∧ size ≠ 0 then ([], .ended)
      else (bytes ++ (readAll reads m').1, (readAll reads m').2)

/-! ## 2. What is still to be given out -/

/-- What is left of a file, and the end of its part. -/
def tailOf (file : OpenFile) : List UInt8 := file.file.rest ++ partEnd

def partOf (boundary : String) (file : OpenFile) : List UInt8 :=
  partHeader file.path boundary ++ tailOf file

/-- All that is still to be given out. -/
def pending (m : Multipart) : List UInt8 :=
  m.header ++ ((m.current.map tailOf).getD [] ++ (m.files.flatMap (partOf m.boundary) ++
    if m.finished then [] else lastBoundary m.boundary))

/-- What is left of every file is as long as it is taken to be. -/
structure Exact (m : Multipart) : Prop where
  current : ∀ file ∈ m.current, file.file.rest.length = m.left
  files : ∀ file ∈ m.files, file.file.rest.length = file.stamp.length

/-- Nothing is left. -/
structure Done (m : Multipart) : Prop where
  header : m.header = []
  current : m.current = none
  files : m.files = []
  finished : m.finished = true

variable {moment : Moment} {size : Nat} {m m' : Multipart} {bytes : List UInt8}

/-- What a call that succeeds does. -/
structure Given (size : Nat) (m : Multipart) (bytes : List UInt8) (m' : Multipart) : Prop where
  pending : m.pending = bytes ++ m'.pending
  length : bytes.length ≤ size
  exact : m'.Exact ↔ m.Exact
  ended : bytes = [] → m'.Done
  boundary : m'.boundary = m.boundary

/-- Going on in the loop gives nothing out. -/
theorem Given.skip {middle : Multipart} (h : Given size middle bytes m')
    (hpending : m.pending = middle.pending) (hexact : middle.Exact ↔ m.Exact)
    (hboundary : middle.boundary = m.boundary) : Given size m bytes m' :=
  ⟨hpending.trans h.pending, h.length, h.exact.trans hexact, h.ended, h.boundary.trans hboundary⟩

theorem eq_nil_of_take_eq_nil {l : List UInt8} (hsize : 0 < size) (h : ¬l.take size ≠ []) :
    l = [] := by
  rcases List.take_eq_nil_iff.mp (not_not.mp h) with hzero | hnil
  · omega
  · exact hnil

/-- **What a call gives out is taken off the front** of what is pending. -/
theorem readLoop_eq_ok (hsize : 0 < size) (h : m.readLoop moment size = (.ok bytes, m')) :
    Given size m bytes m' := by
  fun_induction readLoop moment size m with
  | case1 m hheader =>
    cases h
    refine ⟨?_, List.length_take_le _ _, ⟨fun h => ⟨h.current, h.files⟩,
      fun h => ⟨h.current, h.files⟩⟩, fun h => absurd h hheader, rfl⟩
    simp only [pending]
    rw [← List.append_assoc (m.header.take size), List.take_append_drop]
  | case2 | case3 | case5 | case6 | case7 | case8 => cases h
  | case4 m hheader file hcurrent hleft bytes source hread hsome =>
    cases h
    obtain ⟨-, hlength, -, -⟩ := Source.read_eq_ok hread
    have hrest := Source.rest_of_read hread
    have hnil := eq_nil_of_take_eq_nil hsize hheader
    refine ⟨?_, by omega, ⟨fun h => ⟨?_, h.files⟩, fun h => ⟨?_, h.files⟩⟩, fun h => absurd h hsome,
      rfl⟩
    · simp only [pending, reading, hcurrent, hnil, Option.map_some, Option.getD_some, tailOf, hrest,
        List.nil_append, List.append_assoc]
    · intro file' hfile'
      obtain rfl := Option.some.inj (hcurrent.symm.trans hfile')
      have hleft' : source.rest.length = m.left - bytes.length := h.current _ rfl
      rw [hrest, List.length_append]
      omega
    · intro file' hfile'
      obtain rfl := Option.some.inj hfile'
      have hleft' := h.current file hcurrent
      rw [hrest, List.length_append] at hleft'
      change source.rest.length = m.left - bytes.length
      omega
  | case9 m hheader file hcurrent hleft extra source hread hextra now hheld hsame ih =>
    -- Nothing more can be read, so nothing of the file is left.
    have hnil := eq_nil_of_take_eq_nil hsize hheader
    have hrest : file.file.rest = [] := by_contra fun hrest =>
      hextra ((Source.read_eq_ok hread).2.2.1 Nat.one_pos hrest)
    refine (ih h).skip ?_ ⟨fun h => ⟨?_, h.files⟩, fun h => ⟨?_, h.files⟩⟩ rfl
    · simp only [pending, hcurrent, hnil, hrest, Option.map_none, Option.getD_none, Option.map_some,
        Option.getD_some, tailOf, List.nil_append]
    · intro file' hfile'
      obtain rfl := Option.some.inj (hcurrent.symm.trans hfile')
      rw [hrest, not_not.mp hleft]
      rfl
    · intro file' hfile'
      cases hfile'
  | case10 m hheader hcurrent file files hfiles ih =>
    have hnil := eq_nil_of_take_eq_nil hsize hheader
    refine (ih h).skip ?_ ⟨fun h => ⟨?_, ?_⟩, fun h => ⟨?_, ?_⟩⟩ rfl
    · simp only [pending, hcurrent, hfiles, hnil, Option.map_none, Option.getD_none,
        Option.map_some, Option.getD_some, List.flatMap_cons, partOf, List.nil_append, List.append_assoc]
    · intro file' hfile'
      rw [hcurrent] at hfile'
      cases hfile'
    · rw [hfiles]
      exact List.forall_mem_cons.mpr ⟨h.current file rfl, h.files⟩
    · intro file' hfile'
      obtain rfl := Option.some.inj hfile'
      exact h.files file (hfiles ▸ List.mem_cons_self)
    · intro file' hfile'
      exact h.files file' (hfiles ▸ List.mem_cons_of_mem _ hfile')
  | case11 m hheader hcurrent hfiles hopen ih =>
    have hnil := eq_nil_of_take_eq_nil hsize hheader
    refine (ih h).skip ?_ ⟨fun h => ⟨h.current, h.files⟩, fun h => ⟨h.current, h.files⟩⟩ rfl
    simp [pending, hcurrent, hfiles, hnil, hopen]
  | case12 m hheader hcurrent hfiles hfinished =>
    cases h
    have hnil := eq_nil_of_take_eq_nil hsize hheader
    rw [Bool.not_eq_false] at hfinished
    exact ⟨rfl, Nat.zero_le _, Iff.rfl, fun _ => ⟨hnil, hcurrent, hfiles, hfinished⟩, rfl⟩

theorem read_eq_ok (h : m.read moment size = (.ok bytes, m')) :
    (size = 0 ∧ bytes = [] ∧ m' = m) ∨ (0 < size ∧ Given size m bytes m') := by
  unfold read at h
  split at h
  · next hsize =>
    cases h
    exact .inl ⟨hsize, rfl, rfl⟩
  · next hsize =>
    split at h
    · cases h
    · exact .inr ⟨Nat.pos_of_ne_zero hsize, readLoop_eq_ok (Nat.pos_of_ne_zero hsize) h⟩

/-- What is told of the files that are not done with, and no call of theirs fails. -/
def Steady (told : String → Stamp → Prop) (m : Multipart) : Prop :=
  ∀ file, m.current = some file ∨ file ∈ m.files →
    told file.path file.stamp ∧ file.file.Unfailing

variable {told : String → Stamp → Prop}

/-- **A call succeeds** if the files are as long as they are declared and stay what they are. -/
theorem exists_readLoop (hsize : 0 < size) (hexact : m.Exact) (hsteady : m.Steady told)
    (htold : ∀ path stamp, told path stamp → moment.held path = .ok stamp) :
    ∃ bytes m', m.readLoop moment size = (.ok bytes, m') ∧ m'.Steady told := by
  fun_induction readLoop moment size m with
  | case1 m hheader => exact ⟨_, _, rfl, hsteady⟩
  | case2 m hheader file hcurrent hleft source hread
  | case5 m hheader file hcurrent hleft source hread =>
    obtain ⟨_, _, hok⟩ := Source.read_isOk (hsteady file (.inl hcurrent)).2 _
    cases hread.symm.trans hok
  | case3 m hheader file hcurrent hleft source hread =>
    have hlength := hexact.current file hcurrent
    refine absurd rfl ((Source.read_eq_ok hread).2.2.1 (by omega) fun hrest => hleft ?_)
    rw [← hlength, hrest, List.length_nil]
  | case4 m hheader file hcurrent hleft bytes source hread hsome =>
    refine ⟨_, _, rfl, fun file' hfile' => ?_⟩
    rcases hfile' with hfile' | hfile'
    · obtain rfl := Option.some.inj hfile'
      obtain ⟨htold', hunfailing⟩ := hsteady file (.inl hcurrent)
      exact ⟨htold', (Source.read_eq_ok hread).2.2.2.unfailing hunfailing⟩
    · exact hsteady file' (.inr hfile')
  | case6 m hheader file hcurrent hleft extra source hread hextra =>
    have hlength := hexact.current file hcurrent
    rw [not_not.mp hleft, List.length_eq_zero_iff] at hlength
    have hbegin := (Source.read_eq_ok hread).1
    rw [hlength, List.prefix_nil] at hbegin
    exact absurd hbegin hextra
  | case7 m hheader file hcurrent hleft extra source hread hextra e hheld =>
    cases hheld.symm.trans (htold _ _ (hsteady file (.inl hcurrent)).1)
  | case8 m hheader file hcurrent hleft extra source hread hextra now hheld hchanged =>
    rw [htold _ _ (hsteady file (.inl hcurrent)).1, Except.ok.injEq] at hheld
    exact absurd hheld.symm hchanged
  | case9 m hheader file hcurrent hleft extra source hread hextra now hheld hsame ih =>
    refine ih ⟨fun _ h => (by cases h), hexact.files⟩ fun file' hfile' => ?_
    exact hsteady file' (.inr (hfile'.resolve_left (by simp)))
  | case10 m hheader hcurrent file files hfiles ih =>
    refine ih ⟨fun file' hfile' => ?_, fun file' hfile' => ?_⟩ fun file' hfile' => ?_
    · obtain rfl := Option.some.inj hfile'
      exact hexact.files file (hfiles ▸ List.mem_cons_self)
    · exact hexact.files file' (hfiles ▸ List.mem_cons_of_mem _ hfile')
    · refine hsteady file' (.inr ?_)
      rcases hfile' with hfile' | hfile'
      · obtain rfl := Option.some.inj hfile'
        exact hfiles ▸ List.mem_cons_self
      · exact hfiles ▸ List.mem_cons_of_mem _ hfile'
  | case11 m hheader hcurrent hfiles hopen ih =>
    exact ih ⟨hexact.current, hexact.files⟩ hsteady
  | case12 m hheader hcurrent hfiles hfinished => exact ⟨_, _, rfl, hsteady⟩

/-! ## 3. Whole runs -/

variable {reads : List (Moment × Nat)}

/-- **What a run gives out** is a beginning of what was pending.  When the end is told it is all of
it, and the files were as long as they are declared. -/
theorem readAll_spec (reads : List (Moment × Nat)) : ∀ m : Multipart,
    (readAll reads m).1 <+: m.pending ∧
      ((readAll reads m).2 = .ended → (readAll reads m).1 = m.pending ∧ m.Exact) := by
  induction reads with
  | nil => exact fun m => ⟨List.nil_prefix, fun h => by cases h⟩
  | cons call reads ih =>
    intro m
    obtain ⟨moment, size⟩ := call
    rw [readAll]
    rcases hread : m.read moment size with ⟨_ | bytes, m'⟩
    · exact ⟨List.nil_prefix, fun h => by cases h⟩
    · dsimp only
      split
      · next hend =>
        obtain ⟨rfl, hsize⟩ := hend
        obtain ⟨hzero, -⟩ | ⟨-, hgiven⟩ := read_eq_ok hread
        · exact absurd hzero hsize
        · have hdone := hgiven.ended rfl
          have hpending : m.pending = [] := by
            rw [hgiven.pending]
            simp [pending, hdone.header, hdone.current, hdone.files, hdone.finished]
          refine ⟨List.nil_prefix, fun _ => ⟨hpending.symm, hgiven.exact.mp ⟨?_, ?_⟩⟩⟩
          · intro file hfile
            rw [hdone.current] at hfile
            cases hfile
          · intro file hfile
            rw [hdone.files] at hfile
            cases hfile
      · obtain ⟨-, rfl, rfl⟩ | ⟨-, hgiven⟩ := read_eq_ok hread
        · exact ih m'
        · rw [hgiven.pending]
          refine ⟨(List.prefix_append_right_inj _).mpr (ih m').1, fun hend => ?_⟩
          obtain ⟨hall, hexact⟩ := (ih m').2 hend
          exact ⟨congrArg (bytes ++ ·) hall, hgiven.exact.mp hexact⟩

/-- **A run comes to an end** if it has more calls that ask for something than there are bytes. -/
theorem readAll_ends (reads : List (Moment × Nat)) : ∀ m : Multipart,
    m.pending.length < reads.countP (fun call => call.2 ≠ 0) →
      (readAll reads m).2 ≠ .reading := by
  induction reads with
  | nil => exact fun m h => absurd h (Nat.not_lt_zero _)
  | cons call reads ih =>
    intro m hcount
    obtain ⟨moment, size⟩ := call
    rw [readAll]
    rcases hread : m.read moment size with ⟨_ | bytes, m'⟩
    · exact fun h => by cases h
    · dsimp only
      split
      · exact fun h => by cases h
      · next hmore =>
        refine ih m' ?_
        rw [List.countP_cons] at hcount
        obtain ⟨rfl, -, rfl⟩ | ⟨hsize, hgiven⟩ := read_eq_ok hread
        · simpa using hcount
        · have hbytes : 0 < bytes.length :=
            List.length_pos_iff.mpr fun h => hmore ⟨h, hsize.ne'⟩
          rw [hgiven.pending, List.length_append] at hcount
          split at hcount <;> omega

/-- **No call fails** if the files are as long as they are declared and stay what they are. -/
theorem readAll_steady (hcalls : ∀ call ∈ reads, call.1.expired = false ∧
    ∀ path stamp, told path stamp → call.1.held path = .ok stamp) : ∀ {m : Multipart},
    m.Exact → m.Steady told → ∀ e, (readAll reads m).2 ≠ .failed e := by
  induction reads with
  | nil => exact fun _ _ e h => by cases h
  | cons call reads ih =>
    intro m hexact hsteady e
    obtain ⟨moment, size⟩ := call
    obtain ⟨⟨hexpired, htold⟩, hcalls⟩ := List.forall_mem_cons.mp hcalls
    have hok : ∃ bytes m', m.read moment size = (.ok bytes, m') ∧ m'.Steady told := by
      unfold read
      split
      · exact ⟨_, _, rfl, hsteady⟩
      · next hsize =>
        rw [if_neg (by rw [hexpired]; exact Bool.false_ne_true)]
        exact exists_readLoop (Nat.pos_of_ne_zero hsize) hexact hsteady htold
    obtain ⟨bytes, m', hread, hsteady'⟩ := hok
    rw [readAll, hread]
    dsimp only
    split
    · exact fun h => by cases h
    · refine ih hcalls ?_ hsteady' e
      obtain ⟨-, -, rfl⟩ | ⟨-, hgiven⟩ := read_eq_ok hread
      · exact hexact
      · exact hgiven.exact.mpr hexact

end Multipart

/-! ## 4. The body of a closure -/

/-- The parts of the files and the last boundary. -/
def uploadBody (boundary : String) (files : List OpenFile) : List UInt8 :=
  files.flatMap (fun file => partHeader file.path boundary ++ (file.file.contents ++ partEnd)) ++
    lastBoundary boundary

/-- What a file that is as long as it is declared adds to the body. -/
def partLength (boundary : String) (file : OpenFile) : Nat :=
  file.stamp.length + ((partHeader file.path boundary).length + 2)

/-- A file is as long as it is declared. -/
def OpenFile.AsDeclared (file : OpenFile) : Prop := file.file.contents.length = file.stamp.length

section

variable {boundary : String} {files : List OpenFile}

theorem rest_of_fresh {file : OpenFile} (h : file.file.position = 0) :
    file.file.rest = file.file.contents := by rw [Source.rest, h, List.drop_zero]

theorem pending_new (hfresh : ∀ file ∈ files, file.file.position = 0) :
    (Multipart.new files boundary).pending = uploadBody boundary files := by
  rw [uploadBody]
  simp only [Multipart.pending, Multipart.new, Option.map_none, Option.getD_none, List.nil_append,
    Bool.false_eq_true, if_false]
  refine congrArg (· ++ lastBoundary boundary) (List.flatMap_congr fun file hfile => ?_)
  rw [Multipart.partOf, Multipart.tailOf, rest_of_fresh (hfresh file hfile)]

theorem exact_new (hfresh : ∀ file ∈ files, file.file.position = 0) :
    (Multipart.new files boundary).Exact ↔ ∀ file ∈ files, file.AsDeclared := by
  constructor
  · intro h file hfile
    rw [OpenFile.AsDeclared, ← rest_of_fresh (hfresh file hfile)]
    exact h.files file hfile
  · refine fun h => ⟨fun _ hnone => (by cases hnone), fun file hfile => ?_⟩
    rw [rest_of_fresh (hfresh file hfile)]
    exact h file hfile

theorem length_uploadBody (h : ∀ file ∈ files, file.AsDeclared) :
    (uploadBody boundary files).length =
      (lastBoundary boundary).length + (files.map (partLength boundary)).sum := by
  rw [uploadBody, List.length_append, List.length_flatMap, Nat.add_comm]
  congr 2
  refine List.map_congr_left fun file hfile => ?_
  have hend : partEnd.length = 2 := by decide
  rw [List.length_append, List.length_append, hend, h file hfile, partLength]
  omega

theorem addPart_eq {sum : Nat} {file : OpenFile} (h : sum + partLength boundary file < 2 ^ 64) :
    addPart boundary sum file = some (sum + partLength boundary file) := by
  rw [partLength] at h ⊢
  have hfirst : checkedAdd sum file.stamp.length = some (sum + file.stamp.length) :=
    if_pos (by omega)
  rw [addPart, hfirst, ← Nat.add_assoc]
  exact if_pos (by omega)

/-- The sizes are added up, unless that goes beyond 64 bits. -/
theorem foldlM_addPart : ∀ {files : List OpenFile} {sum : Nat},
    sum + (files.map (partLength boundary)).sum < 2 ^ 64 →
      files.foldlM (addPart boundary) sum = some (sum + (files.map (partLength boundary)).sum)
  | [], sum, _ => rfl
  | file :: files, sum, h => by
    rw [List.map_cons, List.sum_cons, ← Nat.add_assoc] at h ⊢
    rw [List.foldlM_cons, addPart_eq (by omega)]
    exact foldlM_addPart h

theorem bodyLength_eq (h : (lastBoundary boundary).length +
    (files.map (partLength boundary)).sum < 2 ^ 64) :
    bodyLength boundary files =
      .ok ((lastBoundary boundary).length + (files.map (partLength boundary)).sum) := by
  rw [bodyLength, okOr_eq_ok]
  exact foldlM_addPart h

end

/-! ### Lengths of headers -/

theorem byteLength_newBoundary (random : Bytes 32) : byteLength (newBoundary random) = 64 := by
  rw [newBoundary, byteLength_of_ascii, length_toList_hexEncode, random.length_toList]
  intro c hc
  have hdigit := isAsciiHexdigit_of_mem_hexEncode hc
  rw [isAsciiHexdigit, isAsciiLowerHex, isAsciiDigit] at hdigit
  simp at hdigit
  omega

variable {path boundary : String}

theorem length_partHeader_le (random : Bytes 32) (hpath : byteLength path ≤ 256) :
    (partHeader path (newBoundary random)).length ≤ 512 := by
  have hdashes : byteLength "--" = 2 := by decide
  have hname :
      byteLength "\r\nContent-Disposition: form-data; name=\"file\"; filename=\"" = 57 := by decide
  have htype : byteLength "\"\r\nContent-Type: application/octet-stream\r\n\r\n" = 45 := by decide
  change byteLength _ ≤ 512
  rw [byteLength_append, byteLength_append, byteLength_append, byteLength_append, hdashes, hname,
    htype, byteLength_newBoundary]
  omega

theorem length_lastBoundary (random : Bytes 32) :
    (lastBoundary (newBoundary random)).length = 70 := by
  have hdashes : byteLength "--" = 2 := by decide
  have hend : byteLength "--\r\n" = 4 := by decide
  change byteLength _ = 70
  rw [byteLength_append, byteLength_append, hdashes, hend, byteLength_newBoundary]

theorem sum_partLength_le (random : Bytes 32) : ∀ {files : List OpenFile},
    (∀ file ∈ files, byteLength file.path ≤ 256) →
      (files.map (partLength (newBoundary random))).sum ≤
        (files.map fun file => file.stamp.length).sum + files.length * 514
  | [], _ => Nat.zero_le _
  | file :: files, h => by
    obtain ⟨hfile, hfiles⟩ := List.forall_mem_cons.mp h
    have hheader := length_partHeader_le random hfile
    have hrest := sum_partLength_le random hfiles
    rw [List.map_cons, List.sum_cons, List.map_cons, List.sum_cons, List.length_cons, partLength]
    omega

/-- The deadline is not over at a call, and the files are what they were. -/
def Undisturbed (files : List OpenFile) (call : Moment × Nat) : Prop :=
  call.1.expired = false ∧ ∀ file ∈ files, call.1.held file.path = .ok file.stamp

variable {reads : List (Moment × Nat)}

theorem not_failed (boundary : String) {files : List OpenFile}
    (hfresh : ∀ file ∈ files, file.file.position = 0)
    (hfiles : ∀ file ∈ files, file.AsDeclared ∧ file.file.Unfailing)
    (hcalls : ∀ call ∈ reads, Undisturbed files call) (e : IoError) :
    (Multipart.readAll reads (.new files boundary)).2 ≠ .failed e := by
  have hsteady : (Multipart.new files boundary).Steady fun path stamp =>
      ∃ file ∈ files, file.path = path ∧ file.stamp = stamp := by
    rintro file (hnone | hfile)
    · cases hnone
    · exact ⟨⟨file, hfile, rfl, rfl⟩, (hfiles file hfile).2⟩
  refine Multipart.readAll_steady (fun call hcall => ⟨(hcalls call hcall).1, ?_⟩)
    ((exact_new hfresh).mpr fun file hfile => (hfiles file hfile).1) hsteady e
  rintro path stamp ⟨file, hfile, rfl, rfl⟩
  exact (hcalls call hcall).2 file hfile

/-- An undisturbed run of enough calls gives the whole body out. -/
theorem readAll_complete {files : List OpenFile} (hfresh : ∀ file ∈ files, file.file.position = 0)
    (hfiles : ∀ file ∈ files, file.AsDeclared ∧ file.file.Unfailing)
    (hcalls : ∀ call ∈ reads, Undisturbed files call)
    (hcount : (uploadBody boundary files).length < reads.countP fun call => call.2 ≠ 0) :
    Multipart.readAll reads (.new files boundary) = (uploadBody boundary files, .ended) := by
  have hfailed := not_failed boundary hfresh hfiles hcalls
  obtain ⟨-, hall⟩ := Multipart.readAll_spec reads (.new files boundary)
  have hends := Multipart.readAll_ends reads (.new files boundary)
  rw [pending_new hfresh] at hall hends
  rcases hrun : Multipart.readAll reads (.new files boundary) with ⟨bytes, ending⟩
  rw [hrun] at hfailed hall hends
  cases ending with
  | reading => exact absurd rfl (hends hcount)
  | ended => exact Prod.ext (hall rfl).1 rfl
  | failed e => exact absurd rfl (hfailed e)

/-- **The body of a closure.**  Its files are the declared ones in the order of their paths.  A
length is announced for it; whatever the sizes of the calls, a run gives out a beginning of the
body, tells the end behind all of it and then has given out as many bytes as were announced; a file
of another length than declared keeps the end from being told; every run of enough calls comes to an
end, and to no failure if the files are as declared and stay what they are. -/
theorem upload_body {host : Host} {slash : Node} {view : View} {descriptor : StagedDirectory}
    {closure : Closure} (hproper : slash.Proper)
    (h : Closure.open host slash view descriptor = .ok closure) (random : Bytes 32) :
    closure.files.map OpenFile.entry =
        sortByKey (fun entry => utf8Bytes entry.1) (descriptor.files.map StagedFile.entry) ∧
    ∃ length, bodyLength (newBoundary random) closure.files = .ok length ∧
      ∀ reads bytes ending, Multipart.readAll reads
          (.new closure.files (newBoundary random)) = (bytes, ending) →
        bytes <+: uploadBody (newBoundary random) closure.files ∧
        (ending = .ended → bytes = uploadBody (newBoundary random) closure.files ∧
          bytes.length = length) ∧
        ((∃ file ∈ closure.files, ¬file.AsDeclared) → ending ≠ .ended) ∧
        ((uploadBody (newBoundary random) closure.files).length <
            reads.countP (fun call => call.2 ≠ 0) → ending ≠ .reading) ∧
        ((∀ file ∈ closure.files, file.AsDeclared ∧ file.file.Unfailing) →
          (∀ call ∈ reads, Undisturbed closure.files call) →
          ∀ e, ending ≠ .failed e) := by
  obtain ⟨hentries, hfresh⟩ := open_files hproper h
  obtain ⟨hcount, htotal, hpaths⟩ := open_bounds hproper h
  have hannounced : (lastBoundary (newBoundary random)).length +
      (closure.files.map (partLength (newBoundary random))).sum < 2 ^ 64 := by
    have hsum := sum_partLength_le random hpaths
    rw [length_lastBoundary]
    rw [MAX_FILES] at hcount
    rw [MAX_BYTES] at htotal
    omega
  refine ⟨hentries, _, bodyLength_eq hannounced, fun reads bytes ending hrun => ?_⟩
  obtain ⟨hbegin, hend⟩ := Multipart.readAll_spec reads (.new closure.files (newBoundary random))
  have hends := Multipart.readAll_ends reads (.new closure.files (newBoundary random))
  rw [hrun, pending_new hfresh] at hbegin hend hends
  rw [exact_new hfresh] at hend
  refine ⟨hbegin, fun hended => ?_, ?_, hends, fun hfiles hcalls => ?_⟩
  · obtain ⟨hall, hexact⟩ := hend hended
    exact ⟨hall, (congrArg List.length hall).trans (length_uploadBody hexact)⟩
  · rintro ⟨file, hfile, hother⟩ hended
    exact hother ((hend hended).2 file hfile)
  · have hfailed := not_failed (newBoundary random) hfresh hfiles hcalls
    rwa [hrun] at hfailed

/-! ### A directory with two files -/

def sampleStamp (inode length : Nat) (mode : UInt32) : Stamp :=
  ⟨1, inode, length, mode, 1000, 1, (0, 0), (0, 0)⟩

def sampleFile (inode : Nat) (byte : UInt8) : Node :=
  .file ⟨.regular, sampleStamp inode 1 0o100600⟩ [byte] fun _ => .more 0

def sampleRoot : Node :=
  .directory ⟨.directory, sampleStamp 2 64 0o40700⟩
    [("capsule.json", sampleFile 3 1), ("_elastos_object.json", sampleFile 4 2)]

def sampleSlash : Node := .directory ⟨.directory, sampleStamp 1 64 0o40755⟩ [("staged", sampleRoot)]

def sampleDescriptor : StagedDirectory :=
  ⟨"/staged", [⟨"capsule.json", 1⟩, ⟨"_elastos_object.json", 1⟩], 2⟩

def sampleHeld (path : String) : Except IoError Stamp :=
  if path = "capsule.json" then .ok (sampleStamp 3 1 0o100600)
  else .ok (sampleStamp 4 1 0o100600)

def sampleFiles : List OpenFile :=
  [⟨"_elastos_object.json", ⟨[2], 0, fun _ => .more 0, 0⟩, sampleStamp 4 1 0o100600⟩,
    ⟨"capsule.json", ⟨[1], 0, fun _ => .more 0, 0⟩, sampleStamp 3 1 0o100600⟩]

theorem sample_open : Closure.open ⟨1000, none⟩ sampleSlash ⟨sampleSlash, sampleRoot, sampleHeld⟩
    sampleDescriptor = .ok ⟨sampleStamp 2 64 0o40700, [], sampleFiles⟩ := by
  rfl

theorem sample_proper : sampleSlash.Proper := by
  simp only [sampleSlash, sampleRoot, sampleFile, Node.Proper, ProperChildren, List.map_cons,
    List.map_nil, and_true]
  decide

theorem upload_body_sample :
    (Closure.open ⟨1000, none⟩ sampleSlash ⟨sampleSlash, sampleRoot, sampleHeld⟩
      sampleDescriptor = .ok ⟨sampleStamp 2 64 0o40700, [], sampleFiles⟩) ∧
    ∃ length, bodyLength (newBoundary (Bytes.zero 32)) sampleFiles = .ok length :=
  ⟨sample_open, by
    obtain ⟨-, length, hlength, -⟩ := upload_body sample_proper sample_open (Bytes.zero 32)
    exact ⟨length, hlength⟩⟩

/-- A body is what its first file begins with. -/
theorem uploadBody_head {other : String} {rest rest' : List UInt8}
    (h : partHeader path boundary ++ rest = partHeader other boundary ++ rest') :
    ∃ more more', utf8Bytes path ++ more = utf8Bytes other ++ more' := by
  simp only [partHeader, utf8Bytes_append, List.append_assoc] at h
  exact ⟨_, _, List.append_cancel_left (List.append_cancel_left (List.append_cancel_left h))⟩

/-- The parts do not come in the order of the descriptor, whatever the contents of the files. -/
theorem declared_order_fails : ∃ closure reads bytes,
    Closure.open ⟨1000, none⟩ sampleSlash ⟨sampleSlash, sampleRoot, sampleHeld⟩ sampleDescriptor =
      .ok closure ∧
    Multipart.readAll reads (.new closure.files (newBoundary (Bytes.zero 32))) = (bytes, .ended) ∧
    ∀ contents : String → List UInt8, bytes ≠
      sampleDescriptor.files.flatMap (fun file =>
        partHeader file.path (newBoundary (Bytes.zero 32)) ++ (contents file.path ++ partEnd)) ++
      lastBoundary (newBoundary (Bytes.zero 32)) := by
  let call : Moment × Nat := (⟨false, sampleHeld⟩, 1)
  have hcount : ∀ n, n < (List.replicate (n + 1) call).countP fun call => call.2 ≠ 0 := by
    intro n
    rw [List.countP_replicate, if_pos (by decide)]
    exact Nat.lt_succ_self n
  obtain ⟨calls, hcalls⟩ : ∃ calls, calls = List.replicate
    ((uploadBody (newBoundary (Bytes.zero 32)) sampleFiles).length + 1) call := ⟨_, rfl⟩
  have hrun : Multipart.readAll calls (.new sampleFiles (newBoundary (Bytes.zero 32))) =
      (uploadBody (newBoundary (Bytes.zero 32)) sampleFiles, .ended) := by
    refine readAll_complete ?_ ?_ ?_ ?_
    · simp [sampleFiles]
    · simp [sampleFiles, OpenFile.AsDeclared, sampleStamp, Source.Unfailing]
    · intro call' hcall
      obtain rfl := List.eq_of_mem_replicate (hcalls ▸ hcall)
      simp [Undisturbed, call, sampleFiles, sampleHeld]
    · exact hcalls ▸ hcount _
  refine ⟨_, calls, _, sample_open, hrun, fun contents hsame => ?_⟩
  have hfirst : ∀ rest rest',
      partHeader "_elastos_object.json" (newBoundary (Bytes.zero 32)) ++ rest ≠
        partHeader "capsule.json" (newBoundary (Bytes.zero 32)) ++ rest' := by
    intro rest rest' h
    obtain ⟨more, more', hpaths⟩ := uploadBody_head h
    have hunderscore : (utf8Bytes "_elastos_object.json").head? = some 0x5f := by decide
    have hletter : (utf8Bytes "capsule.json").head? = some 0x63 := by decide
    have hhead := congrArg List.head? hpaths
    rw [List.head?_append, List.head?_append, hunderscore, hletter] at hhead
    cases hhead
  simp only [uploadBody, sampleFiles, sampleDescriptor, List.flatMap_cons, List.append_assoc]
    at hsame
  exact hfirst _ _ hsame

end ElastosRuntime.DirectoryHash
