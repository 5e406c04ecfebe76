/-
# The files of the release journal

How a planned write reaches the directory.  `write_new_entry` and `write_replace_entry` write a
temporary file first and then give it its name: a new record by a second link and the removal of the
first, a changed one by a rename.  The next call starts with `cleanup_stale_temps`, which has to
make sense of whatever an interrupted writer left.

A write is a list of file-system steps, and a `Cut` says after how many of them it stops and what
the temporary file holds if it was not synced: a crash, a failed step and a loss of power all look
like this.  Directory entries reach the disk in the order they are made.

`Serves d J` is what recovery is for: every later call, whatever the order, gets from the directory
the answer that a journal `J` gives in one piece.
-/
import ElastosRuntime.Journal.Lifecycle
import ElastosRuntime.Lib.Files

namespace ElastosRuntime.ReleaseJournal

open Codec Contracts

/-! ## 1. The directory -/

/-- The names a journal's directory can hold: `STORE_LOCK_FILE`, what `is_record_name` and
`is_temp_name` accept, and the rest. -/
inductive StoreName where
  | lock
  | record (slotHash : Digest32)
  | temp (slotHash : Digest32)
  | other (name : String)
deriving DecidableEq

/-- A file, and whether it is a regular file of the owner's that nobody else can open. -/
structure StoreFile where
  bytes : List UInt8
  ownerOnly : Bool

abbrev Disk := Directory StoreName StoreFile

/-- `validate_owner_only_regular_file_metadata_with_link_count` -/
def validateOwnerOnly (metadata : Directory.Metadata StoreFile) (expectedLinkCount : Nat) :
    Except RuntimeReleaseJournalError Unit :=
  failIf (metadata.content.ownerOnly = false ∨ metadata.links ≠ expectedLinkCount)
    RuntimeReleaseJournalError.unavailable

/-- The file-system steps of a write, in the directory of the journal. -/
inductive FileStep where
  | removeTempIfPresent
  | createTemp
  | writeAll (bytes : List UInt8)
  | syncFile
  | checkTemp
  | hardLink
  | rename
  | unlinkTemp
  | syncDirectory
deriving DecidableEq

/-- `write_new_entry` and `write_replace_entry` -/
def JournalWrite.steps : JournalWrite → List FileStep
  | newEntry _ bytes => [.removeTempIfPresent, .createTemp, .writeAll bytes, .syncFile, .checkTemp,
      .hardLink, .syncDirectory, .unlinkTemp, .syncDirectory]
  | replaceEntry _ bytes => [.removeTempIfPresent, .createTemp, .writeAll bytes, .syncFile,
      .checkTemp, .rename, .syncDirectory]

/-- Where a write stops, and what an unsynced temporary file then holds. -/
structure Cut where
  done : Nat
  torn : List UInt8
deriving DecidableEq

/-- **The cuts that nothing recovers from**: a record is being replaced, its temporary file exists
and the rename has not happened. -/
def JournalWrite.Strands (write : JournalWrite) (cut : Cut) : Prop :=
  match write with
  | newEntry _ _ => False
  | replaceEntry _ _ =>
    .createTemp ∈ write.steps.take cut.done ∧ .rename ∉ write.steps.take cut.done

instance (write : JournalWrite) (cut : Cut) : Decidable (write.Strands cut) := by
  unfold JournalWrite.Strands
  split <;> infer_instance

namespace Disk

section

variable (d : Disk)

def fileStep (slotHash : Digest32) : FileStep → Except RuntimeReleaseJournalError Disk
  | .removeTempIfPresent =>
    match d.stat (.temp slotHash) with
    | some metadata => do
      validateOwnerOnly metadata 1
      pure (d.unlink (.temp slotHash))
    | none => .ok d
  | .createTemp =>
    match d.stat (.temp slotHash) with
    | some _ => .error .unavailable
    | none => .ok (d.create (.temp slotHash) ⟨[], true⟩)
  | .writeAll bytes => .ok (d.write (.temp slotHash) ⟨bytes, true⟩)
  | .checkTemp =>
    match d.stat (.temp slotHash) with
    | some metadata => do
      validateOwnerOnly metadata 1
      pure d
    | none => .error .unavailable
  | .hardLink =>
    match d.stat (.record slotHash) with
    | some _ => .error .conflict
    | none => .ok (d.link (.temp slotHash) (.record slotHash))
  | .rename => .ok (d.rename (.temp slotHash) (.record slotHash))
  | .unlinkTemp => .ok (d.unlink (.temp slotHash))
  | .syncFile | .syncDirectory => .ok d

/-- The steps of a write, up to the first that fails. -/
def runSteps (slotHash : Digest32) :
    List FileStep → Disk → Except RuntimeReleaseJournalError Unit × Disk
  | [], d => (.ok (), d)
  | step :: steps, d =>
    match fileStep d slotHash step with
    | .ok d' => runSteps slotHash steps d'
    | .error e => (.error e, d)

/-- What a write that stops leaves behind. -/
def cutOff (write : JournalWrite) (cut : Cut) : Disk :=
  let done := write.steps.take cut.done
  let d' := (runSteps write.slotHash done d).2
  if .syncFile ∈ done then d' else d'.write (.temp write.slotHash) ⟨cut.torn, true⟩

end

section

variable [Curves] [Crypto] (d : Disk)

/-- The bytes that `read_entry_from_path_for_slot_with_link_count` decodes. -/
def readFile (slotHash : Digest32) (expectedLinkCount : Nat) :
    Except RuntimeReleaseJournalError (List UInt8) :=
  match d.stat (.record slotHash) with
  | none => .error .notFound
  | some metadata => do
    validateOwnerOnly metadata expectedLinkCount
    failIf (MAX_STORE_FILE_BYTES < metadata.content.bytes.length)
      RuntimeReleaseJournalError.corrupt
    pure metadata.content.bytes

def cleanupTempEntry (slotHash : Digest32) : Except RuntimeReleaseJournalError Disk :=
  match d.stat (.temp slotHash) with
  | none => .error .unavailable
  | some tempMetadata =>
    match d.stat (.record slotHash) with
    | some recordMetadata => do
      validateOwnerOnly tempMetadata 2
      validateOwnerOnly recordMetadata 2
      failIf (tempMetadata.inode ≠ recordMetadata.inode) RuntimeReleaseJournalError.unavailable
      let bytes ← readFile d slotHash 2
      let _ ← decodeEntryForSlot bytes slotHash
      pure (d.unlink (.temp slotHash))
    | none => do
      -- a writer that got no further than the temporary file
      validateOwnerOnly tempMetadata 1
      pure (d.unlink (.temp slotHash))

def cleanupNames : List StoreName → Disk → Except RuntimeReleaseJournalError Unit × Disk
  | [], d => (.ok (), d)
  | .lock :: names, d => cleanupNames names d
  | .record _ :: names, d => cleanupNames names d
  | .temp slotHash :: names, d =>
    match cleanupTempEntry d slotHash with
    | .ok d' => cleanupNames names d'
    | .error e => (.error e, d)
  | .other _ :: _, d => (.error .unavailable, d)

def cleanupStaleTemps : Except RuntimeReleaseJournalError Unit × Disk :=
  cleanupNames d.names.keys d

/-- `ExclusiveFileLock::acquire` -/
def acquireLock : Except RuntimeReleaseJournalError Disk :=
  match d.stat .lock with
  | some metadata => do
    validateOwnerOnly metadata 1
    pure d
  | none => .ok (d.create .lock ⟨[], true⟩)

/-- How every operation starts. -/
def openStore : Except RuntimeReleaseJournalError Unit × Disk :=
  match acquireLock d with
  | .ok d' => cleanupStaleTemps d'
  | .error e => (.error e, d)

/-- The records among the names, as both scans of the directory list them. -/
def recordSlots : List StoreName → Except RuntimeReleaseJournalError (List Digest32)
  | [] => .ok []
  | .lock :: names => recordSlots names
  | .record slotHash :: names => do
    let slots ← recordSlots names
    pure (slotHash :: slots)
  | _ :: _ => .error .unavailable

def checkRecord (slotHash : Digest32) : Except RuntimeReleaseJournalError Unit :=
  match d.stat (.record slotHash) with
  | none => .error .unavailable
  | some metadata => validateOwnerOnly metadata 1

def recordCount : Except RuntimeReleaseJournalError Nat := do
  let slots ← recordSlots d.names.keys
  slots.forM (checkRecord d)
  pure slots.length

def view (slots : List Digest32) : JournalView where
  names := slots
  read slotHash := readFile d slotHash 1
  recordCount := recordCount d

/-- A call, whose write goes through (`none`) or is cut off. -/
def call (call : JournalCall) (cut : Option Cut) :
    Except RuntimeReleaseJournalError PersistedRuntimeReleaseOperation × Disk :=
  match openStore d with
  | (.error e, d') => (.error e, d')
  | (.ok (), d') =>
    match call.plan (view d' []) with
    | .error e => (.error e, d')
    | .ok ⟨none, entry⟩ => (entry.intoPersisted, d')
    | .ok ⟨some write, entry⟩ =>
      match cut with
      | some cut => (.error .unavailable, cutOff d' write cut)
      | none =>
        match runSteps write.slotHash write.steps d' with
        | (.ok (), d'') => (entry.intoPersisted, d'')
        | (.error e, d'') => (.error e, d'')

def listUnresolved :
    Except RuntimeReleaseJournalError (List PersistedRuntimeReleaseOperation) × Disk :=
  match openStore d with
  | (.error e, d') => (.error e, d')
  | (.ok (), d') => (do
      let slots ← recordSlots d'.names.keys
      (view d' slots).listUnresolved, d')

def step (label : JournalCall × Option Cut) : Option Disk := some (call d label.1 label.2).2

end

end Disk

namespace Disk

/-! ## 2. A directory that nobody is writing to -/

/-- **The directory shows a journal**: the lock, one file for each record, and nothing else. -/
structure Settled (d : Disk) (J : Journal) : Prop where
  wf : d.WellFormed
  locked : ∃ metadata, d.stat .lock = some metadata
  named : ∀ n metadata, d.stat n = some metadata → n = .lock ∨ ∃ slotHash, n = .record slotHash
  owned : ∀ n metadata, d.stat n = some metadata → validateOwnerOnly metadata 1 = .ok ()
  shows : ∀ slotHash, (d.stat (.record slotHash)).map (·.content.bytes) = J.lookup slotHash

variable {d : Disk} {J : Journal} {slotHash : Digest32}

theorem validateOwnerOnly_eq_ok {metadata : Directory.Metadata StoreFile} {links : Nat} :
    validateOwnerOnly metadata links = .ok () ↔
      metadata.content.ownerOnly = true ∧ metadata.links = links := by
  rw [validateOwnerOnly, failIf_eq_ok, not_or, Bool.not_eq_false, not_not]

theorem validateOwnerOnly_mk {inode links : Nat} {bytes : List UInt8} :
    validateOwnerOnly ⟨inode, ⟨bytes, true⟩, links⟩ links = .ok () :=
  validateOwnerOnly_eq_ok.mpr ⟨rfl, rfl⟩

namespace Settled

theorem temp_absent (h : d.Settled J) (slotHash : Digest32) : d.stat (.temp slotHash) = none := by
  cases hstat : d.stat (.temp slotHash) with
  | none => rfl
  | some metadata =>
    rcases h.named _ _ hstat with hname | ⟨_, hname⟩ <;> exact nomatch hname

/-- What a name stands for has no other name. -/
theorem alone (h : d.Settled J) {n n' : StoreName}
    {metadata metadata' : Directory.Metadata StoreFile} (hstat : d.stat n = some metadata)
    (hstat' : d.stat n' = some metadata') (hsame : metadata'.inode = metadata.inode) : n' = n := by
  by_contra hne
  have hlinks := (validateOwnerOnly_eq_ok.mp (h.owned n metadata hstat)).2
  have htwo := Directory.two_le_links hne hstat hstat' hsame
  omega

theorem record_absent (h : d.Settled J) (hnew : J.lookup slotHash = none) :
    d.stat (.record slotHash) = none := by
  have hshows := h.shows slotHash
  rw [hnew, Option.map_eq_none_iff] at hshows
  exact hshows

theorem record_present (h : d.Settled J) {bytes : List UInt8}
    (hold : J.lookup slotHash = some bytes) :
    ∃ metadata, d.stat (.record slotHash) = some metadata ∧ metadata.content.bytes = bytes := by
  have hshows := h.shows slotHash
  rw [hold, Option.map_eq_some_iff] at hshows
  exact hshows

/-- Only what `stat` answers counts. -/
theorem congr (h : d.Settled J) {d' : Disk} (hwf : d'.WellFormed)
    (hstat : ∀ n, d'.stat n = d.stat n) : d'.Settled J where
  wf := hwf
  locked := hstat .lock ▸ h.locked
  named n metadata hn := h.named n metadata (hstat n ▸ hn)
  owned n metadata hn := h.owned n metadata (hstat n ▸ hn)
  shows slotHash := hstat (.record slotHash) ▸ h.shows slotHash

/-- A directory with a new file for one record shows the journal with that record. -/
theorem insert (h : d.Settled J) {d' : Disk} (hwf : d'.WellFormed) (inode : Nat)
    {bytes : List UInt8} (hstat : ∀ n, d'.stat n =
      if n = .record slotHash then some ⟨inode, ⟨bytes, true⟩, 1⟩ else d.stat n) :
    d'.Settled (J.insert slotHash bytes) where
  wf := hwf
  locked := by
    rw [hstat, if_neg nofun]
    exact h.locked
  named n metadata hn := by
    rw [hstat] at hn
    split at hn
    · next hname => exact .inr ⟨slotHash, hname⟩
    · exact h.named n metadata hn
  owned n metadata hn := by
    rw [hstat] at hn
    split at hn
    · cases hn
      exact validateOwnerOnly_mk
    · exact h.owned n metadata hn
  shows slot := by
    rw [hstat, Table.lookup_insert_eq]
    by_cases hslot : slot = slotHash
    · rw [if_pos (by rw [hslot]), if_pos hslot, Option.map_some]
    · rw [if_neg (fun heq => hslot (StoreName.record.inj heq)), if_neg hslot]
      exact h.shows slot

end Settled

/-! ## 3. What an interrupted write leaves -/

/-- The temporary file alone ... -/
abbrev withTemp (d : Disk) (slotHash : Digest32) (bytes : List UInt8) : Disk :=
  d.create (.temp slotHash) ⟨bytes, true⟩

/-- ... with the record as its second name ... -/
abbrev linked (d : Disk) (slotHash : Digest32) (bytes : List UInt8) : Disk :=
  (d.withTemp slotHash bytes).link (.temp slotHash) (.record slotHash)

/-- ... and with the record as its name. -/
abbrev renamed (d : Disk) (slotHash : Digest32) (bytes : List UInt8) : Disk :=
  (d.withTemp slotHash bytes).rename (.temp slotHash) (.record slotHash)

namespace Settled

variable {bytes : List UInt8}

theorem stat_withTemp (h : d.Settled J) (n : StoreName) : (d.withTemp slotHash bytes).stat n =
    if n = .temp slotHash then some ⟨d.next, ⟨bytes, true⟩, 1⟩ else d.stat n :=
  Directory.stat_create h.wf (h.temp_absent slotHash) _ n

theorem stat_temp (h : d.Settled J) (slotHash : Digest32) (bytes : List UInt8) :
    (d.withTemp slotHash bytes).stat (.temp slotHash) = some ⟨d.next, ⟨bytes, true⟩, 1⟩ := by
  rw [h.stat_withTemp, if_pos rfl]

theorem stat_linked (h : d.Settled J) (hnew : J.lookup slotHash = none) (n : StoreName) :
    (d.linked slotHash bytes).stat n =
      if n = .record slotHash ∨ n = .temp slotHash then some ⟨d.next, ⟨bytes, true⟩, 2⟩
      else d.stat n := by
  have hrecord := h.record_absent hnew
  have htemp := h.stat_temp slotHash bytes
  have habsent : (d.withTemp slotHash bytes).stat (.record slotHash) = none := by
    rw [h.stat_withTemp, if_neg nofun, hrecord]
  rw [Directory.stat_link htemp habsent, h.stat_withTemp]
  by_cases hn : n = .record slotHash
  · rw [if_pos hn, if_pos (.inl hn)]
  · rw [if_neg hn]
    by_cases hn' : n = .temp slotHash
    · rw [if_pos hn', if_pos (.inr hn'), Option.map_some, if_pos rfl]
    · rw [if_neg hn', if_neg (not_or.mpr ⟨hn, hn'⟩)]
      exact h.wf.stat_map _ n

/-- The first name goes, and the record is in place. -/
theorem unlink_linked (h : d.Settled J) (hnew : J.lookup slotHash = none) :
    Settled ((d.linked slotHash bytes).unlink (.temp slotHash)) (J.insert slotHash bytes) := by
  have htemp : (d.linked slotHash bytes).stat (.temp slotHash) =
      some ⟨d.next, ⟨bytes, true⟩, 2⟩ := by
    rw [h.stat_linked hnew, if_pos (.inr rfl)]
  refine h.insert (((h.wf.create _ _).link _ _).unlink _) d.next fun n => ?_
  rw [Directory.stat_unlink htemp, h.stat_linked hnew]
  by_cases hn : n = .temp slotHash
  · subst hn
    rw [if_pos rfl, if_neg nofun, h.temp_absent]
  · rw [if_neg hn]
    by_cases hn' : n = .record slotHash
    · rw [if_pos hn', if_pos (.inl hn'), Option.map_some, if_pos rfl]
      rfl
    · rw [if_neg hn', if_neg (not_or.mpr ⟨hn', hn⟩)]
      exact h.wf.stat_map _ n

/-- The temporary file goes, and nothing has happened. -/
theorem unlink_withTemp (h : d.Settled J) :
    Settled ((d.withTemp slotHash bytes).unlink (.temp slotHash)) J := by
  have htemp := h.stat_temp slotHash bytes
  refine h.congr ((h.wf.create _ _).unlink _) fun n => ?_
  rw [Directory.stat_unlink htemp, h.stat_withTemp]
  by_cases hn : n = .temp slotHash
  · rw [if_pos hn, hn, h.temp_absent]
  · rw [if_neg hn, if_neg hn]
    exact h.wf.stat_map _ n

/-- The record takes the place of the one before it. -/
theorem renamed (h : d.Settled J) {old : List UInt8} (hold : J.lookup slotHash = some old) :
    Settled (d.renamed slotHash bytes) (J.insert slotHash bytes) := by
  obtain ⟨record, hrecord, -⟩ := h.record_present hold
  have htemp := h.stat_temp slotHash bytes
  have hrecord' : (d.withTemp slotHash bytes).stat (.record slotHash) = some record := by
    rw [h.stat_withTemp, if_neg nofun, hrecord]
  have hne : record.inode ≠ d.next := Nat.ne_of_lt (h.wf.inode_lt hrecord)
  refine h.insert ((h.wf.create _ _).rename _ _) d.next fun n => ?_
  rw [Directory.stat_rename htemp hrecord' hne, h.stat_withTemp]
  by_cases hn : n = .record slotHash
  · rw [if_pos hn, if_pos hn]
  · rw [if_neg hn, if_neg hn]
    by_cases hn' : n = .temp slotHash
    · rw [if_pos hn', hn', h.temp_absent]
    · rw [if_neg hn', if_neg hn']
      -- no other name stands for the file that is replaced
      cases hstat : d.stat n with
      | none => rfl
      | some metadata =>
        rw [Option.map_some, if_neg fun hsame => hn (h.alone hrecord hstat hsame)]

end Settled

section Steps

variable {bytes : List UInt8}

theorem syncFile (d : Disk) (slotHash : Digest32) : fileStep d slotHash .syncFile = .ok d := rfl

theorem syncDirectory (d : Disk) (slotHash : Digest32) :
    fileStep d slotHash .syncDirectory = .ok d := rfl

theorem unlinkTemp (d : Disk) (slotHash : Digest32) :
    fileStep d slotHash .unlinkTemp = .ok (d.unlink (.temp slotHash)) := rfl

theorem writeAll (d : Disk) (slotHash : Digest32) (bytes bytes' : List UInt8) :
    fileStep (d.withTemp slotHash bytes) slotHash (.writeAll bytes') =
      .ok (d.withTemp slotHash bytes') := by
  rw [fileStep, withTemp, Directory.write_create]

theorem rename (d : Disk) (slotHash : Digest32) (bytes : List UInt8) :
    fileStep (d.withTemp slotHash bytes) slotHash .rename = .ok (d.renamed slotHash bytes) := rfl

namespace Settled

theorem removeTempIfPresent (h : d.Settled J) :
    fileStep d slotHash .removeTempIfPresent = .ok d := by
  rw [fileStep, h.temp_absent]

theorem createTemp (h : d.Settled J) :
    fileStep d slotHash .createTemp = .ok (d.withTemp slotHash []) := by
  rw [fileStep, h.temp_absent]

theorem checkTemp (h : d.Settled J) :
    fileStep (d.withTemp slotHash bytes) slotHash .checkTemp =
      .ok (d.withTemp slotHash bytes) := by
  rw [fileStep, h.stat_temp]
  exact bind_eq_ok.mpr ⟨(), validateOwnerOnly_mk, rfl⟩

theorem hardLink (h : d.Settled J) (hnew : J.lookup slotHash = none) :
    fileStep (d.withTemp slotHash bytes) slotHash .hardLink = .ok (d.linked slotHash bytes) := by
  rw [fileStep, h.stat_withTemp, if_neg nofun, h.record_absent hnew]

theorem runSteps_newEntry (h : d.Settled J) (hnew : J.lookup slotHash = none) :
    runSteps slotHash (JournalWrite.newEntry slotHash bytes).steps d =
      (.ok (), (d.linked slotHash bytes).unlink (.temp slotHash)) := by
  simp only [JournalWrite.steps, runSteps, h.removeTempIfPresent, h.createTemp, writeAll, syncFile,
    h.checkTemp, h.hardLink hnew, syncDirectory, unlinkTemp]

theorem runSteps_replaceEntry (h : d.Settled J) :
    runSteps slotHash (JournalWrite.replaceEntry slotHash bytes).steps d =
      (.ok (), d.renamed slotHash bytes) := by
  simp only [JournalWrite.steps, runSteps, h.removeTempIfPresent, h.createTemp, writeAll, syncFile,
    h.checkTemp, rename, syncDirectory]

/-- **Where the writing of a new record can stop.** -/
theorem cutOff_newEntry (h : d.Settled J) (hnew : J.lookup slotHash = none) (cut : Cut) :
    cutOff d (.newEntry slotHash bytes) cut = d ∨
      (∃ bytes', cutOff d (.newEntry slotHash bytes) cut = d.withTemp slotHash bytes') ∨
        cutOff d (.newEntry slotHash bytes) cut = d.linked slotHash bytes ∨
          cutOff d (.newEntry slotHash bytes) cut =
            (d.linked slotHash bytes).unlink (.temp slotHash) := by
  have habsent := Directory.write_of_stat_eq_none (h.temp_absent slotHash) ⟨cut.torn, true⟩
  have htorn : ∀ bytes, (d.withTemp slotHash bytes).write (.temp slotHash) ⟨cut.torn, true⟩ =
      d.withTemp slotHash cut.torn := fun bytes => Directory.write_create _ _ _
  obtain ⟨done, torn⟩ := cut
  rcases done with _ | _ | _ | _ | _ | _ | _ | _ | _ | done
  all_goals
    simp [cutOff, JournalWrite.steps, JournalWrite.slotHash, runSteps, h.removeTempIfPresent,
      h.createTemp, writeAll, syncFile, h.checkTemp, h.hardLink hnew, syncDirectory, unlinkTemp,
      habsent, htorn]

/-- **Where the writing of a changed record can stop**, and that it strands its temporary file in
one of three places. -/
theorem cutOff_replaceEntry (h : d.Settled J) (cut : Cut) :
    ¬(JournalWrite.replaceEntry slotHash bytes).Strands cut ∧
        (cutOff d (.replaceEntry slotHash bytes) cut = d ∨
          cutOff d (.replaceEntry slotHash bytes) cut = d.renamed slotHash bytes) ∨
      (JournalWrite.replaceEntry slotHash bytes).Strands cut ∧
        ∃ bytes', cutOff d (.replaceEntry slotHash bytes) cut = d.withTemp slotHash bytes' := by
  have habsent := Directory.write_of_stat_eq_none (h.temp_absent slotHash) ⟨cut.torn, true⟩
  have htorn : ∀ bytes, (d.withTemp slotHash bytes).write (.temp slotHash) ⟨cut.torn, true⟩ =
      d.withTemp slotHash cut.torn := fun bytes => Directory.write_create _ _ _
  obtain ⟨done, torn⟩ := cut
  rcases done with _ | _ | _ | _ | _ | _ | _ | done
  all_goals
    simp [JournalWrite.Strands, cutOff, JournalWrite.steps, JournalWrite.slotHash, runSteps,
      h.removeTempIfPresent, h.createTemp, writeAll, syncFile, h.checkTemp, rename, syncDirectory,
      habsent, htorn]

end Settled

end Steps

/-! ## 4. What the next call makes of it -/

section

variable [Curves] [Crypto]

theorem cleanupNames_plain {names : List StoreName} (h : ∀ n ∈ names, n = .lock ∨
    ∃ slotHash, n = .record slotHash) : cleanupNames names d = (.ok (), d) := by
  induction names with
  | nil => rfl
  | cons n names ih =>
    have htail := ih fun n hn => h n (List.mem_cons_of_mem _ hn)
    rcases h n List.mem_cons_self with rfl | ⟨_, rfl⟩
    · exact htail
    · exact htail

theorem cleanupNames_temp {names : List StoreName} (hnodup : names.Nodup)
    (hmem : .temp slotHash ∈ names) (h : ∀ n ∈ names, n ≠ .temp slotHash → n = .lock ∨
      ∃ slotHash, n = .record slotHash) :
    cleanupNames names d = match cleanupTempEntry d slotHash with
      | .ok d' => (.ok (), d')
      | .error e => (.error e, d) := by
  induction names with
  | nil => exact nomatch hmem
  | cons n names ih =>
    obtain ⟨hn, hnodup⟩ := List.nodup_cons.mp hnodup
    by_cases hhead : n = .temp slotHash
    · subst hhead
      have hplain : ∀ n ∈ names, n = .lock ∨ ∃ slotHash, n = .record slotHash := fun n' hn' =>
        h n' (List.mem_cons_of_mem _ hn') fun heq => hn (heq ▸ hn')
      rw [cleanupNames]
      cases cleanupTempEntry d slotHash with
      | ok d' => exact cleanupNames_plain hplain
      | error e => rfl
    · have htail := ih hnodup ((List.mem_cons.mp hmem).resolve_left (Ne.symm hhead))
        fun n' hn' => h n' (List.mem_cons_of_mem _ hn')
      rcases h n List.mem_cons_self hhead with rfl | ⟨_, rfl⟩
      · exact htail
      · exact htail

theorem openStore_of_locked {metadata : Directory.Metadata StoreFile}
    (hlock : d.stat .lock = some metadata) (hvalid : validateOwnerOnly metadata 1 = .ok ()) :
    openStore d = cleanupStaleTemps d := by
  have hacquire : acquireLock d = .ok d := by
    rw [acquireLock, hlock]
    exact bind_eq_ok.mpr ⟨(), hvalid, rfl⟩
  rw [openStore, hacquire]

/-- Nothing is left to clean up. -/
theorem Settled.opens (h : d.Settled J) : openStore d = (.ok (), d) := by
  obtain ⟨metadata, hlock⟩ := h.locked
  rw [openStore_of_locked hlock (h.owned _ _ hlock)]
  refine cleanupNames_plain fun n hn => ?_
  obtain ⟨metadata, hstat⟩ := Directory.mem_keys_iff.mp hn
  exact h.named n metadata hstat

/-- A directory with one temporary file opens when that file can be accounted for. -/
theorem openStore_temp (h : d.Settled J) {d' : Disk} {temp : Directory.Metadata StoreFile}
    (htemp : d'.stat (.temp slotHash) = some temp)
    (hrest : ∀ n, n ≠ .temp slotHash → n ≠ .record slotHash → d'.stat n = d.stat n) :
    openStore d' = match cleanupTempEntry d' slotHash with
      | .ok d'' => (.ok (), d'')
      | .error e => (.error e, d') := by
  obtain ⟨metadata, hlock⟩ := h.locked
  have hlock' : d'.stat .lock = some metadata := (hrest .lock nofun nofun).trans hlock
  rw [openStore_of_locked hlock' (h.owned _ _ hlock)]
  refine cleanupNames_temp d'.names.nodupKeys (Directory.mem_keys_iff.mpr ⟨temp, htemp⟩) ?_
  intro n hn hne
  by_cases hrecord : n = .record slotHash
  · exact .inr ⟨slotHash, hrecord⟩
  · obtain ⟨metadata, hstat⟩ := Directory.mem_keys_iff.mp hn
    exact h.named n metadata ((hrest n hne hrecord).symm.trans hstat)

/-- A write that an operation can plan: a new file for a slot that has none, or another for one that
has, and in either case a file that decodes. -/
inductive Fits (J : Journal) : JournalWrite → Prop
  | newEntry {slotHash : Digest32} {bytes : List UInt8} {entry : StoreEntry}
      (hnew : J.lookup slotHash = none) (hdecode : decodeEntryForSlot bytes slotHash = .ok entry) :
      Fits J (.newEntry slotHash bytes)
  | replaceEntry {slotHash : Digest32} {bytes old : List UInt8} {entry : StoreEntry}
      (hold : J.lookup slotHash = some old)
      (hdecode : decodeEntryForSlot bytes slotHash = .ok entry) :
      Fits J (.replaceEntry slotHash bytes)

variable {call : JournalCall} {write : JournalWrite} {entry : StoreEntry}

theorem fits_of_plan (hS : J.Sound) (h : call.plan J.view = .ok ⟨some write, entry⟩) :
    Fits J write := by
  cases JournalCall.planOf hS h with
  | create hnew hentry hbytes =>
    exact .newEntry hnew (decodeEntryForSlot_encodeEntry hbytes
      (PersistedRuntimeReleaseOperation.toEntry_slotHash hentry)
      (PersistedRuntimeReleaseOperation.toEntry_terminalBytes hentry))
  | change hv _ hentry hbytes =>
    obtain ⟨_, _, _, _, _, hold⟩ := hv
    exact .replaceEntry hold (decodeEntryForSlot_encodeEntry hbytes
      (PersistedRuntimeReleaseOperation.toEntry_slotHash hentry)
      (PersistedRuntimeReleaseOperation.toEntry_terminalBytes hentry))

theorem length_of_decodeEntryForSlot {bytes : List UInt8}
    (h : decodeEntryForSlot bytes slotHash = .ok entry) : bytes.length ≤ MAX_STORE_FILE_BYTES := by
  obtain ⟨⟨⟩, hlen, -⟩ := bind_eq_ok.mp h
  rw [failIf_eq_ok, not_or] at hlen
  exact Nat.le_of_not_lt hlen.2

namespace Settled

variable {bytes : List UInt8}

/-- A temporary file without a record is removed ... -/
theorem opens_withTemp (h : d.Settled J) (hnew : J.lookup slotHash = none) :
    openStore (d.withTemp slotHash bytes) =
      (.ok (), (d.withTemp slotHash bytes).unlink (.temp slotHash)) := by
  have htemp := h.stat_temp slotHash bytes
  have hrecord : (d.withTemp slotHash bytes).stat (.record slotHash) = none := by
    rw [h.stat_withTemp, if_neg nofun]
    exact h.record_absent hnew
  have hclean : cleanupTempEntry (d.withTemp slotHash bytes) slotHash =
      .ok ((d.withTemp slotHash bytes).unlink (.temp slotHash)) := by
    rw [cleanupTempEntry, htemp, hrecord]
    exact bind_eq_ok.mpr ⟨(), validateOwnerOnly_mk, rfl⟩
  rw [openStore_temp h htemp fun n hn _ => by rw [h.stat_withTemp, if_neg hn], hclean]

/-- ... but next to a record it stops every operation: the check asks for two names of one file. -/
theorem opens_stranded (h : d.Settled J) {old : List UInt8}
    (hold : J.lookup slotHash = some old) :
    openStore (d.withTemp slotHash bytes) = (.error .unavailable, d.withTemp slotHash bytes) := by
  have htemp := h.stat_temp slotHash bytes
  obtain ⟨record, hrecord, -⟩ := h.record_present hold
  have hrecord' : (d.withTemp slotHash bytes).stat (.record slotHash) = some record := by
    rw [h.stat_withTemp, if_neg nofun, hrecord]
  have hclean : cleanupTempEntry (d.withTemp slotHash bytes) slotHash = .error .unavailable := by
    rw [cleanupTempEntry, htemp, hrecord']
    rfl
  rw [openStore_temp h htemp fun n hn _ => by rw [h.stat_withTemp, if_neg hn], hclean]

/-- One of two names of a new record is removed. -/
theorem opens_linked (h : d.Settled J) (hnew : J.lookup slotHash = none) {entry : StoreEntry}
    (hdecode : decodeEntryForSlot bytes slotHash = .ok entry) :
    openStore (d.linked slotHash bytes) =
      (.ok (), (d.linked slotHash bytes).unlink (.temp slotHash)) := by
  have htemp : (d.linked slotHash bytes).stat (.temp slotHash) =
      some ⟨d.next, ⟨bytes, true⟩, 2⟩ := by
    rw [h.stat_linked hnew, if_pos (.inr rfl)]
  have hrecord : (d.linked slotHash bytes).stat (.record slotHash) =
      some ⟨d.next, ⟨bytes, true⟩, 2⟩ := by
    rw [h.stat_linked hnew, if_pos (.inl rfl)]
  have hread : readFile (d.linked slotHash bytes) slotHash 2 = .ok bytes := by
    rw [readFile, hrecord]
    exact bind_eq_ok.mpr ⟨(), validateOwnerOnly_mk, bind_eq_ok.mpr
      ⟨(), failIf_eq_ok.mpr (Nat.not_lt.mpr (length_of_decodeEntryForSlot hdecode)), rfl⟩⟩
  have hclean : cleanupTempEntry (d.linked slotHash bytes) slotHash =
      .ok ((d.linked slotHash bytes).unlink (.temp slotHash)) := by
    rw [cleanupTempEntry, htemp, hrecord]
    exact bind_eq_ok.mpr ⟨(), validateOwnerOnly_mk, bind_eq_ok.mpr ⟨(), validateOwnerOnly_mk,
      bind_eq_ok.mpr ⟨(), failIf_eq_ok.mpr (not_not.mpr rfl), bind_eq_ok.mpr ⟨bytes, hread,
        bind_eq_ok.mpr ⟨entry, hdecode, rfl⟩⟩⟩⟩⟩
  rw [openStore_temp h htemp fun n hn hn' => by
    rw [h.stat_linked hnew, if_neg (not_or.mpr ⟨hn', hn⟩)], hclean]

end Settled

/-! ## 5. A settled directory answers like its journal -/

namespace Settled

theorem readFile (h : d.Settled J) (hS : J.Sound) (slotHash : Digest32) :
    readFile d slotHash 1 = J.view.read slotHash := by
  cases hlookup : J.lookup slotHash with
  | none =>
    rw [Disk.readFile, h.record_absent hlookup]
    simp only [Journal.view, hlookup]
  | some bytes =>
    obtain ⟨metadata, hstat, rfl⟩ := h.record_present hlookup
    obtain ⟨v, hv⟩ := hS slotHash _ hlookup
    obtain ⟨entry, _, _, hread⟩ := hv.readEntryForSlot
    obtain ⟨bytes, hbytes, hdecode⟩ := bind_eq_ok.mp hread
    simp only [Journal.view, hlookup, Except.ok.injEq] at hbytes
    subst hbytes
    rw [Disk.readFile, hstat]
    simp only [Journal.view, hlookup]
    exact bind_eq_ok.mpr ⟨(), h.owned _ _ hstat, bind_eq_ok.mpr
      ⟨(), failIf_eq_ok.mpr (Nat.not_lt.mpr (length_of_decodeEntryForSlot hdecode)), rfl⟩⟩

omit [Curves] [Crypto] in
theorem recordSlots (h : d.Settled J) :
    ∃ slots, recordSlots d.names.keys = .ok slots ∧ slots.Perm J.keys := by
  have hnames : ∀ names : List StoreName, names.Nodup → (∀ n ∈ names, n = .lock ∨
      ∃ slotHash, n = .record slotHash) → ∃ slots, Disk.recordSlots names = .ok slots ∧
        slots.Nodup ∧ ∀ slot, slot ∈ slots ↔ .record slot ∈ names := by
    intro names
    induction names with
    | nil => exact fun _ _ => ⟨[], rfl, List.nodup_nil, fun slot => by simp⟩
    | cons n names ih =>
      intro hnodup hplain
      obtain ⟨hn, hnodup⟩ := List.nodup_cons.mp hnodup
      obtain ⟨slots, hslots, hdistinct, hmem⟩ := ih hnodup fun n hn =>
        hplain n (List.mem_cons_of_mem _ hn)
      rcases hplain n List.mem_cons_self with rfl | ⟨slot, rfl⟩
      · exact ⟨slots, hslots, hdistinct, fun slot => by simp [hmem]⟩
      · refine ⟨slot :: slots, bind_eq_ok.mpr ⟨slots, hslots, rfl⟩,
          List.nodup_cons.mpr ⟨fun hslot => hn ((hmem slot).mp hslot), hdistinct⟩, fun slot' => ?_⟩
        simp [hmem]
  obtain ⟨slots, hslots, hdistinct, hmem⟩ := hnames d.names.keys d.names.nodupKeys fun n hn => by
    obtain ⟨metadata, hstat⟩ := Directory.mem_keys_iff.mp hn
    exact h.named n metadata hstat
  refine ⟨slots, hslots, (List.perm_ext_iff_of_nodup hdistinct J.nodupKeys).mpr fun slot => ?_⟩
  rw [hmem, Directory.mem_keys_iff, ← Option.isSome_iff_exists]
  have hshows : ((d.stat (.record slot)).map (·.content.bytes)).isSome = (J.lookup slot).isSome :=
    congrArg Option.isSome (h.shows slot)
  rw [Option.isSome_map] at hshows
  rw [hshows]
  exact AList.lookup_isSome

omit [Curves] [Crypto] in
theorem recordCount (h : d.Settled J) : recordCount d = .ok (Table.size J) := by
  obtain ⟨slots, hslots, hperm⟩ := h.recordSlots
  have hvalid : ∀ slots : List Digest32, (∀ slot ∈ slots, slot ∈ J.keys) →
      slots.forM (checkRecord d) = .ok () := by
    intro slots
    induction slots with
    | nil => exact fun _ => rfl
    | cons slot slots ih =>
      intro hmem
      obtain ⟨bytes, hlookup⟩ := Option.isSome_iff_exists.mp
        (AList.lookup_isSome.mpr (hmem slot List.mem_cons_self))
      obtain ⟨metadata, hstat, -⟩ := h.record_present hlookup
      have hcheck : checkRecord d slot = .ok () := by
        rw [checkRecord, hstat]
        exact h.owned _ _ hstat
      exact bind_eq_ok.mpr ⟨(), hcheck, ih fun slot hslot =>
        hmem slot (List.mem_cons_of_mem _ hslot)⟩
  refine bind_eq_ok.mpr ⟨slots, hslots, bind_eq_ok.mpr
    ⟨(), hvalid slots fun slot hslot => hperm.mem_iff.mp hslot, congrArg Except.ok ?_⟩⟩
  rw [hperm.length_eq, Table.size]
  exact List.length_map _

end Settled

/-- The names a view lists play no part in what the calls plan. -/
theorem plan_congr {view view' : JournalView} (hread : view.read = view'.read)
    (hcount : view.recordCount = view'.recordCount) (call : JournalCall) :
    call.plan view = call.plan view' := by
  obtain ⟨names, read, count⟩ := view
  obtain ⟨names', read', count'⟩ := view'
  obtain rfl : read = read' := hread
  obtain rfl : count = count' := hcount
  cases call <;> rfl

theorem Settled.plan (h : d.Settled J) (hS : J.Sound) (call : JournalCall) :
    call.plan (view d []) = call.plan J.view :=
  plan_congr (funext fun slotHash => h.readFile hS slotHash) h.recordCount call

/-! ## 6. Calls that are cut off, and the calls after them -/

/-- The next operation finds the journal `J`. -/
def Recovers (d : Disk) (J : Journal) : Prop :=
  ∃ d', openStore d = (.ok (), d') ∧ d'.Settled J

theorem Settled.recovers (h : d.Settled J) : d.Recovers J := ⟨d, h.opens, h⟩

/-- A call that goes through does to the directory what it does to the journal. -/
theorem Recovers.call_completed (h : d.Recovers J) (hS : J.Sound) (call : JournalCall) :
    (d.call call none).1 = (J.call call .completed).1 ∧
      Recovers (d.call call none).2 (J.call call .completed).2 := by
  obtain ⟨d', hopen, h⟩ := h
  rw [Disk.call, hopen]
  simp only [h.plan hS]
  rw [Journal.call]
  cases hplan : call.plan J.view with
  | error e => exact ⟨rfl, h.recovers⟩
  | ok plan =>
    obtain ⟨_ | write, entry⟩ := plan
    · exact ⟨rfl, h.recovers⟩
    · cases fits_of_plan hS hplan with
      | newEntry hnew =>
        simp only [JournalWrite.slotHash, h.runSteps_newEntry hnew]
        exact ⟨rfl, (h.unlink_linked hnew).recovers⟩
      | replaceEntry hold =>
        simp only [JournalWrite.slotHash, h.runSteps_replaceEntry]
        exact ⟨rfl, (h.renamed hold).recovers⟩

/-- What a call that writes nothing leaves, cut off or not, is the journal as it was. -/
theorem Recovers.call_replay (h : d.Recovers J) (hS : J.Sound)
    (hnone : ∀ write entry, call.plan J.view ≠ .ok ⟨some write, entry⟩)
    (cut : Option Cut) : Recovers (d.call call cut).2 J := by
  obtain ⟨d', hopen, h⟩ := h
  rw [Disk.call, hopen]
  simp only [h.plan hS]
  cases hplan : call.plan J.view with
  | error e => exact h.recovers
  | ok plan =>
    obtain ⟨_ | write, entry⟩ := plan
    · exact h.recovers
    · exact absurd hplan (hnone write entry)

/-- **Every cut but those that strand is recovered from**, with the old record or with the new
one. -/
theorem Recovers.cutOff (h : d.Recovers J) (hS : J.Sound)
    (hplan : call.plan J.view = .ok ⟨some write, entry⟩) (cut : Cut) :
    ¬write.Strands cut ∧ (Recovers (d.call call (some cut)).2 J ∨
        Recovers (d.call call (some cut)).2 (J.apply write)) ∨
      write.Strands cut ∧ openStore (d.call call (some cut)).2 =
        (.error .unavailable, (d.call call (some cut)).2) := by
  obtain ⟨d', hopen, h⟩ := h
  have hleft : (d.call call (some cut)).2 = d'.cutOff write cut := by
    rw [Disk.call, hopen]
    simp only [h.plan hS, hplan]
  rw [hleft]
  cases fits_of_plan hS hplan with
  | newEntry hnew hdecode =>
    refine .inl ⟨id, ?_⟩
    rcases h.cutOff_newEntry hnew cut with heq | ⟨bytes', heq⟩ | heq | heq
    · rw [heq]
      exact .inl h.recovers
    · rw [heq]
      exact .inl ⟨_, h.opens_withTemp hnew, h.unlink_withTemp⟩
    · rw [heq]
      exact .inr ⟨_, h.opens_linked hnew hdecode, h.unlink_linked hnew⟩
    · rw [heq]
      exact .inr (h.unlink_linked hnew).recovers
  | replaceEntry hold =>
    rcases h.cutOff_replaceEntry cut with ⟨hsafe, heq | heq⟩ | ⟨hstrands, bytes', heq⟩
    · rw [heq]
      exact .inl ⟨hsafe, .inl h.recovers⟩
    · rw [heq]
      exact .inl ⟨hsafe, .inr (h.renamed hold).recovers⟩
    · rw [heq]
      exact .inr ⟨hstrands, h.opens_stranded hold⟩

/-- The file an operation would write, if it came next. -/
def Writes (d : Disk) (call : JournalCall) (write : JournalWrite) : Prop :=
  ∃ d' entry, openStore d = (.ok (), d') ∧ call.plan (view d' []) = .ok ⟨some write, entry⟩

theorem Recovers.writes_iff (h : d.Recovers J) (hS : J.Sound) :
    d.Writes call write ↔ ∃ entry, call.plan J.view = .ok ⟨some write, entry⟩ := by
  obtain ⟨d', hopen, h⟩ := h
  constructor
  · rintro ⟨d'', entry, hopen', hplan⟩
    rw [hopen, Prod.mk.injEq] at hopen'
    obtain ⟨-, rfl⟩ := hopen'
    exact ⟨entry, (h.plan hS call).symm.trans hplan⟩
  · rintro ⟨entry, hplan⟩
    exact ⟨d', entry, hopen, (h.plan hS call).trans hplan⟩

/-- The step does not strand its temporary file. -/
def Recoverable (d : Disk) (label : JournalCall × Option Cut) : Prop :=
  ∀ write cut, d.Writes label.1 write → label.2 = some cut → ¬write.Strands cut

/-- **The step lemma**: a call of the directory, cut off or not, is a call of the journal with one
of its fates. -/
theorem Recovers.step (h : d.Recovers J) (hS : J.Sound) {label : JournalCall × Option Cut}
    (hlabel : d.Recoverable label) :
    ∃ fate, Recovers (d.call label.1 label.2).2 (J.call label.1 fate).2 := by
  obtain ⟨call, _ | cut⟩ := label
  · exact ⟨.completed, (h.call_completed hS call).2⟩
  · by_cases hwrites : ∃ write entry, call.plan J.view = .ok ⟨some write, entry⟩
    · obtain ⟨write, entry, hplan⟩ := hwrites
      have hsafe := hlabel write cut ((h.writes_iff hS).mpr ⟨entry, hplan⟩) rfl
      rcases h.cutOff hS hplan cut with ⟨-, hold | hnew⟩ | ⟨hstrands, -⟩
      · refine ⟨.lost, ?_⟩
        rw [Journal.call, hplan]
        exact hold
      · refine ⟨.unconfirmed, ?_⟩
        rw [Journal.call, hplan]
        exact hnew
      · exact absurd hstrands hsafe
    · refine ⟨.refused, ?_⟩
      rw [Journal.call]
      exact h.call_replay hS (fun write entry hplan => hwrites ⟨write, entry, hplan⟩) (some cut)

/-- The directory after some calls that go through. -/
def after (d : Disk) (calls : List JournalCall) : Disk :=
  calls.foldl (fun d call => (d.call call none).2) d

/-- The journal after the same calls. -/
def journalAfter (J : Journal) (calls : List JournalCall) : Journal :=
  calls.foldl (fun J call => (J.call call .completed).2) J

/-- **Whatever is asked of the directory from now on is answered as `J` answers it.** -/
def Serves (d : Disk) (J : Journal) : Prop :=
  ∀ calls, (∀ call, ((d.after calls).call call none).1 =
      ((journalAfter J calls).call call .completed).1) ∧
    (d.after calls).listUnresolved.1 = (journalAfter J calls).view.listUnresolved

theorem Recovers.after (h : d.Recovers J) (hS : J.Sound) (calls : List JournalCall) :
    Recovers (d.after calls) (journalAfter J calls) ∧ (journalAfter J calls).Sound := by
  induction calls generalizing d J with
  | nil => exact ⟨h, hS⟩
  | cons call calls ih => exact ih (h.call_completed hS call).2 hS.after

theorem Recovers.serves (h : d.Recovers J) (hS : J.Sound) : d.Serves J := by
  intro calls
  obtain ⟨hafter, hS'⟩ := h.after hS calls
  refine ⟨fun call => (hafter.call_completed hS' call).1, ?_⟩
  obtain ⟨d', hopen, hd'⟩ := hafter
  obtain ⟨slots, hslots, hperm⟩ := hd'.recordSlots
  have hlist : listUnresolved (d.after calls) = ((view d' slots).listUnresolved, d') := by
    rw [listUnresolved, hopen]
    simp only [hslots]
    rfl
  rw [hlist]
  exact hS'.listUnresolved_perm (funext fun slotHash => hd'.readFile hS' slotHash) hperm

/-- A directory that does not open serves nothing, and stays as it is. -/
theorem not_serves_of_openStore {e : RuntimeReleaseJournalError} (h : openStore d = (.error e, d))
    (hS : J.Sound) : ¬d.Serves J := by
  intro hserves
  obtain ⟨unresolved, hlisted, -⟩ := hS.listUnresolved
  have hanswer := (hserves []).2
  have hlist : listUnresolved d = (.error e, d) := by
    rw [listUnresolved, h]
  change (listUnresolved d).1 = J.view.listUnresolved at hanswer
  rw [hlist, hlisted] at hanswer
  exact nomatch hanswer

theorem call_of_openStore {e : RuntimeReleaseJournalError} (h : openStore d = (.error e, d))
    (call : JournalCall) (cut : Option Cut) : d.call call cut = (.error e, d) := by
  rw [Disk.call, h]

/-! ## 7. Recovery -/

/-- A directory without files. -/
def empty : Disk := ⟨∅, fun _ => ⟨[], true⟩, 0⟩

omit [Curves] [Crypto] in
theorem empty_stat (n : StoreName) : empty.stat n = none :=
  Directory.stat_eq_none.mpr (AList.lookup_empty n)

theorem empty_recovers : empty.Recovers ∅ := by
  have hwf : empty.WellFormed := fun n _ hlookup =>
    nomatch (AList.lookup_empty n).symm.trans hlookup
  have hstat := Directory.stat_create hwf (empty_stat .lock) ⟨[], true⟩
  have hsettled : Settled (empty.create .lock ⟨[], true⟩) ∅ :=
    { wf := hwf.create _ _
      locked := ⟨_, (hstat .lock).trans (if_pos rfl)⟩
      named := fun n metadata hn => by
        rw [hstat] at hn
        split at hn
        · next h => exact .inl h
        · rw [empty_stat] at hn
          exact nomatch hn
      owned := fun n metadata hn => by
        rw [hstat] at hn
        split at hn
        · cases hn
          exact validateOwnerOnly_mk
        · rw [empty_stat] at hn
          exact nomatch hn
      shows := fun slotHash => by
        rw [hstat, if_neg nofun, empty_stat]
        rfl }
  refine ⟨_, ?_, hsettled⟩
  have hacquire : acquireLock empty = .ok (empty.create .lock ⟨[], true⟩) := by
    rw [acquireLock, empty_stat]
  obtain ⟨metadata, hlock⟩ := hsettled.locked
  have hopens := hsettled.opens
  rw [openStore_of_locked hlock (hsettled.owned _ _ hlock)] at hopens
  rw [openStore, hacquire]
  exact hopens

/-- **The run lemma**: after calls that go through or are cut off where nothing is stranded, the
directory shows what calls of the journal have made of the journal that it showed. -/
theorem run_of_recovers {labels : List (JournalCall × Option Cut)} :
    ∀ {d : Disk} {J : Journal}, d.Recovers J → J.Sound →
      Transition.Guarded step Recoverable d labels →
        ∀ {d'}, Transition.run step d labels = some d' →
          ∃ calls J', J'.Sound ∧ Transition.run Journal.step J calls = some J' ∧
            d'.Recovers J' := by
  induction labels with
  | nil =>
    intro d J h hS _ d' hrun
    obtain rfl := Option.some.inj hrun
    exact ⟨[], J, hS, rfl, h⟩
  | cons label labels ih =>
    intro d J h hS hguard d' hrun
    obtain ⟨e, hstep, hrun⟩ := Transition.run_cons_eq_some.mp hrun
    obtain ⟨hlabel, hguard⟩ := hguard.tail hstep
    obtain rfl := Option.some.inj hstep
    obtain ⟨fate, hafter⟩ := h.step hS hlabel
    obtain ⟨calls, J', hS', hcalls, h'⟩ := ih hafter hS.after hguard hrun
    exact ⟨(label.1, fate) :: calls, J', hS', Transition.run_cons_eq_some.mpr ⟨_, rfl, hcalls⟩, h'⟩

theorem recovers_of_run {labels : List (JournalCall × Option Cut)} {d : Disk} {J : Journal}
    (h : d.Recovers J) (hJ : J.Reachable) (hguard : Transition.Guarded step Recoverable d labels)
    {d' : Disk} (hrun : Transition.run step d labels = some d') :
    ∃ J' : Journal, J'.Reachable ∧ d'.Recovers J' := by
  obtain ⟨_, J', -, hcalls, h'⟩ := run_of_recovers h hJ.sound hguard hrun
  exact ⟨J', hJ.run hcalls, h'⟩

/-- **Recovery, and the one place it fails.**  After any run of calls that strands no temporary file
the directory serves a journal, and the write of the next call, cut off anywhere, leaves one that
serves that journal or the one with the write, unless the cut is between the creation of the
temporary file and the rename over an existing record. -/
theorem crash_recovery_iff {labels : List (JournalCall × Option Cut)} {d : Disk}
    (hrun : Transition.run step empty labels = some d)
    (hcuts : Transition.Guarded step Recoverable empty labels) :
    ∃ J : Journal, J.Reachable ∧ d.Serves J ∧ ∀ call write cut, d.Writes call write →
      ((∃ J' : Journal, (J' = J ∨ J' = J.apply write) ∧ Serves (d.call call (some cut)).2 J') ↔
        ¬write.Strands cut) := by
  obtain ⟨J, hJ, h⟩ := recovers_of_run empty_recovers ⟨∅, [], rfl, rfl⟩ hcuts hrun
  refine ⟨J, hJ, h.serves hJ.sound, fun call write cut hwrites => ?_⟩
  obtain ⟨entry, hplan⟩ := (h.writes_iff hJ.sound).mp hwrites
  have hnew : (J.apply write).Sound := by
    have hafter : (J.call call .completed).2 = J.apply write := by
      rw [Journal.call, hplan]
      rfl
    exact hafter ▸ hJ.sound.after
  rcases h.cutOff hJ.sound hplan cut with ⟨hsafe, hold | hdone⟩ | ⟨hstrands, hopen⟩
  · exact iff_of_true ⟨J, .inl rfl, hold.serves hJ.sound⟩ hsafe
  · exact iff_of_true ⟨J.apply write, .inr rfl, hdone.serves hnew⟩ hsafe
  · refine iff_of_false ?_ (not_not.mpr hstrands)
    rintro ⟨J', rfl | rfl, hserves⟩
    · exact not_serves_of_openStore hopen hJ.sound hserves
    · exact not_serves_of_openStore hopen hnew hserves

/-- **What was answered survives every crash.**  Let calls go through or be cut off, in any order
and anywhere but where a temporary file is stranded.  Once a call was answered with a record, the
directory loads it at every later moment with its draft, its mark, its result and, up to the result,
its decisions, and lists it as long as it has no result. -/
theorem answered_survives {before after : List (JournalCall × Option Cut)} {d d' : Disk}
    {call : JournalCall} {v : PersistedRuntimeReleaseOperation}
    (hcuts : Transition.Guarded step Recoverable empty (before ++ (call, none) :: after))
    (hbefore : Transition.run step empty before = some d) (hanswer : (d.call call none).1 = .ok v)
    (hafter : Transition.run step (d.call call none).2 after = some d') :
    ∃ operationHash v' unresolved, v.draft.operationHash = .ok operationHash ∧
      (d'.call (.load operationHash) none).1 = .ok v' ∧ Grows v v' ∧
      d'.listUnresolved.1 = .ok unresolved ∧ (v' ∈ unresolved ↔ v'.terminalResult = none) := by
  obtain ⟨hguard, hguard'⟩ := hcuts.of_append hbefore
  obtain ⟨J, hJ, h⟩ := recovers_of_run empty_recovers ⟨∅, [], rfl, rfl⟩ hguard hbefore
  obtain ⟨hsame, h⟩ := h.call_completed hJ.sound call
  obtain ⟨slot, hv⟩ := Journal.holds_of_call_eq_ok hJ.sound (hsame.symm.trans hanswer)
  obtain ⟨_, J', hS', hrun, h'⟩ := run_of_recovers h hJ.sound.after (hguard'.tail rfl).2 hafter
  obtain ⟨v', hv', hgrows⟩ := hJ.sound.after.follows hrun hv
  obtain ⟨entry, _, hentry, _⟩ := id hv
  have hhash := PersistedRuntimeReleaseOperation.operationHash_toEntry hentry
  obtain ⟨unresolved, hlist, -, hmem⟩ := hS'.listUnresolved
  refine ⟨entry.operationHash, v', unresolved, hhash, ?_, hgrows, ?_, ?_⟩
  · rw [(h'.call_completed hS' _).1, hv'.load (hgrows.draft ▸ hhash)]
  · rw [← hlist]
    exact (h'.serves hS' []).2
  · rw [hmem]
    exact ⟨fun ⟨_, _, hnone⟩ => hnone, fun hnone => ⟨slot, hv', hnone⟩⟩

/-- **A crash that stops the whole journal**: the record of a draft is being marked as started,
which works, and the writer stops after filling the temporary file.  From then on every operation
answers `Unavailable` and changes nothing. -/
theorem Recovers.mark_strands (h : d.Recovers J) (hS : J.Sound)
    {draft : RuntimeReleaseOperationDraft} (hv : J.Holds slotHash (.fresh draft))
    (hentry : (⟨draft, none, [], true⟩ : PersistedRuntimeReleaseOperation).toEntry = .ok entry) :
    (d.call (.markProviderEffectStarted draft) none).1 = .ok ⟨draft, none, [], true⟩ ∧
      ∃ d', (d.call (.markProviderEffectStarted draft) (some ⟨3, []⟩)).2 = d' ∧
        (∀ call cut, d'.call call cut = (.error .unavailable, d')) ∧
          d'.listUnresolved = (.error .unavailable, d') := by
  obtain ⟨J', hmark, hheld⟩ : ∃ J', J.call (.markProviderEffectStarted draft) .completed =
      (.ok ⟨draft, none, [], true⟩, J') ∧ J'.Holds slotHash ⟨draft, none, [], true⟩ :=
    hv.call_update (Update.started (v := .fresh draft) rfl rfl) hentry
  -- the record changes, so the call writes
  obtain ⟨write, written, hplan⟩ : ∃ write written,
      (JournalCall.markProviderEffectStarted draft).plan J.view =
        .ok ⟨some write, written⟩ := by
    cases hplan : (JournalCall.markProviderEffectStarted draft).plan J.view with
    | error e =>
      rw [Journal.call, hplan] at hmark
      cases congrArg Prod.fst hmark
    | ok plan =>
      obtain ⟨_ | write, written⟩ := plan
      · rw [Journal.call, hplan] at hmark
        obtain rfl : J = J' := congrArg Prod.snd hmark
        cases hv.unique hheld
      · exact ⟨write, written, rfl⟩
  refine ⟨(h.call_completed hS _).1.trans (congrArg Prod.fst hmark), _, rfl, ?_⟩
  rcases h.cutOff hS hplan ⟨3, []⟩ with ⟨hsafe, -⟩ | ⟨-, hopen⟩
  · cases JournalCall.planOf hS hplan with
    | change => exact absurd (by simp [JournalWrite.Strands, JournalWrite.steps]) hsafe
  · refine ⟨call_of_openStore hopen, ?_⟩
    rw [listUnresolved, hopen]

end

/-! ## 8. A crash to evaluate the model with -/

section

attribute [local instance] acceptingCurves tailEchoCrypto constantWallet

open ReleaseSample

def sampleDisk : Disk := empty.after [.persistBeforeProviderEffect sampleDraft]

theorem sampleDisk_run : Transition.run step empty
    [(.persistBeforeProviderEffect sampleDraft, none)] = some sampleDisk := by
  rw [sampleDisk, after, List.foldl_cons, List.foldl_nil]
  exact Transition.run_cons_eq_some.mpr ⟨_, rfl, rfl⟩

theorem sampleDisk_guarded :
    Transition.Guarded step Recoverable empty [(.persistBeforeProviderEffect sampleDraft, none)] :=
  ⟨fun _ _ _ hcut => (nomatch hcut), fun _ _ => trivial⟩

theorem crash_recovery_iff_sample :
    ∃ J : Journal, J.Reachable ∧ sampleDisk.Serves J ∧ ∀ call write cut,
      sampleDisk.Writes call write →
        ((∃ J' : Journal, (J' = J ∨ J' = J.apply write) ∧
          Serves (sampleDisk.call call (some cut)).2 J') ↔ ¬write.Strands cut) :=
  crash_recovery_iff sampleDisk_run sampleDisk_guarded

theorem answered_survives_sample :
    ∃ operationHash v unresolved, sampleDraft.operationHash = .ok operationHash ∧
      (sampleDisk.call (.load operationHash) none).1 = .ok v ∧ Grows (.fresh sampleDraft) v ∧
      sampleDisk.listUnresolved.1 = .ok unresolved ∧
        (v ∈ unresolved ↔ v.terminalResult = none) := by
  obtain ⟨entry, hentry⟩ := sampleDraft_entry false
  obtain ⟨J, hcall, -⟩ := Journal.call_persist_new (J := (∅ : Journal)) hentry
    (AList.lookup_empty _) (Nat.succ_pos 4095)
  have hanswer := (empty_recovers.call_completed Journal.sound_empty
    (.persistBeforeProviderEffect sampleDraft)).1
  rw [hcall] at hanswer
  have hdisk : (empty.call (.persistBeforeProviderEffect sampleDraft) none).2 = sampleDisk := by
    rw [sampleDisk, after, List.foldl_cons, List.foldl_nil]
  refine @answered_survives _ _ [] [] empty sampleDisk (.persistBeforeProviderEffect sampleDraft)
    (.fresh sampleDraft) sampleDisk_guarded rfl hanswer ?_
  rw [hdisk, Transition.run_nil]

/-- The crash, at the sample. -/
theorem interrupted_mark_strands :
    (sampleDisk.call (.markProviderEffectStarted sampleDraft) none).1 =
        .ok ⟨sampleDraft, none, [], true⟩ ∧
      ∃ d, (sampleDisk.call (.markProviderEffectStarted sampleDraft) (some ⟨3, []⟩)).2 = d ∧
        (∀ call cut, d.call call cut = (.error .unavailable, d)) ∧
          d.listUnresolved = (.error .unavailable, d) := by
  obtain ⟨_, _, bytes, hbytes, _⟩ := signed_encodes sample_ok
  have hmade : ∀ b, ∃ entry, StoreEntry.fromDraft sampleDraft none b [] = .ok entry := fun b =>
    ⟨_, StoreEntry.fromDraft_eq_ok.mpr ⟨bytes, hbytes, rfl⟩⟩
  obtain ⟨entry, hentry⟩ := hmade false
  obtain ⟨entry', hentry'⟩ := hmade true
  have hfresh : (PersistedRuntimeReleaseOperation.fresh sampleDraft).toEntry = .ok entry :=
    PersistedRuntimeReleaseOperation.toEntry_eq_ok.mpr ⟨none, rfl, [], rfl, hentry⟩
  obtain ⟨J, hcall, hheld⟩ := Journal.call_persist_new (J := (∅ : Journal)) hfresh
    (AList.lookup_empty _) (Nat.succ_pos 4095)
  obtain ⟨hrecovers, hS⟩ := empty_recovers.after Journal.sound_empty
    [.persistBeforeProviderEffect sampleDraft]
  rw [journalAfter, List.foldl_cons, List.foldl_nil, hcall] at hrecovers hS
  exact Recovers.mark_strands hrecovers hS hheld
    (PersistedRuntimeReleaseOperation.toEntry_eq_ok.mpr ⟨none, rfl, [], rfl, hentry'⟩)

end

end Disk

end ElastosRuntime.ReleaseJournal
