/-
# The operations of the release journal

Each public function of `RuntimeReleaseJournal` takes the lock, removes what an interrupted writer
left behind, looks at the directory and writes at most one file.  What it decides depends on what it
sees (`JournalView`) and nothing else, so it is a function from a view to a `Plan`: the record it
returns and the file it writes, if any.  How the file reaches the directory, and what a crash makes
of it, is settled in `Files`; here a write is atomic, and may be lost or go unconfirmed.

`Holds J slot v` says that the file of a slot spells the record `v`.  The rules for the operations
are stated about it, and `Step` is all of what one call can do to a record.
-/
import ElastosRuntime.Journal.Entry
import ElastosRuntime.Lib.Table
import ElastosRuntime.Lib.Transition

namespace ElastosRuntime.ReleaseJournal

open Codec Contracts

variable [Curves] [Crypto]

/-! ## 1. What an operation decides -/

/-- What the journal's directory looks like to an operation that holds the lock. -/
structure JournalView where
  names : List Digest32
  read : Digest32 → Except RuntimeReleaseJournalError (List UInt8)
  recordCount : Except RuntimeReleaseJournalError Nat

/-- A file to write. -/
inductive JournalWrite where
  | newEntry (slotHash : Digest32) (bytes : List UInt8)
  | replaceEntry (slotHash : Digest32) (bytes : List UInt8)

namespace JournalWrite

def slotHash : JournalWrite → Digest32
  | newEntry slotHash _ => slotHash
  | replaceEntry slotHash _ => slotHash

def bytes : JournalWrite → List UInt8
  | newEntry _ bytes => bytes
  | replaceEntry _ bytes => bytes

end JournalWrite

/-- What an operation writes, and the entry it then returns. -/
structure Plan where
  write : Option JournalWrite
  entry : StoreEntry

namespace JournalView

variable (view : JournalView)

/-- `read_entry_from_path_for_slot_with_link_count` -/
def readEntryForSlot (slotHash : Digest32) : Except RuntimeReleaseJournalError StoreEntry := do
  let bytes ← view.read slotHash
  decodeEntryForSlot bytes slotHash

/-- `read_entry_from_path` -/
def readEntry (slotHash operationHash : Digest32) :
    Except RuntimeReleaseJournalError StoreEntry := do
  let entry ← view.readEntryForSlot slotHash
  failIf (entry.operationHash ≠ operationHash) RuntimeReleaseJournalError.corrupt
  pure entry

def writeOrReplay (entry : StoreEntry) : Except RuntimeReleaseJournalError Plan :=
  match view.read entry.slotHash with
  | .error .notFound => do
    let recordCount ← view.recordCount
    failIf (MAX_RUNTIME_RELEASE_RECORDS ≤ recordCount) RuntimeReleaseJournalError.capacityExceeded
    let bytes ← encodeEntry entry
    pure ⟨some (.newEntry entry.slotHash bytes), entry⟩
  | _ => do
    let existing ← view.readEntry entry.slotHash entry.operationHash
    -- the replayable decisions stay the ones of the new entry
    let expected := { entry with
      terminalBytes := existing.terminalBytes, effectStarted := existing.effectStarted }
    failIf (existing ≠ expected) RuntimeReleaseJournalError.conflict
    pure ⟨none, existing⟩

def persistBeforeProviderEffect (draft : RuntimeReleaseOperationDraft) :
    Except RuntimeReleaseJournalError Plan := do
  let entry ← StoreEntry.fromDraft draft none false []
  view.writeOrReplay entry

/-- The entry of a draft, which must be the one the draft makes: how three of the operations
start. -/
def existingFor (draft : RuntimeReleaseOperationDraft) :
    Except RuntimeReleaseJournalError StoreEntry := do
  let operationHash ← draft.operationHash
  let existing ← view.readEntry (slotHashFor operationHash) operationHash
  let expected ← StoreEntry.fromDraft draft existing.terminalBytes existing.effectStarted
    existing.replayableRightsBytes
  failIf (existing ≠ expected) RuntimeReleaseJournalError.conflict
  pure existing

/-- `encode_entry` and `write_replace_entry` -/
def replaceWith (entry : StoreEntry) : Except RuntimeReleaseJournalError Plan := do
  let bytes ← encodeEntry entry
  pure ⟨some (.replaceEntry entry.slotHash bytes), entry⟩

def markProviderEffectStarted (draft : RuntimeReleaseOperationDraft) :
    Except RuntimeReleaseJournalError Plan := do
  let existing ← view.existingFor draft
  if existing.effectStarted ∨ existing.terminalBytes.isSome then
    pure ⟨none, existing⟩
  else
    let started ← StoreEntry.fromDraft draft none true existing.replayableRightsBytes
    replaceWith started

def persistReplayableRightsDecisions (draft : RuntimeReleaseOperationDraft)
    (replayableRightsDecisions : List SignedNodeRightsDecisionV1) :
    Except RuntimeReleaseJournalError Plan := do
  let existing ← view.existingFor draft
  if existing.terminalBytes.isSome then
    pure ⟨none, existing⟩
  else
    failIf (¬existing.effectStarted) RuntimeReleaseJournalError.conflict
    let decisions ← decodeReplayableRightsDecisions existing.replayableRightsBytes
    let merged ← mergeReplayableRightsDecisions decisions replayableRightsDecisions
    let mergedBytes ← encodeReplayableRightsDecisions merged
    let updated ← StoreEntry.fromDraft draft none true mergedBytes
    if updated = existing then
      pure ⟨none, existing⟩
    else
      replaceWith updated

def markTerminal (draft : RuntimeReleaseOperationDraft)
    (terminalResult : RuntimeReleaseTerminalResult) :
    Except RuntimeReleaseJournalError Plan := do
  let existing ← view.existingFor draft
  if existing.terminalBytes.isSome then
    let encoded ← terminalResult.encode
    failIf (existing.terminalBytes ≠ some encoded) RuntimeReleaseJournalError.conflict
    pure ⟨none, existing⟩
  else
    let encoded ← terminalResult.encode
    let terminalEntry ← StoreEntry.fromDraft draft (some encoded) true []
    replaceWith terminalEntry

def load (operationHash : Digest32) : Except RuntimeReleaseJournalError Plan := do
  let entry ← view.readEntry (slotHashFor operationHash) operationHash
  pure ⟨none, entry⟩

def listUnresolved :
    Except RuntimeReleaseJournalError (List PersistedRuntimeReleaseOperation) := do
  let entries ← view.names.mapM view.readEntryForSlot
  let unresolved := sortByKey (·.operationHash.toList)
    (entries.filter fun entry => entry.terminalBytes.isNone)
  unresolved.mapM StoreEntry.intoPersisted

end JournalView

/-! ## 2. The journal -/

/-- The files of a journal that nobody is writing to. -/
abbrev Journal := Table Digest32 (List UInt8)

/-- What becomes of a call: the file system refuses it, it goes through, the file it writes is
lost, or the file is written but the call reports that it was not. -/
inductive Fate where
  | refused
  | completed
  | lost
  | unconfirmed

namespace Journal

variable (J : Journal)

def view : JournalView where
  names := J.keys
  read slotHash :=
    match J.lookup slotHash with
    | some bytes => .ok bytes
    | none => .error .notFound
  recordCount := .ok (Table.size J)

def apply (write : JournalWrite) : Journal := J.insert write.slotHash write.bytes

/-- Carry a plan out. -/
def perform (fate : Fate) (plan : Except RuntimeReleaseJournalError Plan) :
    Except RuntimeReleaseJournalError PersistedRuntimeReleaseOperation × Journal :=
  match fate, plan with
  | .refused, _ => (.error .unavailable, J)
  | _, .error e => (.error e, J)
  | _, .ok ⟨none, entry⟩ => (entry.intoPersisted, J)
  | .completed, .ok ⟨some write, entry⟩ => (entry.intoPersisted, J.apply write)
  | .lost, .ok ⟨some _, _⟩ => (.error .unavailable, J)
  | .unconfirmed, .ok ⟨some write, _⟩ => (.error .unavailable, J.apply write)

end Journal

/-- A call of the journal that can change it, or read one record. -/
inductive JournalCall where
  | persistBeforeProviderEffect (draft : RuntimeReleaseOperationDraft)
  | markProviderEffectStarted (draft : RuntimeReleaseOperationDraft)
  | persistReplayableRightsDecisions (draft : RuntimeReleaseOperationDraft)
      (decisions : List SignedNodeRightsDecisionV1)
  | markTerminal (draft : RuntimeReleaseOperationDraft)
      (terminalResult : RuntimeReleaseTerminalResult)
  | load (operationHash : Digest32)

def JournalCall.plan (view : JournalView) :
    JournalCall → Except RuntimeReleaseJournalError Plan
  | persistBeforeProviderEffect draft => view.persistBeforeProviderEffect draft
  | markProviderEffectStarted draft => view.markProviderEffectStarted draft
  | persistReplayableRightsDecisions draft decisions =>
    view.persistReplayableRightsDecisions draft decisions
  | markTerminal draft terminalResult => view.markTerminal draft terminalResult
  | load operationHash => view.load operationHash

namespace Journal

def call (J : Journal) (call : JournalCall) (fate : Fate) :
    Except RuntimeReleaseJournalError PersistedRuntimeReleaseOperation × Journal :=
  J.perform fate (call.plan J.view)

def step (J : Journal) (label : JournalCall × Fate) : Option Journal :=
  some (J.call label.1 label.2).2

end Journal

/-! ## 3. Records that a journal holds -/

namespace StoreEntry

/-- Two drafts that make one entry are one draft. -/
theorem fromDraft_injective {d d' : RuntimeReleaseOperationDraft} {t t' : Option (List UInt8)}
    {b b' : Bool} {r r' : List UInt8} {entry : StoreEntry} (h : fromDraft d t b r = .ok entry)
    (h' : fromDraft d' t' b' r' = .ok entry) : d = d' ∧ t = t' ∧ b = b' ∧ r = r' := by
  obtain ⟨bytes, hbytes, rfl⟩ := fromDraft_eq_ok.mp h
  obtain ⟨bytes', hbytes', heq⟩ := fromDraft_eq_ok.mp h'
  simp only [StoreEntry.mk.injEq] at heq
  obtain ⟨_, _, _, _, hrequest, hresponse, rfl, rfl, rfl, rfl⟩ := heq
  have hread := fromCanonicalBytes_of_canonicalBytes hbytes
  have hread' := fromCanonicalBytes_of_canonicalBytes hbytes'
  have hsigned := Except.ok.inj (hread.symm.trans hread')
  obtain ⟨signed, request, response, _⟩ := d
  obtain ⟨signed', request', response', _⟩ := d'
  obtain rfl : signed = signed' := hsigned
  obtain rfl : request' = request := hrequest
  obtain rfl : response' = response := hresponse
  exact ⟨rfl, rfl, rfl, rfl⟩

end StoreEntry

namespace PersistedRuntimeReleaseOperation

/-- What an operation starts as. -/
def fresh (draft : RuntimeReleaseOperationDraft) : PersistedRuntimeReleaseOperation :=
  ⟨draft, none, [], false⟩

variable {v : PersistedRuntimeReleaseOperation} {entry : StoreEntry}

theorem toEntry_eq_ok : v.toEntry = .ok entry ↔
    ∃ terminalBytes, v.terminalResult.mapM RuntimeReleaseTerminalResult.encode =
        .ok terminalBytes ∧
      ∃ rightsBytes, encodeReplayableRightsDecisions v.replayableRightsDecisions =
          .ok rightsBytes ∧
        StoreEntry.fromDraft v.draft terminalBytes v.providerEffectStarted rightsBytes =
          .ok entry := by
  simp only [toEntry, bind_eq_ok]

/-- An entry made from its own draft is the entry of a record. -/
theorem fromDraft_toEntry (h : v.toEntry = .ok entry) :
    StoreEntry.fromDraft v.draft entry.terminalBytes entry.effectStarted
      entry.replayableRightsBytes = .ok entry := by
  obtain ⟨terminalBytes, _, rightsBytes, _, h⟩ := toEntry_eq_ok.mp h
  obtain ⟨_, _, rfl⟩ := StoreEntry.fromDraft_eq_ok.mp h
  exact h

theorem operationHash_toEntry (h : v.toEntry = .ok entry) :
    v.draft.operationHash = .ok entry.operationHash := by
  obtain ⟨_, _, _, _, h⟩ := toEntry_eq_ok.mp h
  exact (bind_eq_ok.mp h).elim fun hash h => by
    obtain ⟨hhash, h⟩ := h
    obtain ⟨_, _, h⟩ := bind_eq_ok.mp h
    cases h
    exact hhash

/-- The three fields of an entry that change tell what has become of the record. -/
theorem terminalBytes_toEntry (h : v.toEntry = .ok entry) :
    entry.terminalBytes.isSome = v.terminalResult.isSome := by
  obtain ⟨terminalBytes, hterminal, _, _, h⟩ := toEntry_eq_ok.mp h
  obtain ⟨_, _, rfl⟩ := StoreEntry.fromDraft_eq_ok.mp h
  change terminalBytes.isSome = _
  cases hr : v.terminalResult with
  | none =>
    rw [hr] at hterminal
    cases hterminal
    rfl
  | some result =>
    rw [hr] at hterminal
    obtain ⟨_, _, hterminal⟩ := bind_eq_ok.mp hterminal
    cases hterminal
    rfl

theorem effectStarted_toEntry (h : v.toEntry = .ok entry) :
    entry.effectStarted = v.providerEffectStarted := by
  obtain ⟨_, _, _, _, h⟩ := toEntry_eq_ok.mp h
  obtain ⟨_, _, rfl⟩ := StoreEntry.fromDraft_eq_ok.mp h
  rfl

theorem replayableRightsBytes_toEntry (h : v.toEntry = .ok entry) :
    encodeReplayableRightsDecisions v.replayableRightsDecisions =
      .ok entry.replayableRightsBytes := by
  obtain ⟨_, _, _, hrights, h⟩ := toEntry_eq_ok.mp h
  obtain ⟨_, _, rfl⟩ := StoreEntry.fromDraft_eq_ok.mp h
  exact hrights

end PersistedRuntimeReleaseOperation

namespace Journal

variable {J : Journal} {slot : Digest32} {v w : PersistedRuntimeReleaseOperation}

/-- **The file of a slot spells a record.** -/
def Holds (J : Journal) (slot : Digest32) (v : PersistedRuntimeReleaseOperation) : Prop :=
  ∃ entry bytes, v.toEntry = .ok entry ∧ entry.slotHash = slot ∧ encodeEntry entry = .ok bytes ∧
    J.lookup slot = some bytes

/-- Every file spells a record. -/
def Sound (J : Journal) : Prop := ∀ slot bytes, J.lookup slot = some bytes → ∃ v, J.Holds slot v

/-- What is read from the slot of a record. -/
theorem Holds.readEntryForSlot (h : J.Holds slot v) :
    ∃ entry, v.toEntry = .ok entry ∧ entry.slotHash = slot ∧
      J.view.readEntryForSlot slot = .ok entry := by
  obtain ⟨entry, bytes, hentry, rfl, hbytes, hlookup⟩ := h
  have hread : J.view.read entry.slotHash = .ok bytes := by
    simp only [view, hlookup]
  exact ⟨entry, hentry, rfl, bind_eq_ok.mpr ⟨bytes, hread, decodeEntryForSlot_encodeEntry hbytes
    (PersistedRuntimeReleaseOperation.toEntry_slotHash hentry)
    (PersistedRuntimeReleaseOperation.toEntry_terminalBytes hentry)⟩⟩

/-- A slot holds one record. -/
theorem Holds.unique (h : J.Holds slot v) (h' : J.Holds slot w) : v = w := by
  obtain ⟨entry, hentry, _, hread⟩ := h.readEntryForSlot
  obtain ⟨entry', hentry', _, hread'⟩ := h'.readEntryForSlot
  obtain rfl : entry = entry' := Except.ok.inj (hread.symm.trans hread')
  have hv := PersistedRuntimeReleaseOperation.intoPersisted_toEntry hentry
  exact Except.ok.inj (hv.symm.trans
    (PersistedRuntimeReleaseOperation.intoPersisted_toEntry hentry'))

/-- A record's slot depends on its operation only. -/
theorem Holds.slot_eq {J' : Journal} {slot' : Digest32} (hv : J.Holds slot v) (hw : J'.Holds slot' w)
    (h : v.draft.operationHash = w.draft.operationHash) : slot = slot' := by
  obtain ⟨entry, _, hentry, rfl, _⟩ := hv
  obtain ⟨entry', _, hentry', rfl, _⟩ := hw
  have hhash := PersistedRuntimeReleaseOperation.operationHash_toEntry hentry
  have hhash' := PersistedRuntimeReleaseOperation.operationHash_toEntry hentry'
  rw [← PersistedRuntimeReleaseOperation.toEntry_slotHash hentry,
    ← PersistedRuntimeReleaseOperation.toEntry_slotHash hentry',
    Except.ok.inj (hhash.symm.trans (h.trans hhash'))]

variable {entry : StoreEntry}

theorem Holds.readEntry (h : J.Holds slot v) (hentry : v.toEntry = .ok entry) :
    entry.slotHash = slot ∧ J.view.readEntry slot entry.operationHash = .ok entry := by
  obtain ⟨entry', hentry', hslot, hread⟩ := h.readEntryForSlot
  obtain rfl : entry = entry' := Except.ok.inj (hentry.symm.trans hentry')
  exact ⟨hslot, bind_eq_ok.mpr ⟨entry, hread, bind_eq_ok.mpr
    ⟨(), failIf_eq_ok.mpr (not_not.mpr rfl), rfl⟩⟩⟩

/-- Whatever is read from a sound journal is the entry of a record. -/
theorem Sound.holds_of_readEntry (hS : J.Sound) {operationHash : Digest32}
    (h : J.view.readEntry slot operationHash = .ok entry) :
    entry.operationHash = operationHash ∧
      ∃ v, J.Holds slot v ∧ v.toEntry = .ok entry ∧ entry.slotHash = slot := by
  obtain ⟨read, hread, h⟩ := bind_eq_ok.mp h
  obtain ⟨⟨⟩, hhash, h⟩ := bind_eq_ok.mp h
  cases h
  obtain ⟨bytes, hbytes, _⟩ := bind_eq_ok.mp hread
  obtain ⟨v, hv⟩ := hS slot bytes (by
    simp only [view] at hbytes
    split at hbytes
    · next hlookup =>
      cases hbytes
      exact hlookup
    · exact nomatch hbytes)
  obtain ⟨entry', hentry', hslot, hread'⟩ := hv.readEntryForSlot
  obtain rfl : entry = entry' := Except.ok.inj (hread.symm.trans hread')
  exact ⟨not_not.mp (failIf_eq_ok.mp hhash), v, hv, hentry', hslot⟩

/-- Three operations start by finding the record of their draft ... -/
theorem Holds.existingFor (h : J.Holds slot v) (hentry : v.toEntry = .ok entry) :
    J.view.existingFor v.draft = .ok entry := by
  obtain ⟨rfl, hread⟩ := h.readEntry hentry
  have hslot := PersistedRuntimeReleaseOperation.toEntry_slotHash hentry
  refine bind_eq_ok.mpr ⟨_, PersistedRuntimeReleaseOperation.operationHash_toEntry hentry, ?_⟩
  rw [hslot]
  exact bind_eq_ok.mpr ⟨entry, hread, bind_eq_ok.mpr
    ⟨entry, PersistedRuntimeReleaseOperation.fromDraft_toEntry hentry, bind_eq_ok.mpr
      ⟨(), failIf_eq_ok.mpr (not_not.mpr rfl), rfl⟩⟩⟩

/-- ... and go no further when there is none. -/
theorem Sound.holds_of_existingFor (hS : J.Sound) {draft : RuntimeReleaseOperationDraft}
    (h : J.view.existingFor draft = .ok entry) :
    ∃ v, J.Holds entry.slotHash v ∧ v.toEntry = .ok entry ∧ v.draft = draft := by
  obtain ⟨operationHash, _, h⟩ := bind_eq_ok.mp h
  obtain ⟨existing, hread, h⟩ := bind_eq_ok.mp h
  obtain ⟨expected, hexpected, h⟩ := bind_eq_ok.mp h
  obtain ⟨⟨⟩, hsame, h⟩ := bind_eq_ok.mp h
  cases h
  obtain rfl : entry = expected := not_not.mp (failIf_eq_ok.mp hsame)
  obtain ⟨_, v, hv, hentry, hslot⟩ := hS.holds_of_readEntry hread
  refine ⟨v, hslot ▸ hv, hentry, ?_⟩
  exact (StoreEntry.fromDraft_injective
    (PersistedRuntimeReleaseOperation.fromDraft_toEntry hentry) hexpected).1

end Journal

/-! ## 4. All a call can do -/

/-- How a call changes the record it finds. -/
inductive Update : JournalCall → PersistedRuntimeReleaseOperation →
    PersistedRuntimeReleaseOperation → Prop
  | started {v : PersistedRuntimeReleaseOperation} (hopen : v.terminalResult = none)
      (hstarted : v.providerEffectStarted = false) :
      Update (.markProviderEffectStarted v.draft) v ⟨v.draft, none, v.replayableRightsDecisions,
        true⟩
  | decided {v : PersistedRuntimeReleaseOperation}
      {decisions merged : List SignedNodeRightsDecisionV1} (hopen : v.terminalResult = none)
      (hstarted : v.providerEffectStarted = true)
      (hmerged : mergeReplayableRightsDecisions v.replayableRightsDecisions decisions =
        .ok merged) :
      Update (.persistReplayableRightsDecisions v.draft decisions) v ⟨v.draft, none, merged, true⟩
  | ended {v : PersistedRuntimeReleaseOperation} {terminalResult : RuntimeReleaseTerminalResult}
      (hopen : v.terminalResult = none) :
      Update (.markTerminal v.draft terminalResult) v ⟨v.draft, some terminalResult, [], true⟩

/-- Where the plan of a call comes from. -/
inductive PlanOf (J : Journal) : JournalCall → Plan → Prop
  /-- It returns the record that is there. -/
  | replay {call : JournalCall} {v : PersistedRuntimeReleaseOperation} {entry : StoreEntry}
      (hv : J.Holds entry.slotHash v) (hentry : v.toEntry = .ok entry) : PlanOf J call ⟨none, entry⟩
  /-- It starts a record. -/
  | create {draft : RuntimeReleaseOperationDraft} {entry : StoreEntry} {bytes : List UInt8}
      (hnew : J.lookup entry.slotHash = none)
      (hentry : (PersistedRuntimeReleaseOperation.fresh draft).toEntry = .ok entry)
      (hbytes : encodeEntry entry = .ok bytes) :
      PlanOf J (.persistBeforeProviderEffect draft) ⟨some (.newEntry entry.slotHash bytes), entry⟩
  /-- It changes a record. -/
  | change {call : JournalCall} {v v' : PersistedRuntimeReleaseOperation} {entry : StoreEntry}
      {bytes : List UInt8} (hv : J.Holds entry.slotHash v) (hupdate : Update call v v')
      (hentry : v'.toEntry = .ok entry) (hbytes : encodeEntry entry = .ok bytes) :
      PlanOf J call ⟨some (.replaceEntry entry.slotHash bytes), entry⟩

namespace JournalView

variable {J : Journal}

omit [Curves] [Crypto] in
theorem lookup_of_read {slot : Digest32} (h : J.view.read slot = .error .notFound) :
    J.lookup slot = none := by
  simp only [Journal.view] at h
  split at h
  · exact nomatch h
  · next hlookup => exact hlookup

variable {plan : Plan}

/-- The record a call replaces stays in its slot, as its draft does not change. -/
theorem planOf_replaceWith {call : JournalCall} {v v' : PersistedRuntimeReleaseOperation}
    {existing entry : StoreEntry} (hv : J.Holds existing.slotHash v)
    (hexisting : v.toEntry = .ok existing) (hupdate : Update call v v')
    (hdraft : v'.draft = v.draft) (hentry : v'.toEntry = .ok entry)
    (h : replaceWith entry = .ok plan) : PlanOf J call plan := by
  obtain ⟨bytes, hbytes, h⟩ := bind_eq_ok.mp h
  cases h
  have hhash := PersistedRuntimeReleaseOperation.operationHash_toEntry hexisting
  have hhash' := PersistedRuntimeReleaseOperation.operationHash_toEntry hentry
  rw [hdraft, hhash, Except.ok.injEq] at hhash'
  have hslot : existing.slotHash = entry.slotHash := by
    rw [← PersistedRuntimeReleaseOperation.toEntry_slotHash hexisting,
      ← PersistedRuntimeReleaseOperation.toEntry_slotHash hentry, hhash']
  exact .change (hslot ▸ hv) hupdate hentry hbytes

variable {draft : RuntimeReleaseOperationDraft}

theorem planOf_persistBeforeProviderEffect (hS : J.Sound)
    (h : J.view.persistBeforeProviderEffect draft = .ok plan) :
    PlanOf J (.persistBeforeProviderEffect draft) plan := by
  obtain ⟨entry, hentry, h⟩ := bind_eq_ok.mp h
  unfold writeOrReplay at h
  split at h
  · next hread =>
    obtain ⟨_, _, h⟩ := bind_eq_ok.mp h
    obtain ⟨⟨⟩, _, h⟩ := bind_eq_ok.mp h
    obtain ⟨bytes, hbytes, h⟩ := bind_eq_ok.mp h
    cases h
    exact .create (lookup_of_read hread)
      (PersistedRuntimeReleaseOperation.toEntry_eq_ok.mpr ⟨none, rfl, [], rfl, hentry⟩) hbytes
  · obtain ⟨existing, hread, h⟩ := bind_eq_ok.mp h
    obtain ⟨⟨⟩, _, h⟩ := bind_eq_ok.mp h
    cases h
    obtain ⟨_, v, hv, hexisting, hslot⟩ := hS.holds_of_readEntry hread
    exact .replay (hslot ▸ hv) hexisting

theorem planOf_markProviderEffectStarted (hS : J.Sound)
    (h : J.view.markProviderEffectStarted draft = .ok plan) :
    PlanOf J (.markProviderEffectStarted draft) plan := by
  obtain ⟨existing, hexisting, h⟩ := bind_eq_ok.mp h
  obtain ⟨v, hv, hentry, rfl⟩ := hS.holds_of_existingFor hexisting
  split at h
  · cases h
    exact .replay hv hentry
  · next hopen =>
    obtain ⟨started, hstarted, h⟩ := bind_eq_ok.mp h
    rw [not_or, PersistedRuntimeReleaseOperation.effectStarted_toEntry hentry,
      PersistedRuntimeReleaseOperation.terminalBytes_toEntry hentry] at hopen
    have hrights := PersistedRuntimeReleaseOperation.replayableRightsBytes_toEntry hentry
    refine planOf_replaceWith hv hentry (.started ?_ (Bool.eq_false_of_not_eq_true hopen.1)) rfl
      (PersistedRuntimeReleaseOperation.toEntry_eq_ok.mpr ⟨none, rfl, _, hrights, hstarted⟩) h
    exact Option.not_isSome_iff_eq_none.mp hopen.2

theorem planOf_persistReplayableRightsDecisions (hS : J.Sound)
    {decisions : List SignedNodeRightsDecisionV1}
    (h : J.view.persistReplayableRightsDecisions draft decisions = .ok plan) :
    PlanOf J (.persistReplayableRightsDecisions draft decisions) plan := by
  obtain ⟨existing, hexisting, h⟩ := bind_eq_ok.mp h
  obtain ⟨v, hv, hentry, rfl⟩ := hS.holds_of_existingFor hexisting
  split at h
  · cases h
    exact .replay hv hentry
  · next hopen =>
    obtain ⟨⟨⟩, hstarted, h⟩ := bind_eq_ok.mp h
    obtain ⟨stored, hstored, h⟩ := bind_eq_ok.mp h
    obtain ⟨merged, hmerged, h⟩ := bind_eq_ok.mp h
    obtain ⟨mergedBytes, hbytes, h⟩ := bind_eq_ok.mp h
    obtain ⟨updated, hupdated, hwrite⟩ := bind_eq_ok.mp h
    rw [PersistedRuntimeReleaseOperation.terminalBytes_toEntry hentry] at hopen
    rw [failIf_eq_ok, not_not,
      PersistedRuntimeReleaseOperation.effectStarted_toEntry hentry] at hstarted
    rw [decode_encodeReplayableRightsDecisions
      (PersistedRuntimeReleaseOperation.replayableRightsBytes_toEntry hentry),
      Except.ok.injEq] at hstored
    subst hstored
    split at hwrite
    · cases hwrite
      exact .replay hv hentry
    · exact planOf_replaceWith hv hentry
        (.decided (Option.not_isSome_iff_eq_none.mp hopen) hstarted hmerged) rfl
        (PersistedRuntimeReleaseOperation.toEntry_eq_ok.mpr ⟨none, rfl, _, hbytes, hupdated⟩) hwrite

theorem planOf_markTerminal (hS : J.Sound) {terminalResult : RuntimeReleaseTerminalResult}
    (h : J.view.markTerminal draft terminalResult = .ok plan) :
    PlanOf J (.markTerminal draft terminalResult) plan := by
  obtain ⟨existing, hexisting, h⟩ := bind_eq_ok.mp h
  obtain ⟨v, hv, hentry, rfl⟩ := hS.holds_of_existingFor hexisting
  split at h
  · obtain ⟨_, _, h⟩ := bind_eq_ok.mp h
    obtain ⟨⟨⟩, _, h⟩ := bind_eq_ok.mp h
    cases h
    exact .replay hv hentry
  · next hopen =>
    obtain ⟨encoded, hencoded, h⟩ := bind_eq_ok.mp h
    obtain ⟨terminalEntry, hterminal, h⟩ := bind_eq_ok.mp h
    rw [PersistedRuntimeReleaseOperation.terminalBytes_toEntry hentry] at hopen
    refine planOf_replaceWith hv hentry (.ended (Option.not_isSome_iff_eq_none.mp hopen)) rfl
      (PersistedRuntimeReleaseOperation.toEntry_eq_ok.mpr ⟨some encoded, ?_, [], rfl, hterminal⟩) h
    exact bind_eq_ok.mpr ⟨encoded, hencoded, rfl⟩

theorem planOf_load (hS : J.Sound) {operationHash : Digest32}
    (h : J.view.load operationHash = .ok plan) : PlanOf J (.load operationHash) plan := by
  obtain ⟨entry, hread, h⟩ := bind_eq_ok.mp h
  cases h
  obtain ⟨_, v, hv, hentry, hslot⟩ := hS.holds_of_readEntry hread
  exact .replay (hslot ▸ hv) hentry

end JournalView

/-- **All that a call of a sound journal plans.** -/
theorem JournalCall.planOf {J : Journal} (hS : J.Sound) {call : JournalCall} {plan : Plan}
    (h : call.plan J.view = .ok plan) : PlanOf J call plan := by
  cases call with
  | persistBeforeProviderEffect => exact JournalView.planOf_persistBeforeProviderEffect hS h
  | markProviderEffectStarted => exact JournalView.planOf_markProviderEffectStarted hS h
  | persistReplayableRightsDecisions =>
    exact JournalView.planOf_persistReplayableRightsDecisions hS h
  | markTerminal => exact JournalView.planOf_markTerminal hS h
  | load => exact JournalView.planOf_load hS h

/-! ## 5. What a call leaves behind -/

namespace Journal

variable {J : Journal} {call : JournalCall} {fate : Fate} {slot : Digest32}
  {v w : PersistedRuntimeReleaseOperation}

variable {entry : StoreEntry}

/-- What is written for a record is what its slot holds ... -/
theorem holds_insert {bytes : List UInt8} (hentry : v.toEntry = .ok entry)
    (hbytes : encodeEntry entry = .ok bytes) :
    Holds (J.insert entry.slotHash bytes) entry.slotHash v :=
  ⟨entry, bytes, hentry, rfl, hbytes, AList.lookup_insert J⟩

/-- ... and the other slots hold what they held. -/
theorem holds_insert_ne {slot' : Digest32} {bytes : List UInt8} (h : slot' ≠ slot) :
    Holds (J.insert slot bytes) slot' v ↔ J.Holds slot' v := by
  unfold Holds
  rw [AList.lookup_insert_ne h]

/-- Where the record of a slot comes from, after a call. -/
inductive Origin (J : Journal) (call : JournalCall) (slot : Digest32) :
    PersistedRuntimeReleaseOperation → Prop
  | kept {v : PersistedRuntimeReleaseOperation} (hv : J.Holds slot v) : Origin J call slot v
  | created {draft : RuntimeReleaseOperationDraft} (hnew : J.lookup slot = none)
      (hcall : call = .persistBeforeProviderEffect draft) :
      Origin J call slot (PersistedRuntimeReleaseOperation.fresh draft)
  | changed {v v' : PersistedRuntimeReleaseOperation} (hv : J.Holds slot v)
      (hupdate : Update call v v') : Origin J call slot v'

/-- How a call leaves a journal: as it was, or with one file written for its plan. -/
theorem call_cases (hS : J.Sound) :
    (J.call call fate).2 = J ∨ ∃ write entry v, PlanOf J call ⟨some write, entry⟩ ∧
      v.toEntry = .ok entry ∧ encodeEntry entry = .ok write.bytes ∧
        write.slotHash = entry.slotHash ∧ Origin J call entry.slotHash v ∧
          (J.call call fate).2 = J.insert entry.slotHash write.bytes := by
  cases hplan : call.plan J.view with
  | error e =>
    left
    rw [Journal.call, hplan]
    cases fate <;> rfl
  | ok plan =>
    have hplanOf := JournalCall.planOf hS hplan
    rw [Journal.call, hplan]
    obtain ⟨_ | write, entry⟩ := plan
    · left
      cases fate <;> rfl
    · have hwritten : ∃ v, v.toEntry = .ok entry ∧ encodeEntry entry = .ok write.bytes ∧
          write.slotHash = entry.slotHash ∧ Origin J call entry.slotHash v := by
        cases hplanOf with
        | create hnew hentry hbytes => exact ⟨_, hentry, hbytes, rfl, .created hnew rfl⟩
        | change hv hupdate hentry hbytes => exact ⟨_, hentry, hbytes, rfl, .changed hv hupdate⟩
      obtain ⟨v, hentry, hbytes, hslot, horigin⟩ := hwritten
      have happly : J.apply write = J.insert entry.slotHash write.bytes := by rw [apply, hslot]
      cases fate with
      | refused => exact .inl rfl
      | lost => exact .inl rfl
      | completed => exact .inr ⟨write, entry, v, hplanOf, hentry, hbytes, hslot, horigin, happly⟩
      | unconfirmed => exact .inr ⟨write, entry, v, hplanOf, hentry, hbytes, hslot, horigin, happly⟩

/-- **The step lemma**, backwards: what a journal holds after a call was there before, is new, or
was changed by the call. -/
theorem origin (hS : J.Sound) (h : (J.call call fate).2.Holds slot v) : Origin J call slot v := by
  rcases call_cases hS with hsame | ⟨write, entry, w, _, hentry, hbytes, _, horigin, hinsert⟩
  · rw [hsame] at h
    exact .kept h
  · rw [hinsert] at h
    by_cases hslot : slot = entry.slotHash
    · subst hslot
      obtain rfl : v = w := h.unique (holds_insert hentry hbytes)
      exact horigin
    · exact .kept ((holds_insert_ne hslot).mp h)

/-- Calls keep a journal sound. -/
theorem Sound.after (hS : J.Sound) : (J.call call fate).2.Sound := by
  rcases call_cases hS with hsame | ⟨write, entry, w, _, hentry, hbytes, _, _, hinsert⟩
  · rw [hsame]
    exact hS
  · rw [hinsert]
    intro slot bytes hlookup
    by_cases hslot : slot = entry.slotHash
    · subst hslot
      exact ⟨w, holds_insert hentry hbytes⟩
    · rw [AList.lookup_insert_ne hslot] at hlookup
      obtain ⟨v, hv⟩ := hS slot bytes hlookup
      exact ⟨v, (holds_insert_ne hslot).mpr hv⟩

/-- **The step lemma**, forwards: a record is still there after a call, unless the call changed
it. -/
theorem Holds.after (hS : J.Sound) (h : J.Holds slot v) :
    (J.call call fate).2.Holds slot v ∨
      ∃ v', Update call v v' ∧ (J.call call fate).2.Holds slot v' := by
  rcases call_cases hS with hsame | ⟨write, entry, w, _, hentry, hbytes, _, horigin, hinsert⟩
  · rw [hsame]
    exact .inl h
  · rw [hinsert]
    by_cases hslot : slot = entry.slotHash
    · subst hslot
      have hheld : Holds (J.insert entry.slotHash write.bytes) entry.slotHash w :=
        holds_insert hentry hbytes
      cases horigin with
      | kept hv =>
        obtain rfl := h.unique hv
        exact .inl hheld
      | created hnew =>
        obtain ⟨_, _, _, _, _, hlookup⟩ := h
        rw [hnew] at hlookup
        exact nomatch hlookup
      | changed hv hupdate =>
        obtain rfl := h.unique hv
        exact .inr ⟨w, hupdate, hheld⟩
    · exact .inl ((holds_insert_ne hslot).mpr h)

/-- A call that succeeds returns the record its slot then holds. -/
theorem holds_of_call_eq_ok (hS : J.Sound) (h : (J.call call fate).1 = .ok v) : ∃ slot, (J.call call fate).2.Holds slot v := by
  cases hplan : call.plan J.view with
  | error e =>
    rw [Journal.call, hplan] at h
    cases fate <;> exact nomatch h
  | ok plan =>
    have hplanOf := JournalCall.planOf hS hplan
    rw [Journal.call, hplan] at h ⊢
    cases hplanOf with
    | replay hw hentry =>
      have hread := PersistedRuntimeReleaseOperation.intoPersisted_toEntry hentry
      cases fate
      case refused => exact nomatch h
      all_goals
        obtain rfl := Except.ok.inj (hread.symm.trans h)
        exact ⟨_, hw⟩
    | @create _ entry _ _ hentry hbytes =>
      have hread := PersistedRuntimeReleaseOperation.intoPersisted_toEntry hentry
      cases fate
      case completed =>
        obtain rfl := Except.ok.inj (hread.symm.trans h)
        exact ⟨entry.slotHash, holds_insert hentry hbytes⟩
      all_goals exact nomatch h
    | @change _ _ _ entry _ _ _ hentry hbytes =>
      have hread := PersistedRuntimeReleaseOperation.intoPersisted_toEntry hentry
      cases fate
      case completed =>
        obtain rfl := Except.ok.inj (hread.symm.trans h)
        exact ⟨entry.slotHash, holds_insert hentry hbytes⟩
      all_goals exact nomatch h

/-- The journal before its first call. -/
theorem sound_empty : (∅ : Journal).Sound := fun _ _ h => nomatch h

/-- The states of a journal that only its own calls have changed. -/
abbrev Reachable (J : Journal) : Prop := Transition.Reachable step (· = (∅ : Journal)) J

theorem Reachable.sound (h : J.Reachable) : J.Sound :=
  Transition.Reachable.invariant (fun _ h => h ▸ sound_empty)
    (fun _ _ _ hS hstep => Option.some.inj hstep ▸ hS.after) h

/-! ## 6. Calls that go through -/

/-- A call that plans to write a record, completed. -/
theorem call_of_plan (write : JournalWrite) (hplan : call.plan J.view = .ok ⟨some write, entry⟩)
    (hentry : v.toEntry = .ok entry) (hbytes : encodeEntry entry = .ok write.bytes)
    (hslot : write.slotHash = entry.slotHash) :
    ∃ J', J.call call .completed = (.ok v, J') ∧ J'.Holds entry.slotHash v := by
  refine ⟨J.apply write, ?_, ?_⟩
  · rw [Journal.call, hplan]
    change (entry.intoPersisted, J.apply write) = _
    rw [PersistedRuntimeReleaseOperation.intoPersisted_toEntry hentry]
  · rw [apply, hslot]
    exact holds_insert hentry hbytes

/-- An operation the journal does not know gets a record, while there is room. -/
theorem call_persist_new {draft : RuntimeReleaseOperationDraft}
    (hentry : (PersistedRuntimeReleaseOperation.fresh draft).toEntry = .ok entry)
    (hnew : J.lookup entry.slotHash = none) (hroom : Table.size J < MAX_RUNTIME_RELEASE_RECORDS) :
    ∃ J', J.call (.persistBeforeProviderEffect draft) .completed =
        (.ok (.fresh draft), J') ∧ J'.Holds entry.slotHash (.fresh draft) := by
  obtain ⟨bytes, hbytes⟩ := encodeEntry_isOk (PersistedRuntimeReleaseOperation.toEntry_bounded hentry)
  obtain ⟨_, hterminal, _, hrights, hdraft⟩ :=
    PersistedRuntimeReleaseOperation.toEntry_eq_ok.mp hentry
  cases hterminal
  cases hrights
  have hread : J.view.read entry.slotHash = .error .notFound := by
    simp only [view, hnew]
  refine call_of_plan (.newEntry entry.slotHash bytes) ?_ hentry hbytes rfl
  refine bind_eq_ok.mpr ⟨entry, hdraft, ?_⟩
  rw [JournalView.writeOrReplay, hread]
  exact bind_eq_ok.mpr ⟨_, rfl, bind_eq_ok.mpr ⟨(), failIf_eq_ok.mpr (Nat.not_le.mpr hroom),
    bind_eq_ok.mpr ⟨bytes, hbytes, rfl⟩⟩⟩

/-- A change that is called for is made, as long as the changed record can be written. -/
theorem Holds.call_update {v' : PersistedRuntimeReleaseOperation} (h : J.Holds slot v)
    (hupdate : Update call v v') (hentry : v'.toEntry = .ok entry) :
    ∃ J', J.call call .completed = (.ok v', J') ∧ J'.Holds slot v' := by
  obtain ⟨existing, _, hexisting, rfl, _⟩ := id h
  obtain ⟨bytes, hbytes⟩ := encodeEntry_isOk (PersistedRuntimeReleaseOperation.toEntry_bounded hentry)
  have hfind := h.existingFor hexisting
  have hslot : entry.slotHash = existing.slotHash := by
    have hdraft : v'.draft = v.draft := by cases hupdate <;> rfl
    have hhash := PersistedRuntimeReleaseOperation.operationHash_toEntry hexisting
    have hhash' := PersistedRuntimeReleaseOperation.operationHash_toEntry hentry
    rw [hdraft, hhash, Except.ok.injEq] at hhash'
    rw [← PersistedRuntimeReleaseOperation.toEntry_slotHash hexisting,
      ← PersistedRuntimeReleaseOperation.toEntry_slotHash hentry, hhash']
  have hreplace : JournalView.replaceWith entry =
      .ok ⟨some (.replaceEntry entry.slotHash bytes), entry⟩ :=
    bind_eq_ok.mpr ⟨bytes, hbytes, rfl⟩
  obtain ⟨_, hterminal, _, hrights, hmade⟩ := PersistedRuntimeReleaseOperation.toEntry_eq_ok.mp hentry
  have hterm := PersistedRuntimeReleaseOperation.terminalBytes_toEntry hexisting
  have hstart := PersistedRuntimeReleaseOperation.effectStarted_toEntry hexisting
  have hstored := PersistedRuntimeReleaseOperation.replayableRightsBytes_toEntry hexisting
  cases hupdate with
  | started hopen hstarted =>
    rw [hopen] at hterm
    rw [hstarted] at hstart
    cases hterminal
    rw [hstored, Except.ok.injEq] at hrights
    subst hrights
    rw [← hslot]
    refine call_of_plan (.replaceEntry entry.slotHash bytes) ?_ hentry hbytes rfl
    refine bind_eq_ok.mpr ⟨existing, hfind, ?_⟩
    have hneither : ¬(existing.effectStarted = true ∨ existing.terminalBytes.isSome = true) := by
      rw [hterm, hstart]
      rintro (h | h) <;> exact nomatch h
    rw [if_neg hneither]
    exact bind_eq_ok.mpr ⟨entry, hmade, hreplace⟩
  | @decided _ decisions merged hopen hstarted hmerged =>
    rw [hopen] at hterm
    have hunsettled : ¬existing.terminalBytes.isSome = true := by
      rw [hterm]
      exact Bool.false_ne_true
    rw [hstarted] at hstart
    cases hterminal
    have hplan : ∀ plan, (if entry = existing then pure ⟨none, existing⟩ else
        JournalView.replaceWith entry) = .ok plan →
          (JournalCall.persistReplayableRightsDecisions v.draft decisions).plan J.view = .ok plan :=
      fun plan hplan => by
        refine bind_eq_ok.mpr ⟨existing, hfind, ?_⟩
        rw [if_neg hunsettled]
        exact bind_eq_ok.mpr ⟨(), failIf_eq_ok.mpr (not_not.mpr hstart), bind_eq_ok.mpr
          ⟨_, decode_encodeReplayableRightsDecisions hstored, bind_eq_ok.mpr ⟨_, hmerged,
            bind_eq_ok.mpr ⟨_, hrights, bind_eq_ok.mpr ⟨entry, hmade, hplan⟩⟩⟩⟩⟩
    by_cases hsame : entry = existing
    · subst hsame
      refine ⟨J, ?_, ?_⟩
      · rw [Journal.call, hplan _ (if_pos rfl)]
        change (entry.intoPersisted, J) = _
        rw [PersistedRuntimeReleaseOperation.intoPersisted_toEntry hentry]
      · have hv := PersistedRuntimeReleaseOperation.intoPersisted_toEntry hexisting
        rw [PersistedRuntimeReleaseOperation.intoPersisted_toEntry hentry, Except.ok.injEq] at hv
        rw [hv]
        exact h
    · rw [← hslot]
      refine call_of_plan (.replaceEntry entry.slotHash bytes) ?_ hentry hbytes rfl
      exact hplan _ (by rw [if_neg hsame, hreplace])
  | ended hopen =>
    have hunsettled : ¬existing.terminalBytes.isSome = true := by
      rw [hterm, hopen]
      exact Bool.false_ne_true
    cases hrights
    obtain ⟨encoded, hencoded, hterminal⟩ := bind_eq_ok.mp hterminal
    cases hterminal
    rw [← hslot]
    refine call_of_plan (.replaceEntry entry.slotHash bytes) ?_ hentry hbytes rfl
    refine bind_eq_ok.mpr ⟨existing, hfind, ?_⟩
    rw [if_neg hunsettled]
    exact bind_eq_ok.mpr ⟨encoded, hencoded, bind_eq_ok.mpr ⟨entry, hmade, hreplace⟩⟩

end Journal

end ElastosRuntime.ReleaseJournal
