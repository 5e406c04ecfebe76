/-
# The operations of the mint journal

Each public function of `RuntimeMintJournal` takes the lock, reads at most one record, and writes
at most that record, by renaming a complete file over it.  So it is an access of one of three
stores that keep their records one to a file (`RecordFiles`): it persists a record, or revises one.
What a revision does to the record it has read is a function of its own, under the name of the
operation: the record to write, `none` where there is nothing to write, or the error.

A draft, an intent, a receipt and an availability are only ever built by their constructors, and
carry what these have checked.  A creator state, an effect and a terminal are read from JSON by
whoever calls, and are arbitrary.
-/
import ElastosRuntime.Lib.RecordFiles
import ElastosRuntime.Mint.IntentWire

namespace ElastosRuntime.MintJournal

open Codec Contracts RecordFiles

variable [Curves]

/-! ## 1. Mint records -/

/-- Change the first node of that key (`iter_mut().find`). -/
def updateNode (nodePublicKey : NodePublicKey)
    (update : MintNodeState → Except RuntimeMintJournalError (Option MintNodeState)) :
    List MintNodeState → Except RuntimeMintJournalError (Option (List MintNodeState))
  | [] => .error .invalidSelection
  | node :: rest =>
    if node.binding.nodePublicKey = nodePublicKey then do
      let updated ← update node
      pure (updated.map (· :: rest))
    else do
      let updated ← updateNode nodePublicKey update rest
      pure (updated.map (node :: ·))

theorem updateNode_eq_some {nodePublicKey : NodePublicKey}
    {update : MintNodeState → Except RuntimeMintJournalError (Option MintNodeState)} :
    ∀ {nodes nodes' : List MintNodeState},
      updateNode nodePublicKey update nodes = .ok (some nodes') →
      ∃ before node after node', nodes = before ++ node :: after ∧
        nodes' = before ++ node' :: after ∧ node.binding.nodePublicKey = nodePublicKey ∧
        update node = .ok (some node')
  | [], _, h => by cases h
  | node :: rest, nodes', h => by
    rw [updateNode] at h
    split at h
    · next hkey =>
      obtain ⟨updated, hupdate, h⟩ := bind_eq_ok.mp h
      rw [pure_eq_ok, Option.map_eq_some_iff] at h
      obtain ⟨node', rfl, rfl⟩ := h
      exact ⟨[], node, rest, node', rfl, rfl, hkey, hupdate⟩
    · obtain ⟨updated, hupdate, h⟩ := bind_eq_ok.mp h
      rw [pure_eq_ok, Option.map_eq_some_iff] at h
      obtain ⟨rest', rfl, rfl⟩ := h
      obtain ⟨before, found, after, found', rfl, rfl, hkey, hfound⟩ := updateNode_eq_some hupdate
      exact ⟨node :: before, found, after, found', rfl, rfl, hkey, hfound⟩

section

variable [Crypto]

namespace PersistedRuntimeMint

/-- The record of a draft that has just been bound. -/
def bound (draft : RuntimeMintDraft) : PersistedRuntimeMint where
  draft := draft
  nodeStates := draft.nodes.map fun binding => ⟨binding, false, none⟩
  custodyTerminal := none
  contentAvailability := none
  creatorState := none

def markNodeEffectStarted (nodePublicKey : NodePublicKey) (record : PersistedRuntimeMint) :
    Except RuntimeMintJournalError (Option PersistedRuntimeMint) := do
  failIf record.custodyTerminal.isSome RuntimeMintJournalError.conflict
  let nodeStates ← updateNode nodePublicKey
    (fun node => .ok (some { node with effectStarted := true })) record.nodeStates
  pure (nodeStates.map fun nodeStates => { record with nodeStates })

/-- What a receipt does to its node. -/
def acceptReceipt (receipt : RuntimeMintNodeReceipt) (node : MintNodeState) :
    Except RuntimeMintJournalError (Option MintNodeState) := do
  failIf (¬node.effectStarted) RuntimeMintJournalError.conflict
  failIf (node.binding.ownerStateRoot ≠ receipt.ownerStateRoot) RuntimeMintJournalError.conflict
  match node.receipt with
  | some existing => do
    failIf (existing ≠ receipt) RuntimeMintJournalError.conflict
    pure none
  | none => pure (some { node with receipt := some receipt })

def markNodeReceipt (receipt : RuntimeMintNodeReceipt) (record : PersistedRuntimeMint) :
    Except RuntimeMintJournalError (Option PersistedRuntimeMint) := do
  failIf record.custodyTerminal.isSome RuntimeMintJournalError.conflict
  let nodeStates ← updateNode receipt.nodePublicKey (acceptReceipt receipt) record.nodeStates
  pure (nodeStates.map fun nodeStates => { record with nodeStates })

/-- How custody ends: once, and then only the same way again. -/
def endCustody (kind : RuntimeCustodyTerminalKind) (record : PersistedRuntimeMint) :
    Except RuntimeMintJournalError (Option PersistedRuntimeMint) :=
  match record.custodyTerminal with
  | some existing => do
    failIf (existing ≠ kind) RuntimeMintJournalError.conflict
    pure none
  | none => .ok (some { record with custodyTerminal := some kind })

def markCustodyProvisioned (record : PersistedRuntimeMint) :
    Except RuntimeMintJournalError (Option PersistedRuntimeMint) := do
  failIf (¬record.allReceiptsPresent) RuntimeMintJournalError.conflict
  record.endCustody .custodyProvisioned

def markAbortedPartialProvision (record : PersistedRuntimeMint) :
    Except RuntimeMintJournalError (Option PersistedRuntimeMint) :=
  record.endCustody .abortedPartialProvision

def markContentAvailable (requirement : RuntimeContentAvailabilityRequirement)
    (evidence : RuntimeVerifiedContentAvailability) (record : PersistedRuntimeMint) :
    Except RuntimeMintJournalError (Option PersistedRuntimeMint) := do
  failIf (record.custodyTerminal ≠ some .custodyProvisioned ∨
    ¬evidence.matchesRequirement requirement ∨
    ¬evidence.matchesDraft record.draft.toRuntimeMintDraftParts) RuntimeMintJournalError.conflict
  match record.contentAvailability with
  | some existing => do
    failIf (existing ≠ evidence) RuntimeMintJournalError.conflict
    pure none
  | none => pure (some { record with contentAvailability := some evidence })

def bindCreatorState (creatorState : RuntimeMintCreatorState) (record : PersistedRuntimeMint) :
    Except RuntimeMintJournalError (Option PersistedRuntimeMint) := do
  failIf (record.contentAvailability.isNone ∨ record.custodyTerminal ≠ some .custodyProvisioned)
    RuntimeMintJournalError.conflict
  match record.creatorState with
  | some existing => do
    failIf (existing ≠ creatorState) RuntimeMintJournalError.conflict
    pure none
  | none => pure (some { record with creatorState := some creatorState })

/-- How what has become of the creator state is recorded.  The record is written again also where
nothing has changed. -/
def updateCreatorState
    (update : RuntimeMintCreatorState → Except RuntimeMintJournalError RuntimeMintCreatorState)
    (record : PersistedRuntimeMint) :
    Except RuntimeMintJournalError (Option PersistedRuntimeMint) := do
  let creatorState ← okOr record.creatorState RuntimeMintJournalError.conflict
  let creatorState ← update creatorState
  pure (some { record with creatorState := some creatorState })

def bindCreatorEffect (effect : RuntimeMintCreatorEffectBinding) (record : PersistedRuntimeMint) :
    Except RuntimeMintJournalError (Option PersistedRuntimeMint) :=
  record.updateCreatorState (·.withEffect effect)

def bindCreatorOperatorApproval (effect : RuntimeMintCreatorEffectBinding)
    (record : PersistedRuntimeMint) :
    Except RuntimeMintJournalError (Option PersistedRuntimeMint) :=
  record.updateCreatorState (·.withOperatorApproval effect)

def markCreatorCompleted (terminal : RuntimeMintCreatorTerminalEvidence)
    (record : PersistedRuntimeMint) :
    Except RuntimeMintJournalError (Option PersistedRuntimeMint) :=
  record.updateCreatorState (·.withTerminal terminal)

end PersistedRuntimeMint

/-- A file that is too long is not decoded. -/
def readFile {α : Type} (decode : List UInt8 → Except RuntimeMintJournalError α)
    (bytes : List UInt8) : Except RuntimeMintJournalError α := do
  failIf (MAX_STORE_FILE_BYTES < bytes.length) RuntimeMintJournalError.corrupt
  decode bytes

omit [Curves] [Crypto] in
theorem readFile_eq_ok {α : Type} {decode : List UInt8 → Except RuntimeMintJournalError α}
    {bytes : List UInt8} {a : α} :
    readFile decode bytes = .ok a ↔ Fits bytes ∧ decode bytes = .ok a := by
  simp only [readFile, bind_eq_ok, failIf_eq_ok, Nat.not_lt, Fits]
  constructor
  · rintro ⟨_, h⟩
    exact h
  · intro h
    exact ⟨(), h⟩

/-- `read_record` and `write_replace` -/
def recordFormat [CreatorJson] : Format RuntimeMintJournalError Digest32 PersistedRuntimeMint where
  encode := encodeRecord
  decode := readFile decodeRecord
  key record := record.draft.mintId
  missing := .notFound
  misplaced := .corrupt
  unavailable := .unavailable

inductive RecordCall where
  | persistBound (draft : RuntimeMintDraft)
  | load (mintId : Digest32)
  | markNodeEffectStarted (mintId : Digest32) (nodePublicKey : NodePublicKey)
  | markNodeReceipt (mintId : Digest32) (receipt : RuntimeMintNodeReceipt)
      (valid : receipt.recordIdentity.validate = .ok ())
  | markCustodyProvisioned (mintId : Digest32)
  | markAbortedPartialProvision (mintId : Digest32)
  | markContentAvailable (mintId : Digest32) (requirement : RuntimeContentAvailabilityRequirement)
      (evidence : RuntimeVerifiedContentAvailability) (valid : evidence.validate = .ok ())
  | bindCreatorState (mintId : Digest32) (creatorState : RuntimeMintCreatorState)
  | bindCreatorEffect (mintId : Digest32) (effect : RuntimeMintCreatorEffectBinding)
  | bindCreatorOperatorApproval (mintId : Digest32) (effect : RuntimeMintCreatorEffectBinding)
  | markCreatorCompleted (mintId : Digest32) (terminal : RuntimeMintCreatorTerminalEvidence)

def RecordCall.access : RecordCall → Access RuntimeMintJournalError Digest32 PersistedRuntimeMint
  | persistBound draft =>
    .persist (.bound draft) (fun existing => decide (existing.draft = draft)) .conflict
  | load mintId => Format.reading mintId
  | markNodeEffectStarted mintId nodePublicKey =>
    .revise mintId (·.markNodeEffectStarted nodePublicKey)
  | markNodeReceipt mintId receipt _ => .revise mintId (·.markNodeReceipt receipt)
  | markCustodyProvisioned mintId => .revise mintId (·.markCustodyProvisioned)
  | markAbortedPartialProvision mintId => .revise mintId (·.markAbortedPartialProvision)
  | markContentAvailable mintId requirement evidence _ =>
    .revise mintId (·.markContentAvailable requirement evidence)
  | bindCreatorState mintId creatorState => .revise mintId (·.bindCreatorState creatorState)
  | bindCreatorEffect mintId effect => .revise mintId (·.bindCreatorEffect effect)
  | bindCreatorOperatorApproval mintId effect =>
    .revise mintId (·.bindCreatorOperatorApproval effect)
  | markCreatorCompleted mintId terminal => .revise mintId (·.markCreatorCompleted terminal)

end

/-! ## 2. Intents -/

namespace RuntimeMintIntent

def markProtectEffectStarted (intent : RuntimeMintIntent) :
    Except RuntimeMintJournalError (Option RuntimeMintIntent) :=
  match intent.protectState with
  | .notStarted => .ok (some (intent.withState .openRequestPending))
  | .openRequestPending => .ok none
  | _ => .error .conflict

def markProtectOpened (handle : Bytes MAX_PROVIDER_OPAQUE_HANDLE_BYTES_V1)
    (intent : RuntimeMintIntent) : Except RuntimeMintJournalError (Option RuntimeMintIntent) :=
  match intent.protectState with
  | .openRequestPending => .ok (some (intent.withState (.openHandlePendingCancel handle)))
  | .openHandlePendingCancel existing => do
    failIf (existing ≠ handle) RuntimeMintJournalError.conflict
    pure none
  | _ => .error .conflict

def markProtectFinalized (handle : Bytes MAX_PROVIDER_OPAQUE_HANDLE_BYTES_V1)
    (intent : RuntimeMintIntent) : Except RuntimeMintJournalError (Option RuntimeMintIntent) :=
  match intent.protectState with
  | .openHandlePendingCancel existing => do
    failIf (existing ≠ handle) RuntimeMintJournalError.conflict
    pure (some (intent.withState (.openHandlePendingClose handle)))
  | .openHandlePendingClose existing => do
    failIf (existing ≠ handle) RuntimeMintJournalError.conflict
    pure none
  | _ => .error .conflict

/-- `mark_intent_protect_terminal_before_draft`, which three operations call. -/
def markProtectTerminalBeforeDraft (settlement : RuntimeMintIntentProtectSettlement)
    (intent : RuntimeMintIntent) : Except RuntimeMintJournalError (Option RuntimeMintIntent) :=
  match intent.protectState with
  | .openRequestPending | .openHandlePendingCancel _ | .openHandlePendingClose _ =>
    .ok (some (intent.withState (.settledBeforeDraft settlement)))
  | .settledBeforeDraft existing => do
    failIf (existing ≠ settlement) RuntimeMintJournalError.conflict
    pure none
  | _ => .error .conflict

def markCompleted (mintId : Digest32) (intent : RuntimeMintIntent) :
    Except RuntimeMintJournalError (Option RuntimeMintIntent) :=
  match intent.protectState with
  | .settledBeforeDraft _ => .ok (some (intent.withState (.completed mintId)))
  | .completed existing => do
    failIf (existing ≠ mintId) RuntimeMintJournalError.conflict
    pure none
  | _ => .error .conflict

end RuntimeMintIntent

/-- `read_intent` and `write_replace_intent` -/
def intentFormat [Crypto] : Format RuntimeMintJournalError Digest32 RuntimeMintIntent where
  encode := encodeIntent
  decode := readFile decodeIntent
  key intent := intent.requestId
  missing := .notFound
  misplaced := .corrupt
  unavailable := .unavailable

inductive IntentCall where
  | persistIntent (intent : RuntimeMintIntent) (authority : intent.AuthorityValid)
  | loadIntent (requestId : Digest32)
  | markIntentProtectEffectStarted (requestId : Digest32)
  | markIntentProtectOpened (requestId : Digest32)
      (handle : Bytes MAX_PROVIDER_OPAQUE_HANDLE_BYTES_V1)
  | markIntentProtectFinalized (requestId : Digest32)
      (handle : Bytes MAX_PROVIDER_OPAQUE_HANDLE_BYTES_V1)
  | markIntentProtectCancelledBeforeDraft (requestId : Digest32)
  | markIntentProtectClosedBeforeDraft (requestId : Digest32)
  | markIntentProtectAlreadyAbsentBeforeDraft (requestId : Digest32)
  | markIntentCompleted (requestId mintId : Digest32)

def IntentCall.access : IntentCall → Access RuntimeMintJournalError Digest32 RuntimeMintIntent
  | persistIntent intent _ => .persist intent (fun existing => decide (existing = intent)) .conflict
  | loadIntent requestId => Format.reading requestId
  | markIntentProtectEffectStarted requestId => .revise requestId (·.markProtectEffectStarted)
  | markIntentProtectOpened requestId handle => .revise requestId (·.markProtectOpened handle)
  | markIntentProtectFinalized requestId handle =>
    .revise requestId (·.markProtectFinalized handle)
  | markIntentProtectCancelledBeforeDraft requestId =>
    .revise requestId (·.markProtectTerminalBeforeDraft .cancelled)
  | markIntentProtectClosedBeforeDraft requestId =>
    .revise requestId (·.markProtectTerminalBeforeDraft .closed)
  | markIntentProtectAlreadyAbsentBeforeDraft requestId =>
    .revise requestId (·.markProtectTerminalBeforeDraft .alreadyAbsent)
  | markIntentCompleted requestId mintId => .revise requestId (·.markCompleted mintId)

/-! ## 3. Media preparations -/

section

omit [Curves]

namespace RuntimeMediaPreparationRecord

def markEffectStarted (preparation : RuntimeMediaPreparationRecord) :
    Except RuntimeMintJournalError (Option RuntimeMediaPreparationRecord) :=
  match preparation.state with
  | .ready => .ok (some { preparation with state := .effectPending })
  | _ => .error .conflict

def markPrepared (outputReceiptDigest : Digest32) (preparation : RuntimeMediaPreparationRecord) :
    Except RuntimeMintJournalError (Option RuntimeMediaPreparationRecord) :=
  match preparation.state with
  | .effectPending => .ok (some { preparation with
      state := .prepared, outputReceiptDigest := some outputReceiptDigest })
  | .prepared => do
    failIf (preparation.outputReceiptDigest ≠ some outputReceiptDigest)
      RuntimeMintJournalError.conflict
    pure none
  | _ => .error .conflict

def markFailed (preparation : RuntimeMediaPreparationRecord) :
    Except RuntimeMintJournalError (Option RuntimeMediaPreparationRecord) :=
  match preparation.state with
  | .effectPending => .ok (some { preparation with state := .failed })
  | .failed => .ok none
  | _ => .error .conflict

def markConsumed (outputReceiptDigest mintId : Digest32)
    (preparation : RuntimeMediaPreparationRecord) :
    Except RuntimeMintJournalError (Option RuntimeMediaPreparationRecord) :=
  match preparation.state with
  | .prepared => do
    failIf (preparation.outputReceiptDigest ≠ some outputReceiptDigest)
      RuntimeMintJournalError.conflict
    pure (some { preparation with state := .consumed, consumedMintId := some mintId })
  | .consumed => do
    failIf (preparation.outputReceiptDigest ≠ some outputReceiptDigest ∨
      preparation.consumedMintId ≠ some mintId) RuntimeMintJournalError.conflict
    pure none
  | _ => .error .conflict

end RuntimeMediaPreparationRecord

/-- `read_media_preparation` and `write_replace_media_preparation`, whose check `encode` repeats. -/
def mediaPreparationFormat [Crypto] :
    Format RuntimeMintJournalError Digest32 RuntimeMediaPreparationRecord where
  encode := encodeMediaPreparation
  decode := readFile decodeMediaPreparation
  key preparation := preparation.requestId
  missing := .notFound
  misplaced := .corrupt
  unavailable := .unavailable

/-- **A media preparation that is written is read back.** -/
theorem mediaPreparationFormat_decode [Crypto] {v : RuntimeMediaPreparationRecord}
    {bytes : List UInt8} (h : mediaPreparationFormat.encode v = .ok bytes) :
    mediaPreparationFormat.decode bytes = .ok v :=
  let ⟨hdecode, hfits⟩ := decodeMediaPreparation_encodeMediaPreparation h
  readFile_eq_ok.mpr ⟨hfits, hdecode⟩

inductive MediaPreparationCall where
  | persistMediaPreparation (preparation : RuntimeMediaPreparationRecord)
  | loadMediaPreparation (requestId : Digest32)
  | markMediaPreparationEffectStarted (requestId : Digest32)
  | markMediaPreparationPrepared (requestId outputReceiptDigest : Digest32)
  | markMediaPreparationFailed (requestId : Digest32)
  | markMediaPreparationConsumed (requestId outputReceiptDigest mintId : Digest32)

/-- Two of the operations refuse a digest before they take the lock. -/
def MediaPreparationCall.access : MediaPreparationCall → Except RuntimeMintJournalError
    (Access RuntimeMintJournalError Digest32 RuntimeMediaPreparationRecord)
  | persistMediaPreparation preparation =>
    .ok (.persist preparation (fun existing => decide (existing = preparation)) .conflict)
  | loadMediaPreparation requestId => .ok (Format.reading requestId)
  | markMediaPreparationEffectStarted requestId =>
    .ok (.revise requestId (·.markEffectStarted))
  | markMediaPreparationPrepared requestId outputReceiptDigest => do
    failIf (outputReceiptDigest = Bytes.zero 32) RuntimeMintJournalError.invalidSelection
    pure (.revise requestId (·.markPrepared outputReceiptDigest))
  | markMediaPreparationFailed requestId => .ok (.revise requestId (·.markFailed))
  | markMediaPreparationConsumed requestId outputReceiptDigest mintId => do
    failIf (outputReceiptDigest = Bytes.zero 32 ∨ mintId = Bytes.zero 32)
      RuntimeMintJournalError.invalidSelection
    pure (.revise requestId (·.markConsumed outputReceiptDigest mintId))

end

/-! ## 4. The journal -/

section

variable [Crypto] [CreatorJson]

/-- The files of a journal that nobody is writing to. -/
structure RuntimeMintJournal where
  records : Files Digest32
  intents : Files Digest32
  mediaPreparations : Files Digest32

/-- A call, and what becomes of it. -/
inductive JournalLabel where
  | record (call : RecordCall) (fate : Fate)
  | intent (call : IntentCall) (fate : Fate)
  | mediaPreparation (call : MediaPreparationCall) (fate : Fate)

namespace RuntimeMintJournal

def empty : RuntimeMintJournal := ⟨∅, ∅, ∅⟩

variable (J : RuntimeMintJournal)

def callRecord (call : RecordCall) (fate : Fate) :
    Except RuntimeMintJournalError PersistedRuntimeMint × RuntimeMintJournal :=
  let (result, records) := recordFormat.call J.records call.access fate
  (result, { J with records })

variable {J} in
theorem callRecord_eq {call : RecordCall} {fate : Fate} {records : RecordFiles.Files Digest32}
    {result : Except RuntimeMintJournalError PersistedRuntimeMint}
    (h : recordFormat.call J.records call.access fate = (result, records)) :
    J.callRecord call fate = (result, { J with records }) := by
  rw [callRecord, h]

omit [CreatorJson] in
def callIntent (call : IntentCall) (fate : Fate) :
    Except RuntimeMintJournalError RuntimeMintIntent × RuntimeMintJournal :=
  let (result, intents) := intentFormat.call J.intents call.access fate
  (result, { J with intents })

omit [Curves] [CreatorJson] in
def callMediaPreparation (call : MediaPreparationCall) (fate : Fate) :
    Except RuntimeMintJournalError RuntimeMediaPreparationRecord × RuntimeMintJournal :=
  match call.access with
  | .error e => (.error e, J)
  | .ok access =>
    let (result, mediaPreparations) :=
      mediaPreparationFormat.call J.mediaPreparations access fate
    (result, { J with mediaPreparations })

/-- The journal after a call. -/
def step : JournalLabel → Option RuntimeMintJournal
  | .record call fate => some (J.callRecord call fate).2
  | .intent call fate => some (J.callIntent call fate).2
  | .mediaPreparation call fate => some (J.callMediaPreparation call fate).2

/-- A journal that calls have led to, from an empty directory. -/
def Reachable : Prop := Transition.Reachable step (· = empty) J

end RuntimeMintJournal

end

end ElastosRuntime.MintJournal
