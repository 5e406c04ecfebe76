/-
# What the mint journal writes and cannot read

The readers of the journal check what its writers do not.  An intent is written in whatever state
it has been put, and a creator state as it was given; both are checked, and their length limited,
when they are read.  So a call can succeed and leave behind a file that no later call can load.

`Meets` says of each call when it does not: for a session that is opened or a mint that completes,
that the handle or the mint id is not zero and that the file has 32 bytes left; for an intent that
is persisted, that its state passes the check and its file is not too long; for a creator state
that is bound, that it passes its check.  Nothing is asked of the other calls.  A run reads back
what it writes exactly if all its steps meet this (`readback_iff`).
-/
import ElastosRuntime.Mint.Lifecycle
import ElastosRuntime.Mint.Staging

namespace ElastosRuntime.MintJournal

open Codec Contracts RecordFiles

section

variable [Curves] [Crypto]

/-! ## 1. Intents -/

namespace RuntimeMintIntent

/-- **When the file of an intent can be read.** -/
theorem intentFormat_decode_iff {v : RuntimeMintIntent} {bytes : List UInt8}
    (h : v.AuthorityValid) (hencode : encodeIntent v = .ok bytes) :
    intentFormat.decode bytes = .ok v ↔
      validateProtectState v.protectState = .ok () ∧ v.fileBytes ≤ MAX_STORE_FILE_BYTES := by
  have hlen := length_encodeIntent h hencode
  change readFile decodeIntent bytes = .ok v ↔ _
  rw [readFile_eq_ok, decodeIntent_encodeIntent h hencode, Fits, hlen, and_comm]
  refine and_congr_left fun _ => ?_
  constructor
  · intro hdecode
    obtain ⟨⟨⟩, hstate, _⟩ := bind_eq_ok.mp hdecode
    exact hstate
  · intro hstate
    exact bind_eq_ok.mpr ⟨(), hstate, rfl⟩

omit [Crypto] in
/-- The length of the file in another state. -/
theorem fileBytes_withState {v : RuntimeMintIntent} {state : RuntimeMintIntentProtectState} :
    (v.withState state).fileBytes + v.protectState.fileBytes = v.fileBytes + state.fileBytes := by
  simp only [fileBytes, withState]
  omega

end RuntimeMintIntent

namespace IntentCall

open RuntimeMintIntent

/-- What each call asks of the intents it finds. -/
def Meets (t : Files Digest32) : IntentCall → Prop
  | persistIntent intent _ => t.lookup intent.requestId = none →
    intent.clearSegmentSha256.length ≤ 4294967295 →
    validateProtectState intent.protectState = .ok () ∧ intent.fileBytes ≤ MAX_STORE_FILE_BYTES
  | markIntentProtectOpened requestId handle => ∀ v, intentFormat.read t requestId = .ok v →
    v.protectState = .openRequestPending →
    handle ≠ Bytes.zero _ ∧ v.fileBytes + 32 ≤ MAX_STORE_FILE_BYTES
  | markIntentCompleted requestId mintId => ∀ v settlement, intentFormat.read t requestId = .ok v →
    v.protectState = .settledBeforeDraft settlement →
    mintId ≠ Bytes.zero _ ∧ v.fileBytes + 32 ≤ MAX_STORE_FILE_BYTES
  | _ => True

variable {t : Files Digest32} {requestId : Digest32}
  {change : RuntimeMintIntent → Except RuntimeMintJournalError (Option RuntimeMintIntent)}

/-- What is known of an intent that has been read. -/
structure Found (t : Files Digest32) (requestId : Digest32) (v : RuntimeMintIntent) : Prop where
  authority : v.AuthorityValid
  state : validateProtectState v.protectState = .ok ()
  fits : v.fileBytes ≤ MAX_STORE_FILE_BYTES
  segments : v.clearSegmentSha256.length ≤ 4294967295

theorem found_of_read {v : RuntimeMintIntent} (hwritten : intentFormat.Written AuthorityValid t)
    (h : intentFormat.read t requestId = .ok v) : Found t requestId v := by
  obtain ⟨hvalid, bytes, hencode, hdecode⟩ := hwritten.of_read unambiguous h
  obtain ⟨hstate, hfits⟩ := (intentFormat_decode_iff hvalid hencode).mp hdecode
  exact ⟨hvalid, hstate, hfits, segments_of_encodeIntent hencode⟩

/-- A mark is harmless if the state it leads to passes the check and its file is not too long. -/
theorem harmless_mark_iff (hwritten : intentFormat.Written AuthorityValid t)
    (hmarks : Marks change) : intentFormat.Harmless t (.revise requestId change) ↔
      ∀ old state, intentFormat.read t requestId = .ok old →
        change old = .ok (some (old.withState state)) →
        validateProtectState state = .ok () ∧
          (old.withState state).fileBytes ≤ MAX_STORE_FILE_BYTES := by
  rw [Format.harmless_revise_iff]
  constructor
  · intro h old state hread hchange
    have hfound := found_of_read hwritten hread
    obtain ⟨bytes, hbytes⟩ := exists_encodeIntent (v := old.withState state) hfound.authority
      hfound.segments
    exact (intentFormat_decode_iff (v := old.withState state) hfound.authority hbytes).mp
      (h old _ bytes hread hchange hbytes)
  · intro h old v bytes hread hchange hencode
    obtain ⟨⟨state, _, rfl⟩, _⟩ := hmarks old v hchange
    have hfound := found_of_read hwritten hread
    exact (intentFormat_decode_iff (v := old.withState state) hfound.authority hencode).mpr
      (h old state hread hchange)

/-- A mark whose states all pass the check and are no longer than the ones they replace. -/
theorem harmless_of_short (hwritten : intentFormat.Written AuthorityValid t)
    (hmarks : Marks change)
    (h : ∀ old state, validateProtectState old.protectState = .ok () →
      change old = .ok (some (old.withState state)) → validateProtectState state = .ok () ∧
        state.fileBytes ≤ old.protectState.fileBytes) :
    intentFormat.Harmless t (.revise requestId change) := by
  rw [harmless_mark_iff hwritten hmarks]
  intro old state hread hchange
  have hfound := found_of_read hwritten hread
  obtain ⟨hstate, hshort⟩ := h old state hfound.state hchange
  have hlen := @fileBytes_withState _ old state
  have hfits := hfound.fits
  exact ⟨hstate, by omega⟩

omit [Crypto] in
theorem state_of_withState {v : RuntimeMintIntent} {state state' : RuntimeMintIntentProtectState}
    (h : (.ok (some (v.withState state)) : Except RuntimeMintJournalError _) =
      .ok (some (v.withState state'))) : state' = state := by
  cases h
  rfl

theorem harmless_effectStarted (hwritten : intentFormat.Written AuthorityValid t) :
    intentFormat.Harmless t (.revise requestId markProtectEffectStarted) := by
  refine harmless_of_short hwritten marks_effectStarted ?_
  intro old state _ hchange
  unfold markProtectEffectStarted at hchange
  split at hchange
  · next hold =>
    obtain rfl := state_of_withState hchange
    rw [hold]
    exact ⟨rfl, Nat.le_refl 1⟩
  · cases hchange
  · cases hchange

theorem harmless_finalized (hwritten : intentFormat.Written AuthorityValid t)
    (handle : Bytes MAX_PROVIDER_OPAQUE_HANDLE_BYTES_V1) :
    intentFormat.Harmless t (.revise requestId (markProtectFinalized handle)) := by
  refine harmless_of_short hwritten (marks_finalized handle) ?_
  intro old state hvalid hchange
  unfold markProtectFinalized at hchange
  split at hchange
  · next existing hold =>
    obtain ⟨_, hsame, hchange⟩ := bind_eq_ok.mp hchange
    rw [failIf_eq_ok, not_not] at hsame
    subst hsame
    obtain rfl := state_of_withState hchange
    rw [hold] at hvalid ⊢
    exact ⟨hvalid, Nat.le_refl 33⟩
  · obtain ⟨_, _, hchange⟩ := bind_eq_ok.mp hchange
    cases hchange
  · cases hchange

theorem harmless_terminal (hwritten : intentFormat.Written AuthorityValid t)
    (settlement : RuntimeMintIntentProtectSettlement) :
    intentFormat.Harmless t (.revise requestId (markProtectTerminalBeforeDraft settlement)) := by
  refine harmless_of_short hwritten (marks_terminal settlement) ?_
  intro old state _ hchange
  have hshort : ∀ state : RuntimeMintIntentProtectState, 1 ≤ state.fileBytes := by
    intro state
    cases state <;> exact Nat.le_of_ble_eq_true rfl
  unfold markProtectTerminalBeforeDraft at hchange
  split at hchange
  · obtain rfl := state_of_withState hchange
    exact ⟨rfl, hshort _⟩
  · obtain rfl := state_of_withState hchange
    exact ⟨rfl, hshort _⟩
  · obtain rfl := state_of_withState hchange
    exact ⟨rfl, hshort _⟩
  · obtain ⟨_, _, hchange⟩ := bind_eq_ok.mp hchange
    cases hchange
  · cases hchange

theorem harmless_opened_iff (hwritten : intentFormat.Written AuthorityValid t)
    (handle : Bytes MAX_PROVIDER_OPAQUE_HANDLE_BYTES_V1) :
    intentFormat.Harmless t (.revise requestId (markProtectOpened handle)) ↔
      (markIntentProtectOpened requestId handle).Meets t := by
  rw [harmless_mark_iff hwritten (marks_opened handle)]
  constructor
  · intro h v hread hstate
    have hlen := @fileBytes_withState _ v (.openHandlePendingCancel handle)
    obtain ⟨hvalid, hfits⟩ := h v (.openHandlePendingCancel handle) hread (by
      rw [markProtectOpened, hstate])
    rw [hstate] at hlen
    change _ + 1 = _ + 33 at hlen
    exact ⟨failIf_eq_ok.mp hvalid, by omega⟩
  · intro h old state hread hchange
    unfold markProtectOpened at hchange
    split at hchange
    · next hold =>
      obtain rfl := state_of_withState hchange
      obtain ⟨hne, hfits⟩ := h old hread hold
      have hlen := @fileBytes_withState _ old (.openHandlePendingCancel handle)
      rw [hold] at hlen
      change _ + 1 = _ + 33 at hlen
      exact ⟨failIf_eq_ok.mpr hne, by omega⟩
    · obtain ⟨_, _, hchange⟩ := bind_eq_ok.mp hchange
      cases hchange
    · cases hchange

theorem harmless_completed_iff (hwritten : intentFormat.Written AuthorityValid t)
    (mintId : Digest32) :
    intentFormat.Harmless t (.revise requestId (markCompleted mintId)) ↔
      (markIntentCompleted requestId mintId).Meets t := by
  rw [harmless_mark_iff hwritten (marks_completed mintId)]
  have hshort : ∀ settlement : RuntimeMintIntentProtectSettlement,
      (RuntimeMintIntentProtectState.settledBeforeDraft settlement).fileBytes = 1 := fun _ => rfl
  constructor
  · intro h v settlement hread hstate
    have hlen := @fileBytes_withState _ v (.completed mintId)
    obtain ⟨hvalid, hfits⟩ := h v (.completed mintId) hread (by rw [markCompleted, hstate])
    rw [hstate, hshort] at hlen
    change _ + 1 = _ + 33 at hlen
    exact ⟨failIf_eq_ok.mp hvalid, by omega⟩
  · intro h old state hread hchange
    unfold markCompleted at hchange
    split at hchange
    · next settlement hold =>
      obtain rfl := state_of_withState hchange
      obtain ⟨hne, hfits⟩ := h old settlement hread hold
      have hlen := @fileBytes_withState _ old (.completed mintId)
      rw [hold, hshort] at hlen
      change _ + 1 = _ + 33 at hlen
      exact ⟨failIf_eq_ok.mpr hne, by omega⟩
    · obtain ⟨_, _, hchange⟩ := bind_eq_ok.mp hchange
      cases hchange
    · cases hchange

theorem harmless_persist_iff (intent : RuntimeMintIntent) (authority : intent.AuthorityValid) :
    intentFormat.Harmless t (persistIntent intent authority).access ↔
      (persistIntent intent authority).Meets t := by
  refine Format.harmless_persist_iff.trans ?_
  constructor
  · intro h hfree hsegments
    obtain ⟨bytes, hbytes⟩ := exists_encodeIntent authority hsegments
    exact (intentFormat_decode_iff authority hbytes).mp (h bytes hfree hbytes)
  · intro h bytes hfree hencode
    exact (intentFormat_decode_iff authority hencode).mpr
      (h hfree (segments_of_encodeIntent hencode))

/-- **When a call does no harm to the intents.** -/
theorem harmless_iff (hwritten : intentFormat.Written AuthorityValid t) (call : IntentCall) :
    intentFormat.Harmless t call.access ↔ call.Meets t := by
  cases call with
  | persistIntent intent authority => exact harmless_persist_iff intent authority
  | loadIntent requestId => exact iff_of_true (Format.harmless_reading requestId) trivial
  | markIntentProtectEffectStarted requestId =>
    exact iff_of_true (harmless_effectStarted hwritten) trivial
  | markIntentProtectOpened requestId handle => exact harmless_opened_iff hwritten handle
  | markIntentProtectFinalized requestId handle =>
    exact iff_of_true (harmless_finalized hwritten handle) trivial
  | markIntentProtectCancelledBeforeDraft requestId =>
    exact iff_of_true (harmless_terminal hwritten .cancelled) trivial
  | markIntentProtectClosedBeforeDraft requestId =>
    exact iff_of_true (harmless_terminal hwritten .closed) trivial
  | markIntentProtectAlreadyAbsentBeforeDraft requestId =>
    exact iff_of_true (harmless_terminal hwritten .alreadyAbsent) trivial
  | markIntentCompleted requestId mintId => exact harmless_completed_iff hwritten mintId

end IntentCall

/-! ## 2. Mint records -/

namespace PersistedRuntimeMint

variable [CreatorJson]

variable {v old : PersistedRuntimeMint}

/-- **When the file of a mint record can be read.** -/
theorem recordFormat_decode_iff {bytes : List UInt8} (h : v.WellFormed)
    (hencode : encodeRecord v = .ok bytes) :
    recordFormat.decode bytes = .ok v ↔ v.CreatorValid := by
  constructor
  · intro hdecode
    exact creatorValid_of_decodeRecord h hencode (readFile_eq_ok.mp hdecode).2
  · intro hcreator
    exact readFile_eq_ok.mpr
      ⟨fits_encodeRecord h hcreator hencode, decodeRecord_encodeRecord h hcreator hencode⟩

/-- The operation writes no creator state that fails its check. -/
def KeepsCreator (change : PersistedRuntimeMint →
    Except RuntimeMintJournalError (Option PersistedRuntimeMint)) : Prop :=
  ∀ old v, old.CreatorValid → change old = .ok (some v) → v.CreatorValid

omit [CreatorJson] in
/-- Most operations leave the creator state alone. -/
theorem keepsCreator_of_eq {change : PersistedRuntimeMint →
    Except RuntimeMintJournalError (Option PersistedRuntimeMint)}
    (h : ∀ old v, change old = .ok (some v) → v.creatorState = old.creatorState) :
    KeepsCreator change := by
  intro old v hold hchange state hstate
  rw [h old v hchange] at hstate
  exact hold state hstate

omit [CreatorJson] in
theorem keepsCreator_nodes {nodes : Option (List MintNodeState)}
    (h : (pure (nodes.map fun nodeStates => { old with nodeStates }) : Except
      RuntimeMintJournalError _) = .ok (some v)) :
    v.creatorState = old.creatorState := by
  rw [pure_eq_ok, Option.map_eq_some_iff] at h
  obtain ⟨_, _, rfl⟩ := h
  rfl

omit [CreatorJson] in
theorem keepsCreator_endCustody {kind : RuntimeCustodyTerminalKind}
    (h : old.endCustody kind = .ok (some v)) : v.creatorState = old.creatorState := by
  unfold endCustody at h
  split at h
  · obtain ⟨_, _, h⟩ := bind_eq_ok.mp h
    cases h
  · cases h
    rfl

omit [CreatorJson] in
theorem keepsCreator_nodeEffectStarted (nodePublicKey : NodePublicKey) :
    KeepsCreator (markNodeEffectStarted nodePublicKey) := by
  refine keepsCreator_of_eq fun old v h => ?_
  obtain ⟨_, _, h⟩ := bind_eq_ok.mp h
  obtain ⟨_, _, h⟩ := bind_eq_ok.mp h
  exact keepsCreator_nodes h

omit [CreatorJson] in
theorem keepsCreator_nodeReceipt (receipt : RuntimeMintNodeReceipt) :
    KeepsCreator (markNodeReceipt receipt) := by
  refine keepsCreator_of_eq fun old v h => ?_
  obtain ⟨_, _, h⟩ := bind_eq_ok.mp h
  obtain ⟨_, _, h⟩ := bind_eq_ok.mp h
  exact keepsCreator_nodes h

omit [CreatorJson] in
theorem keepsCreator_custodyProvisioned : KeepsCreator markCustodyProvisioned := by
  refine keepsCreator_of_eq fun old v h => ?_
  obtain ⟨_, _, h⟩ := bind_eq_ok.mp h
  exact keepsCreator_endCustody h

omit [CreatorJson] in
theorem keepsCreator_abortedPartialProvision : KeepsCreator markAbortedPartialProvision :=
  keepsCreator_of_eq fun _ _ => keepsCreator_endCustody

omit [CreatorJson] in
theorem keepsCreator_contentAvailable (requirement : RuntimeContentAvailabilityRequirement)
    (evidence : RuntimeVerifiedContentAvailability) :
    KeepsCreator (markContentAvailable requirement evidence) := by
  refine keepsCreator_of_eq fun old v h => ?_
  obtain ⟨_, _, h⟩ := bind_eq_ok.mp h
  split at h
  · obtain ⟨_, _, h⟩ := bind_eq_ok.mp h
    cases h
  · cases h
    rfl

end PersistedRuntimeMint

omit [Curves] [Crypto] in
/-- What is bound once is checked before it is. -/
theorem RuntimeMintCreatorState.valid_bindOnce {α : Type} [DecidableEq α]
    {v w bound : RuntimeMintCreatorState} {existing : Option α} {value : α}
    (hvalid : v.validate = .ok ()) (h : v.bindOnce existing value bound = .ok w) :
    w.validate = .ok () := by
  unfold bindOnce at h
  split at h
  · obtain ⟨_, _, h⟩ := bind_eq_ok.mp h
    cases h
    exact hvalid
  · obtain ⟨⟨⟩, hbound, h⟩ := bind_eq_ok.mp h
    cases h
    exact hbound

/-- What is recorded of a creator state passes the check again. -/
theorem PersistedRuntimeMint.keepsCreator_update
    {update : RuntimeMintCreatorState → Except RuntimeMintJournalError RuntimeMintCreatorState}
    (hupdate : ∀ state state', state.validate = .ok () → update state = .ok state' →
      state'.validate = .ok ()) : KeepsCreator (updateCreatorState update) := by
  intro old v hold h found hfound
  obtain ⟨state, hstate, h⟩ := bind_eq_ok.mp h
  rw [okOr_eq_ok] at hstate
  obtain ⟨state', hstate', h⟩ := bind_eq_ok.mp h
  cases h
  cases hfound
  exact hupdate state _ (hold state hstate) hstate'

namespace RecordCall

open PersistedRuntimeMint

variable [CreatorJson]

/-- What each call asks of the mint records it finds. -/
def Meets (t : Files Digest32) : RecordCall → Prop
  | bindCreatorState mintId creatorState => ∀ v, recordFormat.read t mintId = .ok v →
    v.contentAvailability.isSome → v.creatorState = none →
    creatorState.toVec.length ≤ 4294967295 → creatorState.validate = .ok ()
  | _ => True

variable {t : Files Digest32} {mintId : Digest32}

theorem found_of_read {v : PersistedRuntimeMint} (hwritten : recordFormat.Written Staged t)
    (h : recordFormat.read t mintId = .ok v) : v.Staged ∧ v.CreatorValid := by
  obtain ⟨hstaged, bytes, hencode, hdecode⟩ := hwritten.of_read unambiguous h
  exact ⟨hstaged, (recordFormat_decode_iff hstaged.wellFormed hencode).mp hdecode⟩

theorem harmless_of_keepsCreator (hwritten : recordFormat.Written Staged t)
    {change : PersistedRuntimeMint → Except RuntimeMintJournalError (Option PersistedRuntimeMint)}
    (hstages : Stages change) (hkeeps : KeepsCreator change) :
    recordFormat.Harmless t (.revise mintId change) := by
  rw [Format.harmless_revise_iff]
  intro old v bytes hread hchange hencode
  obtain ⟨hstaged, hcreator⟩ := found_of_read hwritten hread
  have hnext := (hstages old v hstaged hchange).1
  exact (recordFormat_decode_iff hnext.wellFormed hencode).mpr (hkeeps old v hcreator hchange)

theorem harmless_persistBound (draft : RuntimeMintDraft) :
    recordFormat.Harmless t (persistBound draft).access := by
  refine Format.harmless_persist_iff.mpr fun bytes _ hencode => ?_
  refine (recordFormat_decode_iff (staged_bound draft).wellFormed hencode).mpr ?_
  intro state hstate
  cases hstate

theorem harmless_bindCreatorState_iff (hwritten : recordFormat.Written Staged t)
    (creatorState : RuntimeMintCreatorState) :
    recordFormat.Harmless t (bindCreatorState mintId creatorState).access ↔
      (bindCreatorState mintId creatorState).Meets t := by
  refine Format.harmless_revise_iff.trans ?_
  constructor
  · intro h v hread havailable hnone hlength
    obtain ⟨hstaged, _⟩ := found_of_read hwritten hread
    have hchange : v.bindCreatorState creatorState =
        .ok (some { v with creatorState := some creatorState }) := by
      refine bind_eq_ok.mpr ⟨(), failIf_eq_ok.mpr ?_, by rw [hnone]; rfl⟩
      rw [not_or, not_not, Bool.not_eq_true, Option.isNone_eq_false_iff]
      exact ⟨havailable, hstaged.contentAvailability havailable⟩
    have hnext := (stages_bindCreatorState creatorState v _ hstaged hchange).1
    obtain ⟨bytes, hbytes⟩ := exists_encodeRecord hnext.wellFormed (by
      intro state hstate
      cases hstate
      exact hlength)
    exact (recordFormat_decode_iff hnext.wellFormed hbytes).mp
      (h v _ bytes hread hchange hbytes) creatorState rfl
  · intro h old v bytes hread hchange hencode
    obtain ⟨hstaged, _⟩ := found_of_read hwritten hread
    have hnext := (stages_bindCreatorState creatorState old v hstaged hchange).1
    obtain ⟨_, hguard, hchange⟩ := bind_eq_ok.mp hchange
    rw [failIf_eq_ok, not_or, Bool.not_eq_true, Option.isNone_eq_false_iff] at hguard
    split at hchange
    · obtain ⟨_, _, hchange⟩ := bind_eq_ok.mp hchange
      cases hchange
    · next hnone =>
      cases hchange
      refine (recordFormat_decode_iff hnext.wellFormed hencode).mpr fun state hstate => ?_
      cases hstate
      exact h old hread hguard.1 hnone (creator_of_encodeRecord hencode _ rfl)

/-- **When a call does no harm to the mint records.** -/
theorem harmless_iff (hwritten : recordFormat.Written Staged t) (call : RecordCall) :
    recordFormat.Harmless t call.access ↔ call.Meets t := by
  cases call with
  | persistBound draft => exact iff_of_true (harmless_persistBound draft) trivial
  | load mintId => exact iff_of_true (Format.harmless_reading mintId) trivial
  | markNodeEffectStarted mintId nodePublicKey =>
    exact iff_of_true (harmless_of_keepsCreator hwritten (stages_nodeEffectStarted nodePublicKey)
      (keepsCreator_nodeEffectStarted nodePublicKey)) trivial
  | markNodeReceipt mintId receipt valid =>
    exact iff_of_true (harmless_of_keepsCreator hwritten (stages_nodeReceipt valid)
      (keepsCreator_nodeReceipt receipt)) trivial
  | markCustodyProvisioned mintId =>
    exact iff_of_true (harmless_of_keepsCreator hwritten stages_custodyProvisioned
      keepsCreator_custodyProvisioned) trivial
  | markAbortedPartialProvision mintId =>
    exact iff_of_true (harmless_of_keepsCreator hwritten stages_abortedPartialProvision
      keepsCreator_abortedPartialProvision) trivial
  | markContentAvailable mintId requirement evidence valid =>
    exact iff_of_true (harmless_of_keepsCreator hwritten
      (stages_contentAvailable requirement valid)
      (keepsCreator_contentAvailable requirement evidence)) trivial
  | bindCreatorState mintId creatorState =>
    exact harmless_bindCreatorState_iff hwritten creatorState
  | bindCreatorEffect mintId effect =>
    exact iff_of_true (harmless_of_keepsCreator hwritten
      (stages_updateCreatorState fun _ _ => RuntimeMintCreatorState.advances_withEffect)
      (keepsCreator_update fun _ _ => RuntimeMintCreatorState.valid_bindOnce)) trivial
  | bindCreatorOperatorApproval mintId effect =>
    exact iff_of_true (harmless_of_keepsCreator hwritten
      (stages_updateCreatorState fun _ _ => RuntimeMintCreatorState.advances_withOperatorApproval)
      (keepsCreator_update fun _ _ => RuntimeMintCreatorState.valid_bindOnce)) trivial
  | markCreatorCompleted mintId terminal =>
    exact iff_of_true (harmless_of_keepsCreator hwritten
      (stages_updateCreatorState fun _ _ => RuntimeMintCreatorState.advances_withTerminal)
      (keepsCreator_update fun _ _ => RuntimeMintCreatorState.valid_bindOnce)) trivial

end RecordCall

/-! ## 3. Runs -/

namespace RuntimeMintJournal

variable [CreatorJson]

/-- Every file of the journal can be loaded. -/
structure Readable (J : RuntimeMintJournal) : Prop where
  records : ∀ mintId, J.records.lookup mintId ≠ none →
    ∃ v, (J.callRecord (.load mintId) .completed).1 = .ok v
  intents : ∀ requestId, J.intents.lookup requestId ≠ none →
    ∃ v, (J.callIntent (.loadIntent requestId) .completed).1 = .ok v
  mediaPreparations : ∀ requestId, J.mediaPreparations.lookup requestId ≠ none →
    ∃ v, (J.callMediaPreparation (.loadMediaPreparation requestId) .completed).1 = .ok v

/-- **A call reads back**: what it returns is loaded afterwards, an error has changed nothing unless
all that failed was to confirm the new file, and every file can be loaded. -/
structure CallReadsBack {α : Type} (J : RuntimeMintJournal) (fate : Fate)
    (called : Except RuntimeMintJournalError α × RuntimeMintJournal)
    (load : RuntimeMintJournal → α → Except RuntimeMintJournalError α) : Prop where
  result : ∀ v, called.1 = .ok v → load called.2 v = .ok v
  unchanged : ∀ e, called.1 = .error e → fate ≠ .unconfirmed → called.2 = J
  readable : called.2.Readable

def ReadsBack (J : RuntimeMintJournal) : JournalLabel → Prop
  | .record call fate => J.CallReadsBack fate (J.callRecord call fate)
    fun J' v => (J'.callRecord (.load v.draft.mintId) .completed).1
  | .intent call fate => J.CallReadsBack fate (J.callIntent call fate)
    fun J' v => (J'.callIntent (.loadIntent v.requestId) .completed).1
  | .mediaPreparation call fate => J.CallReadsBack fate (J.callMediaPreparation call fate)
    fun J' v => (J'.callMediaPreparation (.loadMediaPreparation v.requestId) .completed).1

/-- What has to hold of a call that writes. -/
def Meets (J : RuntimeMintJournal) : JournalLabel → Prop
  | .record call fate => fate.Writes → call.Meets J.records
  | .intent call fate => fate.Writes → call.Meets J.intents
  | .mediaPreparation _ _ => True

/-- Every file was written for a record that satisfies what all records do. -/
structure Written (J : RuntimeMintJournal) : Prop where
  records : recordFormat.Written PersistedRuntimeMint.Staged J.records
  intents : intentFormat.Written RuntimeMintIntent.AuthorityValid J.intents
  mediaPreparations :
    mediaPreparationFormat.Written MediaPreparationCall.Stored J.mediaPreparations

variable {J J' : RuntimeMintJournal}

theorem written_empty : empty.Written :=
  ⟨Format.written_empty, Format.written_empty, Format.written_empty⟩

theorem Written.step {label : JournalLabel} (h : J.Written)
    (hstep : RuntimeMintJournal.step J label = some J') : J'.Written := by
  cases label with
  | record call fate =>
    cases hstep
    exact ⟨h.records.call RecordCall.unambiguous call.respects, h.intents, h.mediaPreparations⟩
  | intent call fate =>
    cases hstep
    exact ⟨h.records, h.intents.call IntentCall.unambiguous call.respects, h.mediaPreparations⟩
  | mediaPreparation call fate =>
    cases hstep
    unfold callMediaPreparation
    split
    · exact h
    · next access haccess =>
      exact ⟨h.records, h.intents, h.mediaPreparations.call MediaPreparationCall.unambiguous
        (MediaPreparationCall.respects haccess)⟩

/-- A record is loaded by reading its file. -/
theorem load_eq {mintId : Digest32} : J.callRecord (.load mintId) .completed =
    (recordFormat.read J.records mintId, J) := by
  simp only [callRecord, RecordCall.access, Format.call_reading]

theorem readable_iff : J.Readable ↔ recordFormat.Sound J.records ∧
    intentFormat.Sound J.intents ∧ mediaPreparationFormat.Sound J.mediaPreparations := by
  have hsome : ∀ {t : Files Digest32} {P : Digest32 → Prop},
      (∀ k, t.lookup k ≠ none → P k) ↔ ∀ k bytes, t.lookup k = some bytes → P k := by
    intro t P
    refine forall_congr' fun k => ⟨fun h bytes hk => h (by simp [hk]), fun h hk => ?_⟩
    obtain ⟨bytes, hbytes⟩ := Option.ne_none_iff_exists'.mp hk
    exact h bytes hbytes
  constructor
  · rintro ⟨hrecords, hintents, hpreparations⟩
    simp only [load_eq, loadIntent_eq, loadMediaPreparation_eq] at hrecords hintents hpreparations
    exact ⟨hsome.mp hrecords, hsome.mp hintents, hsome.mp hpreparations⟩
  · rintro ⟨hrecords, hintents, hpreparations⟩
    refine ⟨?_, ?_, ?_⟩ <;> simp only [load_eq, loadIntent_eq, loadMediaPreparation_eq]
    · exact hsome.mpr hrecords
    · exact hsome.mpr hintents
    · exact hsome.mpr hpreparations

/-- What is asked of a call, said of the one kind of files it works on. -/
theorem callReadsBack_iff {α : Type} {F : Format RuntimeMintJournalError Digest32 α}
    {t : Files Digest32} {access : Access RuntimeMintJournalError Digest32 α} {fate : Fate}
    {load : RuntimeMintJournal → α → Except RuntimeMintJournalError α}
    (hload : ∀ v, load J' v = F.read (F.call t access fate).2 (F.key v))
    (hreadable : J'.Readable ↔ F.Sound (F.call t access fate).2)
    (hsame : J' = J ↔ (F.call t access fate).2 = t) :
    J.CallReadsBack fate ((F.call t access fate).1, J') load ↔ F.ReadsBack t access fate := by
  constructor
  · intro h
    exact ⟨fun v hv => (hload v).symm.trans (h.result v hv),
      fun e he hfate => hsame.mp (h.unchanged e he hfate), hreadable.mp h.readable⟩
  · intro h
    exact ⟨fun v hv => (hload v).trans (h.result v hv),
      fun e he hfate => hsame.mpr (h.unchanged e he hfate), hreadable.mpr h.readable⟩

/-- **One call reads back exactly if it meets what is asked of it.** -/
theorem readsBack_call_iff (hreadable : J.Readable) (hwritten : J.Written)
    (label : JournalLabel) : J.ReadsBack label ↔ J.Meets label := by
  obtain ⟨hrecords, hintents, hpreparations⟩ := readable_iff.mp hreadable
  cases label with
  | record call fate =>
    refine (callReadsBack_iff (F := recordFormat) ?_ ?_ ?_).trans
      ((Format.readsBack_iff hrecords (hwritten.records.keeps RecordCall.unambiguous)
        RecordCall.unambiguous call.respects).trans
        (imp_congr_right fun _ => RecordCall.harmless_iff hwritten.records call))
    · intro v
      rw [load_eq]
      rfl
    · exact readable_iff.trans ⟨fun h => h.1, fun h => ⟨h, hintents, hpreparations⟩⟩
    · exact ⟨congrArg RuntimeMintJournal.records, congrArg fun records => { J with records }⟩
  | intent call fate =>
    refine (callReadsBack_iff (F := intentFormat) ?_ ?_ ?_).trans
      ((Format.readsBack_iff hintents (hwritten.intents.keeps IntentCall.unambiguous)
        IntentCall.unambiguous call.respects).trans
        (imp_congr_right fun _ => IntentCall.harmless_iff hwritten.intents call))
    · intro v
      rw [loadIntent_eq]
      rfl
    · exact readable_iff.trans ⟨fun h => h.2.1, fun h => ⟨hrecords, h, hpreparations⟩⟩
    · exact ⟨congrArg RuntimeMintJournal.intents, congrArg fun intents => { J with intents }⟩
  | mediaPreparation call fate =>
    refine iff_of_true ?_ trivial
    rw [ReadsBack]
    cases haccess : call.access with
    | error e =>
      have hcall : J.callMediaPreparation call fate = (.error e, J) := by
        rw [callMediaPreparation, haccess]
      rw [hcall]
      exact ⟨fun v h => (by cases h), fun _ _ _ => rfl, hreadable⟩
    | ok access =>
      rw [callMediaPreparation_eq haccess rfl]
      refine (callReadsBack_iff (F := mediaPreparationFormat) ?_ ?_ ?_).mpr
        ((Format.readsBack_iff hpreparations
          (hwritten.mediaPreparations.keeps MediaPreparationCall.unambiguous)
          MediaPreparationCall.unambiguous (MediaPreparationCall.respects haccess)).mpr ?_)
      · intro v
        rw [loadMediaPreparation_eq]
        rfl
      · exact readable_iff.trans ⟨fun h => h.2.2, fun h => ⟨hrecords, hintents, h⟩⟩
      · exact ⟨congrArg RuntimeMintJournal.mediaPreparations,
          congrArg fun mediaPreparations => { J with mediaPreparations }⟩
      · intro _ bytes v hplan
        exact mediaPreparationFormat_decode (Format.writes_of_plan hplan).1

/-- **A run reads back what it writes exactly if all its calls meet what is asked of them.** -/
theorem readback_iff (labels : List JournalLabel) :
    Transition.Guarded step ReadsBack empty labels ↔
      Transition.Guarded step Meets empty labels := by
  have hempty : empty.Readable := readable_iff.mpr
    ⟨Format.sound_empty, Format.sound_empty, Format.sound_empty⟩
  have hkeep : ∀ J label J', J.Readable ∧ J.Written → J.ReadsBack label →
      step J label = some J' → J'.Readable ∧ J'.Written := by
    rintro J label J' ⟨_, hwritten⟩ hback hstep
    refine ⟨?_, hwritten.step hstep⟩
    cases label with
    | record call fate =>
      cases hstep
      exact hback.readable
    | intent call fate =>
      cases hstep
      exact hback.readable
    | mediaPreparation call fate =>
      cases hstep
      exact hback.readable
  have hkeep' : ∀ J label J', J.Readable ∧ J.Written → J.Meets label →
      step J label = some J' → J'.Readable ∧ J'.Written := by
    intro J label J' hJ hmeets
    exact hkeep J label J' hJ ((readsBack_call_iff hJ.1 hJ.2 label).mpr hmeets)
  constructor
  · intro h
    exact h.of_invariant hkeep (fun J label hJ => (readsBack_call_iff hJ.1 hJ.2 label).mp)
      ⟨hempty, written_empty⟩
  · intro h
    exact h.of_invariant hkeep' (fun J label hJ => (readsBack_call_iff hJ.1 hJ.2 label).mpr)
      ⟨hempty, written_empty⟩

end RuntimeMintJournal

end

/-! ## 4. A handle that is all zero -/

section

attribute [local instance] acceptingCurves tailEchoCrypto canonicalCreatorJson

def sampleIntent : RuntimeMintIntent where
  requestId := sampleDigest 1
  principalId := "principal"
  sourceBindingDigest := sampleDigest 2
  creatorWalletAccountId := "account"
  creatorWalletAddress := sampleAddress
  creatorMintSourceDigest := sampleDigest 4
  mimeType := "video/mp4"
  codecs := "avc1"
  clearInitSha256 := sampleDigest 5
  clearSegmentSha256 := [sampleDigest 6]
  contentAccessId := sampleParts.contentAccessId
  protectState := .notStarted
  custodyPool := ⟨Bytes.zero 32, 1⟩
  custodyEpoch := ⟨Bytes.zero 32, 1⟩
  custodyCommitteeAuthorization := ⟨Bytes.zero 32, 1⟩
  nodes := sampleBindings

theorem sampleIntent_authority : sampleIntent.AuthorityValid := by
  have hpool := encodes_identity (v := sampleIntent.custodyPool) (n := 87) (by decide) (by decide)
  have hepoch := encodes_identity (v := sampleIntent.custodyEpoch) (n := 88) (by decide) (by decide)
  have hcommittee := encodes_identity (v := sampleIntent.custodyCommitteeAuthorization) (n := 106)
    (by decide) (by decide)
  exact bind_eq_ok.mpr ⟨(), by decide, bind_eq_ok.mpr ⟨(), by decide, bind_eq_ok.mpr
    ⟨(), by decide, bind_eq_ok.mpr ⟨(), by decide, bind_eq_ok.mpr ⟨(), by decide, bind_eq_ok.mpr
    ⟨(), by decide, bind_eq_ok.mpr ⟨(), rfl, bind_eq_ok.mpr
    ⟨(), orInvalidSelection_eq_ok.mpr hpool.requireCanonical, bind_eq_ok.mpr
    ⟨(), orInvalidSelection_eq_ok.mpr hepoch.requireCanonical, bind_eq_ok.mpr
    ⟨(), orInvalidSelection_eq_ok.mpr hcommittee.requireCanonical, bind_eq_ok.mpr
    ⟨(), by decide, by decide⟩⟩⟩⟩⟩⟩⟩⟩⟩⟩⟩

/-- The sample with a session that is opened under the handle that is all zero. -/
def sampleOpened : RuntimeMintIntent :=
  sampleIntent.withState (.openHandlePendingCancel (Bytes.zero _))

theorem decode_sampleOpened {bytes : List UInt8} (h : encodeIntent sampleOpened = .ok bytes) :
    intentFormat.decode bytes = .error .invalidSelection := by
  have hlength := length_encodeIntent (v := sampleOpened) sampleIntent_authority h
  have hfits : ¬MAX_STORE_FILE_BYTES < bytes.length := by
    rw [hlength]
    decide
  change readFile decodeIntent bytes = _
  rw [readFile, failIf, if_neg hfits]
  exact decodeIntent_encodeIntent (v := sampleOpened) sampleIntent_authority h

abbrev sampleFiles (bytes : List UInt8) (t : Files Digest32) : Files Digest32 :=
  AList.insert sampleIntent.requestId bytes t

/-- **An accepted handle makes the intent unreadable.**  The call that records it succeeds, and the
intent it returns cannot be loaded any more. -/
theorem zero_handle_unreadable : ∃ J J' : RuntimeMintJournal, J.Reachable ∧
    J.callIntent (.markIntentProtectOpened sampleIntent.requestId (Bytes.zero _)) .completed =
      (.ok sampleOpened, J') ∧
    J'.callIntent (.loadIntent sampleOpened.requestId) .completed =
      (.error .invalidSelection, J') := by
  have hpending : (sampleIntent.withState .openRequestPending).AuthorityValid :=
    sampleIntent_authority
  obtain ⟨b₁, hb₁⟩ := exists_encodeIntent sampleIntent_authority (by decide)
  obtain ⟨b₂, hb₂⟩ := exists_encodeIntent hpending (by decide)
  obtain ⟨b₃, hb₃⟩ := exists_encodeIntent (v := sampleOpened) sampleIntent_authority (by decide)
  let t₁ := sampleFiles b₁ ∅
  let t₂ := sampleFiles b₂ t₁
  let t₃ := sampleFiles b₃ t₂
  have hread₁ : intentFormat.read t₁ sampleIntent.requestId = .ok sampleIntent :=
    Format.read_insert_self ((RuntimeMintIntent.intentFormat_decode_iff sampleIntent_authority
      hb₁).mpr (by decide))
  have hread₂ : intentFormat.read t₂ sampleIntent.requestId =
      .ok (sampleIntent.withState .openRequestPending) :=
    Format.read_insert_self ((RuntimeMintIntent.intentFormat_decode_iff hpending hb₂).mpr
      (by decide))
  have hpersist : intentFormat.call ∅ (IntentCall.persistIntent sampleIntent
      sampleIntent_authority).access .completed = (_, t₁) :=
    Format.call_persist (AList.lookup_empty _) hb₁
  have hstart : intentFormat.call t₁ (IntentCall.markIntentProtectEffectStarted
      sampleIntent.requestId).access .completed = (_, t₂) := Format.call_revise hread₁ rfl hb₂
  have hopen : intentFormat.call t₂ (IntentCall.markIntentProtectOpened
      sampleIntent.requestId (Bytes.zero _)).access .completed = (_, t₃) :=
    Format.call_revise hread₂ rfl hb₃
  refine ⟨⟨∅, t₂, ∅⟩, ⟨∅, t₃, ∅⟩, ⟨_, [.intent (.persistIntent sampleIntent
    sampleIntent_authority) .completed, .intent (.markIntentProtectEffectStarted
      sampleIntent.requestId) .completed], rfl, ?_⟩, ?_, ?_⟩
  · rw [Transition.run_cons_eq_some]
    refine ⟨⟨∅, t₁, ∅⟩, ?_, ?_⟩
    · rw [RuntimeMintJournal.step, RuntimeMintJournal.callIntent, RuntimeMintJournal.empty,
        hpersist]
    · rw [Transition.run_cons_eq_some]
      refine ⟨_, ?_, rfl⟩
      rw [RuntimeMintJournal.step, RuntimeMintJournal.callIntent, hstart]
  · rw [RuntimeMintJournal.callIntent, hopen]
  · have hfound : t₃.lookup sampleOpened.requestId = some b₃ := AList.lookup_insert _
    rw [RuntimeMintJournal.loadIntent_eq, Format.read, hfound]
    simp only [decode_sampleOpened hb₃, bind, Except.bind]

end

end ElastosRuntime.MintJournal
