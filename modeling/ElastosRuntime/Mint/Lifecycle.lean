/-
# The life cycles of intents and media preparations

Two state machines whose states carry what brought them about: the handle of the session that was
opened, the settlement, the mint id; the digest of the output, and the mint that consumed it.
`Moves` lists the steps of each.  A record `Follows` an earlier one when moves lead from one state
to the other and nothing else about it has changed.

Every operation takes its record one move further or leaves it alone (`Marks`), and almost all of
them leave it alone once they have taken it there.  So any two results a journal gives for one
record, whatever happens in between, follow one another, and an operation that is repeated while
its result stands gives it again (`life_cycles`).  The exceptions are deliberate: the effect of a
media preparation is started once, and a record that has moved on is not persisted again.
-/
import Mathlib.Logic.Relation
import ElastosRuntime.Mint.Operations

namespace ElastosRuntime.MintJournal

open Codec Contracts RecordFiles Relation

/-! ## 1. Protect states -/

/-- **The moves of a protect state.** -/
inductive RuntimeMintIntentProtectState.Moves :
    RuntimeMintIntentProtectState → RuntimeMintIntentProtectState → Prop
  | effectStarted : Moves notStarted openRequestPending
  | opened (handle) : Moves openRequestPending (openHandlePendingCancel handle)
  | finalized (handle) : Moves (openHandlePendingCancel handle) (openHandlePendingClose handle)
  | settledRequest (settlement) : Moves openRequestPending (settledBeforeDraft settlement)
  | settledOpened (handle settlement) :
    Moves (openHandlePendingCancel handle) (settledBeforeDraft settlement)
  | settledFinalized (handle settlement) :
    Moves (openHandlePendingClose handle) (settledBeforeDraft settlement)
  | completed (settlement mintId) : Moves (settledBeforeDraft settlement) (completed mintId)

namespace RuntimeMintIntentProtectState

variable {state : RuntimeMintIntentProtectState}

/-- A mint id, once recorded, never changes. -/
theorem eq_of_completed {mintId : Digest32} (h : ReflTransGen Moves (completed mintId) state) :
    state = completed mintId := by
  induction h with
  | refl => rfl
  | tail _ hmove ih =>
    subst ih
    cases hmove

/-- A settlement, once recorded, never changes. -/
theorem eq_of_settled {settlement settlement' : RuntimeMintIntentProtectSettlement}
    (h : ReflTransGen Moves (settledBeforeDraft settlement) (settledBeforeDraft settlement')) :
    settlement' = settlement := by
  rcases h.cases_head with heq | ⟨next, hmove, hrest⟩
  · cases heq
    rfl
  · cases hmove
    cases eq_of_completed hrest

end RuntimeMintIntentProtectState

section

variable [Curves]

namespace RuntimeMintIntent

open RuntimeMintIntentProtectState (Moves)

/-- A later version of an intent: in a later state, and otherwise the same. -/
def Follows (v w : RuntimeMintIntent) : Prop :=
  ∃ state, ReflTransGen Moves v.protectState state ∧ w = v.withState state

variable {u v w : RuntimeMintIntent}

theorem Follows.refl (v : RuntimeMintIntent) : v.Follows v := ⟨v.protectState, .refl, rfl⟩

theorem Follows.trans (h : u.Follows v) (h' : v.Follows w) : u.Follows w := by
  obtain ⟨state, hmoves, rfl⟩ := h
  obtain ⟨state', hmoves', rfl⟩ := h'
  exact ⟨state', hmoves.trans hmoves', rfl⟩

/-- One move, after which there is nothing left to do. -/
def Marks (change : RuntimeMintIntent → Except RuntimeMintJournalError (Option RuntimeMintIntent)) :
    Prop :=
  ∀ old v, change old = .ok (some v) →
    (∃ state, Moves old.protectState state ∧ v = old.withState state) ∧ change v = .ok none

theorem marks_effectStarted : Marks markProtectEffectStarted := by
  intro old v h
  unfold markProtectEffectStarted at h
  split at h
  · next hstate =>
    cases h
    exact ⟨⟨_, hstate ▸ .effectStarted, rfl⟩, rfl⟩
  · cases h
  · cases h

theorem marks_opened (handle : Bytes MAX_PROVIDER_OPAQUE_HANDLE_BYTES_V1) :
    Marks (markProtectOpened handle) := by
  intro old v h
  unfold markProtectOpened at h
  split at h
  · next hstate =>
    cases h
    exact ⟨⟨_, hstate ▸ .opened handle, rfl⟩, bind_eq_ok.mpr ⟨(), failIf_eq_ok.mpr
      (not_not.mpr rfl), rfl⟩⟩
  · obtain ⟨_, _, h⟩ := bind_eq_ok.mp h
    cases h
  · cases h

theorem marks_finalized (handle : Bytes MAX_PROVIDER_OPAQUE_HANDLE_BYTES_V1) :
    Marks (markProtectFinalized handle) := by
  intro old v h
  unfold markProtectFinalized at h
  split at h
  · next existing hstate =>
    obtain ⟨_, hsame, h⟩ := bind_eq_ok.mp h
    rw [failIf_eq_ok, not_not] at hsame
    subst hsame
    cases h
    exact ⟨⟨_, hstate ▸ .finalized existing, rfl⟩, bind_eq_ok.mpr ⟨(), failIf_eq_ok.mpr
      (not_not.mpr rfl), rfl⟩⟩
  · obtain ⟨_, _, h⟩ := bind_eq_ok.mp h
    cases h
  · cases h

theorem marks_terminal (settlement : RuntimeMintIntentProtectSettlement) :
    Marks (markProtectTerminalBeforeDraft settlement) := by
  intro old v h
  have hagain : ∀ old : RuntimeMintIntent, markProtectTerminalBeforeDraft settlement
      (old.withState (.settledBeforeDraft settlement)) = .ok none := fun _ =>
    bind_eq_ok.mpr ⟨(), failIf_eq_ok.mpr (not_not.mpr rfl), rfl⟩
  unfold markProtectTerminalBeforeDraft at h
  split at h
  · next hstate =>
    cases h
    exact ⟨⟨_, hstate ▸ .settledRequest settlement, rfl⟩, hagain old⟩
  · next handle hstate =>
    cases h
    exact ⟨⟨_, hstate ▸ .settledOpened handle settlement, rfl⟩, hagain old⟩
  · next handle hstate =>
    cases h
    exact ⟨⟨_, hstate ▸ .settledFinalized handle settlement, rfl⟩, hagain old⟩
  · obtain ⟨_, _, h⟩ := bind_eq_ok.mp h
    cases h
  · cases h

theorem marks_completed (mintId : Digest32) : Marks (markCompleted mintId) := by
  intro old v h
  unfold markCompleted at h
  split at h
  · next settlement hstate =>
    cases h
    exact ⟨⟨_, hstate ▸ .completed settlement mintId, rfl⟩, bind_eq_ok.mpr ⟨(), failIf_eq_ok.mpr
      (not_not.mpr rfl), rfl⟩⟩
  · obtain ⟨_, _, h⟩ := bind_eq_ok.mp h
    cases h
  · cases h

end RuntimeMintIntent

namespace IntentCall

open RuntimeMintIntent

/-- Every operation on an intent persists one, reads one, or marks one. -/
theorem access_cases (call : IntentCall) :
    (∃ intent authority, call = persistIntent intent authority) ∨
      (∃ requestId, call.access = Format.reading requestId) ∨
      ∃ requestId change, Marks change ∧ call.access = .revise requestId change := by
  cases call with
  | persistIntent intent authority => exact .inl ⟨intent, authority, rfl⟩
  | loadIntent requestId => exact .inr (.inl ⟨requestId, rfl⟩)
  | markIntentProtectEffectStarted requestId =>
    exact .inr (.inr ⟨requestId, _, marks_effectStarted, rfl⟩)
  | markIntentProtectOpened requestId handle =>
    exact .inr (.inr ⟨requestId, _, marks_opened handle, rfl⟩)
  | markIntentProtectFinalized requestId handle =>
    exact .inr (.inr ⟨requestId, _, marks_finalized handle, rfl⟩)
  | markIntentProtectCancelledBeforeDraft requestId =>
    exact .inr (.inr ⟨requestId, _, marks_terminal .cancelled, rfl⟩)
  | markIntentProtectClosedBeforeDraft requestId =>
    exact .inr (.inr ⟨requestId, _, marks_terminal .closed, rfl⟩)
  | markIntentProtectAlreadyAbsentBeforeDraft requestId =>
    exact .inr (.inr ⟨requestId, _, marks_terminal .alreadyAbsent, rfl⟩)
  | markIntentCompleted requestId mintId =>
    exact .inr (.inr ⟨requestId, _, marks_completed mintId, rfl⟩)

variable [Crypto]

theorem respects (call : IntentCall) :
    intentFormat.Respects AuthorityValid Follows call.access := by
  obtain ⟨intent, authority, rfl⟩ | ⟨requestId, haccess⟩ | ⟨requestId, change, hmarks, haccess⟩ :=
    call.access_cases
  · exact fun _ _ => authority
  · rw [haccess]
    exact Format.respects_reading requestId
  · rw [haccess]
    intro old v bytes hold hkey hchange _
    obtain ⟨⟨state, hmove, rfl⟩, _⟩ := hmarks old v hchange
    exact ⟨hkey, hold, state, .single hmove, rfl⟩

theorem repeatable (call : IntentCall) : intentFormat.Repeatable call.access := by
  obtain ⟨intent, authority, rfl⟩ | ⟨requestId, haccess⟩ | ⟨requestId, change, hmarks, haccess⟩ :=
    call.access_cases
  · exact decide_eq_true rfl
  · rw [haccess]
    intro old v _ h
    cases h
  · rw [haccess]
    intro old v hkey hchange
    obtain ⟨⟨state, _, rfl⟩, hagain⟩ := hmarks old v hchange
    exact ⟨hkey, hagain⟩

theorem unambiguous : intentFormat.Unambiguous AuthorityValid := fun _ _ _ hvalid hencode hdecode =>
  eq_of_decodeIntent hvalid hencode (readFile_eq_ok.mp hdecode).2

end IntentCall

/-! ## 2. Media preparations -/

section

omit [Curves]

/-- The states of a media preparation, with what they have brought. -/
inductive MediaPreparationStage where
  | ready
  | effectPending
  | prepared (outputReceiptDigest : Digest32)
  | failed
  | consumed (outputReceiptDigest mintId : Digest32)

/-- **The moves of a media preparation.** -/
inductive MediaPreparationStage.Moves : MediaPreparationStage → MediaPreparationStage → Prop
  | effectStarted : Moves ready effectPending
  | prepared (output) : Moves effectPending (prepared output)
  | failed : Moves effectPending failed
  | consumed (output mintId) : Moves (prepared output) (consumed output mintId)

namespace RuntimeMediaPreparationRecord

open MediaPreparationStage (Moves)

/-- The same preparation at another stage. -/
def withStage (v : RuntimeMediaPreparationRecord) :
    MediaPreparationStage → RuntimeMediaPreparationRecord
  | .ready => { v with state := .ready, outputReceiptDigest := none, consumedMintId := none }
  | .effectPending =>
    { v with state := .effectPending, outputReceiptDigest := none, consumedMintId := none }
  | .prepared output =>
    { v with state := .prepared, outputReceiptDigest := some output, consumedMintId := none }
  | .failed => { v with state := .failed, outputReceiptDigest := none, consumedMintId := none }
  | .consumed output mintId => { v with
    state := .consumed, outputReceiptDigest := some output, consumedMintId := some mintId }

variable {u v w : RuntimeMediaPreparationRecord} {stage stage' : MediaPreparationStage}

theorem withStage_withStage : (v.withStage stage).withStage stage' = v.withStage stage' := by
  cases stage <;> cases stage' <;> rfl

theorem withStage_injective (h : v.withStage stage = v.withStage stage') : stage = stage' := by
  cases stage <;> cases stage' <;> cases h <;> rfl

/-- A preparation whose state passes its check is at a stage. -/
theorem exists_stage (h : v.validateState = .ok ()) : ∃ stage, v.withStage stage = v := by
  obtain ⟨houtput, hmint⟩ := digests_of_validateState h
  obtain ⟨_, _, _, _, _, _, _, _, state, output, mintId⟩ := v
  cases state with
  | ready =>
    obtain rfl := Option.isSome_eq_false_iff.mp houtput |> Option.isNone_iff_eq_none.mp
    obtain rfl := Option.isSome_eq_false_iff.mp hmint |> Option.isNone_iff_eq_none.mp
    exact ⟨.ready, rfl⟩
  | effectPending =>
    obtain rfl := Option.isSome_eq_false_iff.mp houtput |> Option.isNone_iff_eq_none.mp
    obtain rfl := Option.isSome_eq_false_iff.mp hmint |> Option.isNone_iff_eq_none.mp
    exact ⟨.effectPending, rfl⟩
  | prepared =>
    obtain ⟨output, rfl⟩ := Option.isSome_iff_exists.mp houtput
    obtain rfl := Option.isSome_eq_false_iff.mp hmint |> Option.isNone_iff_eq_none.mp
    exact ⟨.prepared output, rfl⟩
  | failed =>
    obtain rfl := Option.isSome_eq_false_iff.mp houtput |> Option.isNone_iff_eq_none.mp
    obtain rfl := Option.isSome_eq_false_iff.mp hmint |> Option.isNone_iff_eq_none.mp
    exact ⟨.failed, rfl⟩
  | consumed =>
    obtain ⟨output, rfl⟩ := Option.isSome_iff_exists.mp houtput
    obtain ⟨mintId, rfl⟩ := Option.isSome_iff_exists.mp hmint
    exact ⟨.consumed output mintId, rfl⟩

/-- A later version of a preparation: at a later stage, and otherwise the same. -/
def Follows (v w : RuntimeMediaPreparationRecord) : Prop :=
  ∃ stage stage', v.withStage stage = v ∧ ReflTransGen Moves stage stage' ∧
    w = v.withStage stage'

theorem Follows.refl (h : v.validateState = .ok ()) : v.Follows v :=
  let ⟨stage, hstage⟩ := exists_stage h
  ⟨stage, stage, hstage, .refl, hstage.symm⟩

theorem Follows.trans (h : u.Follows v) (h' : v.Follows w) : u.Follows w := by
  obtain ⟨first, second, hfirst, hmoves, rfl⟩ := h
  obtain ⟨second', third, hsecond, hmoves', rfl⟩ := h'
  rw [withStage_withStage] at hsecond
  obtain rfl := withStage_injective hsecond
  exact ⟨first, third, hfirst, hmoves.trans hmoves', withStage_withStage⟩

/-- One move. -/
def Marks (change : RuntimeMediaPreparationRecord →
    Except RuntimeMintJournalError (Option RuntimeMediaPreparationRecord)) : Prop :=
  ∀ (v : RuntimeMediaPreparationRecord) stage w, change (v.withStage stage) = .ok (some w) →
    ∃ stage', Moves stage stage' ∧ w = v.withStage stage'

theorem marks_effectStarted : Marks markEffectStarted := by
  intro v stage w h
  cases stage <;> cases h
  exact ⟨_, .effectStarted, rfl⟩

theorem marks_prepared (output : Digest32) : Marks (markPrepared output) := by
  intro v stage w h
  cases stage with
  | ready | failed | consumed => cases h
  | effectPending =>
    cases h
    exact ⟨_, .prepared output, rfl⟩
  | prepared existing =>
    obtain ⟨_, _, h⟩ := bind_eq_ok.mp h
    cases h

theorem marks_failed : Marks markFailed := by
  intro v stage w h
  cases stage <;> cases h
  exact ⟨_, .failed, rfl⟩

theorem marks_consumed (output mintId : Digest32) : Marks (markConsumed output mintId) := by
  intro v stage w h
  cases stage with
  | ready | effectPending | failed => cases h
  | prepared existing =>
    obtain ⟨_, hsame, h⟩ := bind_eq_ok.mp h
    cases h
    exact ⟨_, .consumed existing mintId, rfl⟩
  | consumed existing existingMint =>
    obtain ⟨_, _, h⟩ := bind_eq_ok.mp h
    cases h

/-- What a mark leaves, the mark itself does not change. -/
def Settles (change : RuntimeMediaPreparationRecord →
    Except RuntimeMintJournalError (Option RuntimeMediaPreparationRecord)) : Prop :=
  ∀ (v : RuntimeMediaPreparationRecord) w, change v = .ok (some w) →
    w.requestId = v.requestId ∧ change w = .ok none

theorem settles_prepared (output : Digest32) : Settles (markPrepared output) := by
  intro v w h
  unfold markPrepared at h
  split at h
  · cases h
    exact ⟨rfl, bind_eq_ok.mpr ⟨(), failIf_eq_ok.mpr (not_not.mpr rfl), rfl⟩⟩
  · obtain ⟨_, _, h⟩ := bind_eq_ok.mp h
    cases h
  · cases h

theorem settles_failed : Settles markFailed := by
  intro v w h
  unfold markFailed at h
  split at h
  · cases h
    exact ⟨rfl, rfl⟩
  · cases h
  · cases h

theorem settles_consumed (output mintId : Digest32) : Settles (markConsumed output mintId) := by
  intro v w h
  unfold markConsumed at h
  split at h
  · obtain ⟨_, hsame, h⟩ := bind_eq_ok.mp h
    rw [failIf_eq_ok] at hsame
    cases h
    exact ⟨rfl, bind_eq_ok.mpr
      ⟨(), failIf_eq_ok.mpr (not_or.mpr ⟨hsame, not_not.mpr rfl⟩), rfl⟩⟩
  · obtain ⟨_, _, h⟩ := bind_eq_ok.mp h
    cases h
  · cases h

end RuntimeMediaPreparationRecord

namespace MediaPreparationCall

open RuntimeMediaPreparationRecord

variable [Crypto] {access : Access RuntimeMintJournalError Digest32 RuntimeMediaPreparationRecord}

variable {call : MediaPreparationCall}

omit [Crypto] in
/-- Every operation on a media preparation persists one, reads one, or marks one. -/
theorem access_cases (h : call.access = .ok access) :
    (∃ preparation, call = persistMediaPreparation preparation) ∨
      (∃ requestId, access = Format.reading requestId) ∨
      (∃ requestId change, Marks change ∧ Settles change ∧ access = .revise requestId change) ∨
      ∃ requestId, call = markMediaPreparationEffectStarted requestId := by
  cases call with
  | persistMediaPreparation preparation => exact .inl ⟨preparation, rfl⟩
  | loadMediaPreparation requestId =>
    cases h
    exact .inr (.inl ⟨requestId, rfl⟩)
  | markMediaPreparationEffectStarted requestId => exact .inr (.inr (.inr ⟨requestId, rfl⟩))
  | markMediaPreparationPrepared requestId output =>
    obtain ⟨_, _, h⟩ := bind_eq_ok.mp h
    cases h
    exact .inr (.inr (.inl ⟨requestId, _, marks_prepared output, settles_prepared output, rfl⟩))
  | markMediaPreparationFailed requestId =>
    cases h
    exact .inr (.inr (.inl ⟨requestId, _, marks_failed, settles_failed, rfl⟩))
  | markMediaPreparationConsumed requestId output mintId =>
    obtain ⟨_, _, h⟩ := bind_eq_ok.mp h
    cases h
    exact .inr (.inr (.inl
      ⟨requestId, _, marks_consumed output mintId, settles_consumed output mintId, rfl⟩))

/-- What every stored media preparation satisfies. -/
def Stored (v : RuntimeMediaPreparationRecord) : Prop := v.validate = .ok ()

variable {v : RuntimeMediaPreparationRecord}

theorem validateState_of_stored (h : Stored v) : v.validateState = .ok () := by
  obtain ⟨_, _, h⟩ := bind_eq_ok.mp h
  obtain ⟨_, _, h⟩ := bind_eq_ok.mp h
  obtain ⟨_, _, h⟩ := bind_eq_ok.mp h
  obtain ⟨⟨⟩, _, h⟩ := bind_eq_ok.mp h
  exact h

theorem stored_of_encode {bytes : List UInt8} (h : encodeMediaPreparation v = .ok bytes) :
    Stored v :=
  let ⟨⟨⟩, hvalid, _⟩ := bind_eq_ok.mp h
  hvalid

theorem respects_marks {change : RuntimeMediaPreparationRecord →
    Except RuntimeMintJournalError (Option RuntimeMediaPreparationRecord)} (h : Marks change)
    (requestId : Digest32) :
    mediaPreparationFormat.Respects Stored Follows (.revise requestId change) := by
  intro old v bytes hold hkey hchange hencode
  obtain ⟨stage, hstage⟩ := exists_stage (validateState_of_stored hold)
  rw [← hstage] at hchange
  obtain ⟨stage', hmove, rfl⟩ := h old stage v hchange
  refine ⟨?_, stored_of_encode hencode, stage, stage', hstage, .single hmove, rfl⟩
  cases stage' <;> exact hkey

theorem respects (h : call.access = .ok access) :
    mediaPreparationFormat.Respects Stored Follows access := by
  obtain ⟨preparation, rfl⟩ | ⟨requestId, rfl⟩ | ⟨requestId, change, hmarks, _, rfl⟩ |
    ⟨requestId, rfl⟩ := access_cases h
  · cases h
    exact fun _ => stored_of_encode
  · exact Format.respects_reading requestId
  · exact respects_marks hmarks requestId
  · cases h
    exact respects_marks marks_effectStarted requestId

theorem repeatable (h : call.access = .ok access)
    (hcall : ∀ requestId, call ≠ markMediaPreparationEffectStarted requestId) :
    mediaPreparationFormat.Repeatable access := by
  obtain ⟨preparation, rfl⟩ | ⟨requestId, rfl⟩ | ⟨requestId, change, hmarks, hsettles, rfl⟩ |
    ⟨requestId, rfl⟩ := access_cases h
  · cases h
    exact decide_eq_true rfl
  · intro old v _ h
    cases h
  · intro old v hkey hchange
    obtain ⟨hsame, hagain⟩ := hsettles old v hchange
    exact ⟨hsame.trans hkey, hagain⟩
  · exact absurd rfl (hcall requestId)

theorem unambiguous : mediaPreparationFormat.Unambiguous Stored := by
  intro bytes v w _ hencode hdecode
  exact Except.ok.inj (hdecode.symm.trans (mediaPreparationFormat_decode hencode))

end MediaPreparationCall

end

/-! ## 3. Runs -/

section

variable [Crypto] [CreatorJson]

namespace RuntimeMintJournal

variable {J J' : RuntimeMintJournal} {labels : List JournalLabel}

/-- What one call does to the intents. -/
theorem intents_step {label : JournalLabel}
    (hkeeps : intentFormat.Keeps RuntimeMintIntent.AuthorityValid J.intents)
    (h : step J label = some J') :
    intentFormat.Keeps RuntimeMintIntent.AuthorityValid J'.intents ∧
      intentFormat.Evolves RuntimeMintIntent.Follows J.intents J'.intents := by
  cases label with
  | intent call fate =>
    cases h
    exact call.respects.call IntentCall.unambiguous hkeeps
  | record call fate =>
    cases h
    exact ⟨hkeeps, .refl _⟩
  | mediaPreparation call fate =>
    cases h
    unfold callMediaPreparation
    split <;> exact ⟨hkeeps, .refl _⟩

theorem intents_run (hkeeps : intentFormat.Keeps RuntimeMintIntent.AuthorityValid J.intents)
    (h : Transition.run step J labels = some J') :
    intentFormat.Keeps RuntimeMintIntent.AuthorityValid J'.intents ∧
      intentFormat.Evolves RuntimeMintIntent.Follows J.intents J'.intents :=
  Format.run_evolves (fun _ _ _ => .trans) (fun _ _ _ => intents_step) hkeeps h

/-- What one call does to the media preparations. -/
theorem mediaPreparations_step {label : JournalLabel}
    (hkeeps : mediaPreparationFormat.Keeps MediaPreparationCall.Stored J.mediaPreparations)
    (h : step J label = some J') :
    mediaPreparationFormat.Keeps MediaPreparationCall.Stored J'.mediaPreparations ∧
      mediaPreparationFormat.Evolves RuntimeMediaPreparationRecord.Follows J.mediaPreparations
        J'.mediaPreparations := by
  cases label with
  | mediaPreparation call fate =>
    cases h
    unfold callMediaPreparation
    split
    · exact ⟨hkeeps, .refl _⟩
    · next access haccess =>
      exact (MediaPreparationCall.respects haccess).call MediaPreparationCall.unambiguous hkeeps
  | record call fate =>
    cases h
    exact ⟨hkeeps, .refl _⟩
  | intent call fate =>
    cases h
    exact ⟨hkeeps, .refl _⟩

theorem mediaPreparations_run
    (hkeeps : mediaPreparationFormat.Keeps MediaPreparationCall.Stored J.mediaPreparations)
    (h : Transition.run step J labels = some J') :
    mediaPreparationFormat.Keeps MediaPreparationCall.Stored J'.mediaPreparations ∧
      mediaPreparationFormat.Evolves RuntimeMediaPreparationRecord.Follows J.mediaPreparations
        J'.mediaPreparations :=
  Format.run_evolves (fun _ _ _ => .trans) (fun _ _ _ => mediaPreparations_step) hkeeps h

theorem Reachable.intents (hJ : J.Reachable) :
    intentFormat.Keeps RuntimeMintIntent.AuthorityValid J.intents := by
  obtain ⟨_, labels, rfl, hrun⟩ := hJ
  exact (intents_run Format.keeps_empty hrun).1

theorem Reachable.mediaPreparations (hJ : J.Reachable) :
    mediaPreparationFormat.Keeps MediaPreparationCall.Stored J.mediaPreparations := by
  obtain ⟨_, labels, rfl, hrun⟩ := hJ
  exact (mediaPreparations_run Format.keeps_empty hrun).1

/-! ## 4. What a result says about later ones -/

omit [CreatorJson] in
theorem loadIntent_eq {requestId : Digest32} : J.callIntent (.loadIntent requestId) .completed =
    (intentFormat.read J.intents requestId, J) := by
  simp only [callIntent, IntentCall.access, Format.call_reading]

variable {call : MediaPreparationCall} {fate : Fate}

omit [Curves] [CreatorJson] in
theorem callMediaPreparation_eq
    {access : Access RuntimeMintJournalError Digest32 RuntimeMediaPreparationRecord}
    {result : Except RuntimeMintJournalError RuntimeMediaPreparationRecord} {t : Files Digest32}
    (haccess : call.access = .ok access)
    (h : mediaPreparationFormat.call J.mediaPreparations access fate = (result, t)) :
    J.callMediaPreparation call fate = (result, { J with mediaPreparations := t }) := by
  simp only [callMediaPreparation, haccess, h]

omit [Curves] [CreatorJson] in
theorem loadMediaPreparation_eq {requestId : Digest32} :
    J.callMediaPreparation (.loadMediaPreparation requestId) .completed =
      (mediaPreparationFormat.read J.mediaPreparations requestId, J) := by
  simp only [callMediaPreparation, MediaPreparationCall.access, Format.call_reading]

/-- What it says of a later journal that `call` has returned the intent `v`: every result for this
intent follows, and while the intent is `v` the call can be repeated. -/
structure IntentResult (J : RuntimeMintJournal) (call : IntentCall) (v : RuntimeMintIntent) :
    Prop where
  follows : ∀ call' fate w, (J.callIntent call' fate).1 = .ok w → w.requestId = v.requestId →
    v.Follows w
  settlement : ∀ call' fate w settlement settlement', (J.callIntent call' fate).1 = .ok w →
    w.requestId = v.requestId → v.protectState = .settledBeforeDraft settlement →
    w.protectState = .settledBeforeDraft settlement' → settlement' = settlement
  mintId : ∀ call' fate w mintId, (J.callIntent call' fate).1 = .ok w →
    w.requestId = v.requestId → v.protectState = .completed mintId → w = v
  again : (J.callIntent (.loadIntent v.requestId) .completed).1 = .ok v →
    J.callIntent call .completed = (.ok v, J)

/-- The same of a media preparation, but for the one call that is not repeated. -/
structure MediaPreparationResult (J : RuntimeMintJournal) (call : MediaPreparationCall)
    (v : RuntimeMediaPreparationRecord) : Prop where
  follows : ∀ call' fate w, (J.callMediaPreparation call' fate).1 = .ok w →
    w.requestId = v.requestId → v.Follows w
  again : (∀ requestId, call ≠ .markMediaPreparationEffectStarted requestId) →
    (J.callMediaPreparation (.loadMediaPreparation v.requestId) .completed).1 = .ok v →
    J.callMediaPreparation call .completed = (.ok v, J)

/-- What is not repeated: the effect of a media preparation is started once, and what has moved on
is not persisted as it was. -/
structure RefusesStale (J : RuntimeMintJournal) : Prop where
  effectStarted : ∀ requestId v,
    (J.callMediaPreparation (.loadMediaPreparation requestId) .completed).1 = .ok v →
    v.state ≠ .ready →
    J.callMediaPreparation (.markMediaPreparationEffectStarted requestId) .completed =
      (.error .conflict, J)
  mediaPreparation : ∀ v w,
    (J.callMediaPreparation (.loadMediaPreparation v.requestId) .completed).1 = .ok w →
    w ≠ v → J.callMediaPreparation (.persistMediaPreparation v) .completed = (.error .conflict, J)
  intent : ∀ (v : RuntimeMintIntent) (authority : v.AuthorityValid) w,
    (J.callIntent (.loadIntent v.requestId) .completed).1 = .ok w → w ≠ v →
    J.callIntent (.persistIntent v authority) .completed = (.error .conflict, J)

theorem intentResult (hJ : J.Reachable) {call : IntentCall} {v : RuntimeMintIntent}
    (hv : (J.callIntent call fate).1 = .ok v)
    (hrun : Transition.run step (J.callIntent call fate).2 labels = some J') :
    J'.IntentResult call v := by
  have hkeeps := hJ.intents
  have hafter : intentFormat.Keeps RuntimeMintIntent.AuthorityValid
      (J.callIntent call fate).2.intents :=
    (call.respects.call IntentCall.unambiguous hkeeps).1
  obtain ⟨hkeeps', hevolves⟩ := intents_run hafter hrun
  have hfollows : ∀ call' fate' w, (J'.callIntent call' fate').1 = .ok w →
      w.requestId = v.requestId → v.Follows w := by
    intro call' fate' w hw hkey
    exact call.respects.results call'.respects IntentCall.unambiguous (fun v _ => .refl v)
      (fun _ _ _ => .trans) hkeeps hkeeps' hevolves hv hw hkey
  exact {
    follows := hfollows
    settlement := by
      intro call' fate' w settlement settlement' hw hkey hstate hstate'
      obtain ⟨state, hmoves, rfl⟩ := hfollows call' fate' w hw hkey
      obtain rfl : state = .settledBeforeDraft settlement' := hstate'
      rw [hstate] at hmoves
      exact RuntimeMintIntentProtectState.eq_of_settled hmoves
    mintId := by
      intro call' fate' w mintId hw hkey hstate
      obtain ⟨state, hmoves, rfl⟩ := hfollows call' fate' w hw hkey
      rw [hstate] at hmoves
      rw [RuntimeMintIntentProtectState.eq_of_completed hmoves, ← hstate]
      rfl
    again := by
      intro hload
      rw [loadIntent_eq] at hload
      have hagain := call.repeatable.call_again hv hload
      simp only [callIntent, hagain] }

theorem mediaPreparationResult (hJ : J.Reachable) {v : RuntimeMediaPreparationRecord}
    (hv : (J.callMediaPreparation call fate).1 = .ok v)
    (hrun : Transition.run step (J.callMediaPreparation call fate).2 labels = some J') :
    J'.MediaPreparationResult call v := by
  have hkeeps := hJ.mediaPreparations
  cases haccess : call.access with
  | error e =>
    simp only [callMediaPreparation, haccess] at hv
    cases hv
  | ok access =>
    simp only [callMediaPreparation, haccess] at hv hrun
    have hrespects := MediaPreparationCall.respects haccess
    have hafter : mediaPreparationFormat.Keeps MediaPreparationCall.Stored
        (mediaPreparationFormat.call J.mediaPreparations access fate).2 :=
      (hrespects.call MediaPreparationCall.unambiguous hkeeps).1
    obtain ⟨hkeeps', hevolves⟩ := mediaPreparations_run hafter hrun
    exact {
      follows := by
        intro call' fate' w hw hkey
        cases haccess' : call'.access with
        | error e =>
          simp only [callMediaPreparation, haccess'] at hw
          cases hw
        | ok access' =>
          simp only [callMediaPreparation, haccess'] at hw
          exact hrespects.results (MediaPreparationCall.respects haccess')
            MediaPreparationCall.unambiguous
            (fun v hv => .refl (MediaPreparationCall.validateState_of_stored hv))
            (fun _ _ _ => .trans) hkeeps hkeeps' hevolves hv hw hkey
      again := by
        intro hcall hload
        rw [loadMediaPreparation_eq] at hload
        have hagain := (MediaPreparationCall.repeatable haccess hcall).call_again hv hload
        simp only [callMediaPreparation, haccess, hagain] }

omit [CreatorJson] in
theorem refusesStale (J : RuntimeMintJournal) : J.RefusesStale where
  effectStarted := by
    intro requestId v hload hstate
    rw [loadMediaPreparation_eq] at hload
    have hchange : v.markEffectStarted = .error .conflict := by
      unfold RuntimeMediaPreparationRecord.markEffectStarted
      split
      · next hready => exact absurd hready hstate
      · rfl
    simp only [callMediaPreparation, MediaPreparationCall.access,
      Format.call_of_error (Format.plan_revise_of_error hload hchange)]
  mediaPreparation := by
    intro v w hload hne
    rw [loadMediaPreparation_eq] at hload
    have hplan : mediaPreparationFormat.plan J.mediaPreparations
        (.persist v (fun existing => decide (existing = v)) .conflict) = .error .conflict :=
      Format.plan_persist_of_read hload (decide_eq_false hne)
    simp only [callMediaPreparation, MediaPreparationCall.access, Format.call_of_error hplan]
  intent := by
    intro v authority w hload hne
    rw [loadIntent_eq] at hload
    have hplan : intentFormat.plan J.intents (IntentCall.persistIntent v authority).access =
        .error .conflict := Format.plan_persist_of_read hload (decide_eq_false hne)
    simp only [callIntent, Format.call_of_error hplan]

/-- **The life cycles of intents and media preparations.**  In any later journal, what a call has
returned is followed by all other results for that record, and while it stands the call can be
repeated; only the start of an effect cannot, nor a persist after the record has moved on. -/
theorem life_cycles (hJ : J.Reachable) : J.RefusesStale ∧
    (∀ call fate v labels J', (J.callIntent call fate).1 = .ok v →
      Transition.run step (J.callIntent call fate).2 labels = some J' → J'.IntentResult call v) ∧
    ∀ call fate v labels J', (J.callMediaPreparation call fate).1 = .ok v →
      Transition.run step (J.callMediaPreparation call fate).2 labels = some J' →
      J'.MediaPreparationResult call v :=
  ⟨J.refusesStale, fun _ _ _ _ _ hv hrun => intentResult hJ hv hrun,
    fun _ _ _ _ _ hv hrun => mediaPreparationResult hJ hv hrun⟩

end RuntimeMintJournal

end

end

/-! ## 5. A preparation that is started twice -/

section

attribute [local instance] acceptingCurves tailEchoCrypto canonicalCreatorJson

def sampleDigest (seed : UInt8) : Digest32 := (seedKey "" seed).value

def sampleAddress : String := "0x0000000000000000000000000000000000000001"

def samplePreparation : RuntimeMediaPreparationRecord where
  requestId := sampleDigest 1
  sourceBindingDigest := sampleDigest 2
  sourceObjectDigest := sampleDigest 3
  operationId := computeMediaPreparationOperationId (sampleDigest 1) (sampleDigest 3) "ffmpeg"
  providerId := "ffmpeg"
  creatorWalletAccountId := "account"
  creatorWalletAddress := sampleAddress
  creatorMintSourceDigest := sampleDigest 4
  state := .ready
  outputReceiptDigest := none
  consumedMintId := none

theorem samplePreparation_valid (stage : MediaPreparationStage) :
    (samplePreparation.withStage stage).validate = .ok () := by
  have hstate : (samplePreparation.withStage stage).validateState = .ok () := by
    cases stage <;> rfl
  have hauthority : (samplePreparation.withStage stage).validate = (do
      samplePreparation.validate
      (samplePreparation.withStage stage).validateState) := by
    cases stage <;> rfl
  have hsample : samplePreparation.validate = .ok () :=
    bind_eq_ok.mpr ⟨(), by decide, bind_eq_ok.mpr ⟨(), by decide, bind_eq_ok.mpr
      ⟨(), by decide, bind_eq_ok.mpr ⟨(), by decide, rfl⟩⟩⟩⟩
  rw [hauthority, hsample, hstate]
  rfl

def sampleStarted : RuntimeMediaPreparationRecord := samplePreparation.withStage .effectPending

theorem sampleStarted_run : ∃ J J' : RuntimeMintJournal,
    RuntimeMintJournal.empty.callMediaPreparation (.persistMediaPreparation samplePreparation)
        .completed = (.ok samplePreparation, J) ∧
      J.callMediaPreparation (.markMediaPreparationEffectStarted samplePreparation.requestId)
        .completed = (.ok sampleStarted, J') ∧
      J'.callMediaPreparation (.loadMediaPreparation samplePreparation.requestId) .completed =
        (.ok sampleStarted, J') := by
  obtain ⟨bytes, hbytes⟩ := exists_encodeMediaPreparation (samplePreparation_valid .ready)
  obtain ⟨bytes', hbytes'⟩ := exists_encodeMediaPreparation (samplePreparation_valid .effectPending)
  have hread : mediaPreparationFormat.read (AList.insert samplePreparation.requestId bytes ∅)
      samplePreparation.requestId = .ok samplePreparation :=
    Format.read_insert_self (mediaPreparationFormat_decode hbytes)
  have hread' : mediaPreparationFormat.read (AList.insert samplePreparation.requestId bytes'
      (AList.insert samplePreparation.requestId bytes ∅)) samplePreparation.requestId =
        .ok sampleStarted :=
    Format.read_insert_self (mediaPreparationFormat_decode hbytes')
  refine ⟨⟨∅, ∅, AList.insert samplePreparation.requestId bytes ∅⟩, ⟨∅, ∅, AList.insert
    samplePreparation.requestId bytes' (AList.insert samplePreparation.requestId bytes ∅)⟩,
    ?_, ?_, ?_⟩
  · exact RuntimeMintJournal.callMediaPreparation_eq rfl
      (Format.call_persist (AList.lookup_empty _) hbytes)
  · exact RuntimeMintJournal.callMediaPreparation_eq rfl (Format.call_revise hread rfl hbytes')
  · rw [RuntimeMintJournal.loadMediaPreparation_eq, hread']

theorem RuntimeMintJournal.empty_reachable : RuntimeMintJournal.empty.Reachable :=
  ⟨_, [], rfl, rfl⟩

/-- The life cycles of the sample: what follows its first record, and that the record can be
persisted once more while it stands. -/
theorem life_cycles_sample : ∃ J J' : RuntimeMintJournal,
    J.MediaPreparationResult (.persistMediaPreparation samplePreparation) samplePreparation ∧
      J'.MediaPreparationResult (.persistMediaPreparation samplePreparation) samplePreparation ∧
      (J'.callMediaPreparation (.loadMediaPreparation samplePreparation.requestId)
        .completed).1 = .ok sampleStarted := by
  obtain ⟨J, J', hpersist, hmark, hload⟩ := sampleStarted_run
  have hlife := (RuntimeMintJournal.life_cycles RuntimeMintJournal.empty_reachable).2.2
    (.persistMediaPreparation samplePreparation) .completed samplePreparation
  rw [hpersist] at hlife
  refine ⟨J, J', hlife [] J rfl rfl, hlife [.mediaPreparation
    (.markMediaPreparationEffectStarted samplePreparation.requestId) .completed] J' rfl ?_, ?_⟩
  · rw [Transition.run_cons_eq_some]
    exact ⟨J', by rw [RuntimeMintJournal.step, hmark], rfl⟩
  · rw [hload]

/-- **An effect is not started again, nor a record that has moved on persisted again**, although
the record is in the state that the call led to and its authority is the one it was made with. -/
theorem repeated_start_conflicts : ∃ J J' : RuntimeMintJournal, J.Reachable ∧
    J.callMediaPreparation (.markMediaPreparationEffectStarted samplePreparation.requestId)
        .completed = (.ok sampleStarted, J') ∧
      J'.callMediaPreparation (.loadMediaPreparation samplePreparation.requestId) .completed =
        (.ok sampleStarted, J') ∧
      J'.callMediaPreparation (.markMediaPreparationEffectStarted samplePreparation.requestId)
        .completed = (.error .conflict, J') ∧
      samplePreparation.sameAuthorityAs sampleStarted ∧
      J'.callMediaPreparation (.persistMediaPreparation samplePreparation) .completed =
        (.error .conflict, J') := by
  obtain ⟨J, J', hpersist, hmark, hload⟩ := sampleStarted_run
  have hloaded : (J'.callMediaPreparation (.loadMediaPreparation samplePreparation.requestId)
      .completed).1 = .ok sampleStarted := by rw [hload]
  refine ⟨J, J', ⟨_, [.mediaPreparation (.persistMediaPreparation samplePreparation) .completed],
    rfl, ?_⟩, hmark, hload, ?_, rfl, ?_⟩
  · rw [Transition.run_cons_eq_some]
    exact ⟨J, by rw [RuntimeMintJournal.step, hpersist], rfl⟩
  · exact J'.refusesStale.effectStarted _ _ hloaded (by decide)
  · exact J'.refusesStale.mediaPreparation _ _ hloaded (by decide)

end

end ElastosRuntime.MintJournal
