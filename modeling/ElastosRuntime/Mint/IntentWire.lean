/-
# The files of intents and media preparations

An intent is written without any of the checks its reader makes, so the two do not agree on every
intent: `decodeIntent_encodeIntent` says exactly what the reader makes of the writer's file.  What
all intents have in common is that the authority they were made with passed its check; the state
the journal has put them in need not.  How long the file is depends on the texts, the number of
clear segments and the state, and on nothing else (`length_encodeIntent`).

A media preparation is checked before it is written and again when it is read.
-/
import ElastosRuntime.Mint.Wire

namespace ElastosRuntime.MintJournal

open Codec Contracts

/-! ## 1. Protect states -/

/-- The length of an identity is that of its domain and 37 bytes more. -/
theorem encodes_identity {spec : IdentitySpec} {v : SizedIdentity spec} {n : Nat}
    (h : v.validate = .ok ()) (hn : (domainHeader spec.domain).length + 36 = n) : Encodes v n :=
  .of_emits h ((emits_fixed v.sha256).bind (emits_u32 v.bytes)) hn

namespace RuntimeMintIntentProtectState

def push : RuntimeMintIntentProtectState → Writer Unit
  | notStarted => put (beBytes 1 0)
  | openRequestPending => put (beBytes 1 1)
  | openHandlePendingCancel handle => do
    put (beBytes 1 2)
    put handle.toList
  | openHandlePendingClose handle => do
    put (beBytes 1 3)
    put handle.toList
  | settledBeforeDraft .cancelled => put (beBytes 1 4)
  | settledBeforeDraft .closed => put (beBytes 1 5)
  | settledBeforeDraft .alreadyAbsent => put (beBytes 1 6)
  | completed mintId => do
    put (beBytes 1 7)
    put mintId.toList

/-- What follows the tag of a state. -/
def readAfter : Nat → Reader RuntimeMintIntentProtectState
  | 0 => pure notStarted
  | 1 => pure openRequestPending
  | 2 => do
    let handle ← takeBytes .corrupt 32
    pure (openHandlePendingCancel handle)
  | 3 => do
    let handle ← takeBytes .corrupt 32
    pure (openHandlePendingClose handle)
  | 4 => pure (settledBeforeDraft .cancelled)
  | 5 => pure (settledBeforeDraft .closed)
  | 6 => pure (settledBeforeDraft .alreadyAbsent)
  | 7 => do
    let mintId ← takeBytes .corrupt 32
    pure (completed mintId)
  | _ => liftM (Except.error .corrupt : Except RuntimeMintJournalError _)

def read : Reader RuntimeMintIntentProtectState := do
  let tag ← takeNat .corrupt 1
  readAfter tag

/-- The length of a state in a file. -/
def fileBytes : RuntimeMintIntentProtectState → Nat
  | openHandlePendingCancel _ | openHandlePendingClose _ | completed _ => 33
  | _ => 1

/-- A tag with nothing behind it. -/
theorem mirrors_tag {n : Nat} {v : RuntimeMintIntentProtectState} (hn : n < 256)
    (h : readAfter n = pure v) : Mirrors (put (beBytes 1 n)) read v := by
  have htag : Mirrors (put (beBytes 1 n)) (takeNat RuntimeMintJournalError.corrupt 1) n :=
    .takeNat _ hn
  intro out out' hw
  obtain ⟨bs, hbs, hr⟩ := htag out out' hw
  refine ⟨bs, hbs, fun rest => run_bind_eq_ok.mpr ⟨n, rest, hr rest, ?_⟩⟩
  rw [h]
  rfl

theorem mirrors (v : RuntimeMintIntentProtectState) : Mirrors v.push read v := by
  match v with
  | notStarted => exact mirrors_tag (by decide) rfl
  | openRequestPending => exact mirrors_tag (by decide) rfl
  | openHandlePendingCancel handle =>
    exact (Mirrors.takeNat _ (by decide)).bind
      ((Mirrors.takeBytes _ handle).map openHandlePendingCancel)
  | openHandlePendingClose handle =>
    exact (Mirrors.takeNat _ (by decide)).bind
      ((Mirrors.takeBytes _ handle).map openHandlePendingClose)
  | settledBeforeDraft .cancelled => exact mirrors_tag (by decide) rfl
  | settledBeforeDraft .closed => exact mirrors_tag (by decide) rfl
  | settledBeforeDraft .alreadyAbsent => exact mirrors_tag (by decide) rfl
  | completed mintId =>
    exact (Mirrors.takeNat _ (by decide)).bind ((Mirrors.takeBytes _ mintId).map completed)

theorem emits (v : RuntimeMintIntentProtectState) : Emits v.push v.fileBytes := by
  match v with
  | notStarted => exact emits_number 1 0
  | openRequestPending => exact emits_number 1 1
  | openHandlePendingCancel handle => exact (emits_number 1 2).bind (emits_array handle)
  | openHandlePendingClose handle => exact (emits_number 1 3).bind (emits_array handle)
  | settledBeforeDraft .cancelled => exact emits_number 1 4
  | settledBeforeDraft .closed => exact emits_number 1 5
  | settledBeforeDraft .alreadyAbsent => exact emits_number 1 6
  | completed mintId => exact (emits_number 1 7).bind (emits_array mintId)

end RuntimeMintIntentProtectState

/-! ## 2. Intents -/

variable [Curves]

namespace RuntimeMintIntent

def push (v : RuntimeMintIntent) : Writer Unit := do
  put v.requestId.toList
  pushAvailabilityText v.principalId
  put v.sourceBindingDigest.toList
  pushAvailabilityText v.creatorWalletAccountId
  pushAvailabilityText v.creatorWalletAddress
  put v.creatorMintSourceDigest.toList
  pushAvailabilityText v.mimeType
  pushAvailabilityText v.codecs
  put v.clearInitSha256.toList
  failIf (4294967295 < v.clearSegmentSha256.length) RuntimeMintJournalError.corrupt
  put (beBytes 4 v.clearSegmentSha256.length)
  v.clearSegmentSha256.forM fun digest => put digest.toList
  put v.contentAccessId.value.toList
  v.protectState.push
  pushDocument v.custodyPool
  pushDocument v.custodyEpoch
  pushDocument v.custodyCommitteeAuthorization
  failIf (255 < v.nodes.length) RuntimeMintJournalError.corrupt
  put (beBytes 1 v.nodes.length)
  v.nodes.forM RuntimeMintNodeBinding.push

def read : Reader RuntimeMintIntent := do
  let requestId ← takeBytes .corrupt 32
  let principalId ← readAvailabilityText
  let sourceBindingDigest ← takeBytes .corrupt 32
  let creatorWalletAccountId ← readAvailabilityText
  let creatorWalletAddress ← readAvailabilityText
  let creatorMintSourceDigest ← takeBytes .corrupt 32
  let mimeType ← readAvailabilityText
  let codecs ← readAvailabilityText
  let clearInitSha256 ← takeBytes .corrupt 32
  let clearSegmentCount ← takeNat .corrupt 4
  let clearSegmentSha256 ← many (takeBytes .corrupt 32) clearSegmentCount
  let contentAccessId ← takeBytes .corrupt 16
  let contentAccessId ← orCorrupt (ContentAccessIdV1.new contentAccessId)
  let protectState ← RuntimeMintIntentProtectState.read
  let custodyPool ← readDocument
  let custodyEpoch ← readDocument
  let custodyCommitteeAuthorization ← readDocument
  let nodeCount ← takeNat .corrupt 1
  let nodes ← many RuntimeMintNodeBinding.read nodeCount
  pure {
    requestId, principalId, sourceBindingDigest, creatorWalletAccountId, creatorWalletAddress,
    creatorMintSourceDigest, mimeType, codecs, clearInitSha256, clearSegmentSha256,
    contentAccessId, protectState, custodyPool, custodyEpoch, custodyCommitteeAuthorization,
    nodes }

/-- What every intent satisfies: whatever state it is in, it was made with an authority that passed
the check. -/
def AuthorityValid (v : RuntimeMintIntent) : Prop := (v.withState .notStarted).validate = .ok ()

/-- The length of its file. -/
def fileBytes (v : RuntimeMintIntent) : Nat :=
  876 + (utf8Bytes v.principalId).length + (utf8Bytes v.creatorWalletAccountId).length +
    (utf8Bytes v.creatorWalletAddress).length + (utf8Bytes v.mimeType).length +
    (utf8Bytes v.codecs).length + v.clearSegmentSha256.length * 32 + v.protectState.fileBytes

/-- What the check of an authority has established. -/
structure Authority (v : RuntimeMintIntent) : Prop where
  principalId : validateIntentText v.principalId = .ok ()
  creatorWalletAccountId : validateIntentText v.creatorWalletAccountId = .ok ()
  creatorWalletAddress : validateIntentEvmAddress v.creatorWalletAddress = .ok ()
  mimeType : validateIntentText v.mimeType = .ok ()
  codecs : validateIntentText v.codecs = .ok ()
  nodes : v.nodes.length = 3
  custodyPool : v.custodyPool.validate = .ok ()
  custodyEpoch : v.custodyEpoch.validate = .ok ()
  custodyCommitteeAuthorization : v.custodyCommitteeAuthorization.validate = .ok ()
  validate_eq : v.validate = validateProtectState v.protectState

variable {v : RuntimeMintIntent}

theorem AuthorityValid.authority (h : v.AuthorityValid) : v.Authority := by
  dsimp only [AuthorityValid, validate, withState] at h
  obtain ⟨⟨⟩, hprincipal, h⟩ := bind_eq_ok.mp h
  obtain ⟨⟨⟩, haccount, h⟩ := bind_eq_ok.mp h
  obtain ⟨⟨⟩, haddress, h⟩ := bind_eq_ok.mp h
  obtain ⟨⟨⟩, hmime, h⟩ := bind_eq_ok.mp h
  obtain ⟨⟨⟩, hcodecs, h⟩ := bind_eq_ok.mp h
  obtain ⟨⟨⟩, hfields, h⟩ := bind_eq_ok.mp h
  obtain ⟨⟨⟩, _, h⟩ := bind_eq_ok.mp h
  obtain ⟨⟨⟩, hpool, h⟩ := bind_eq_ok.mp h
  obtain ⟨⟨⟩, hepoch, h⟩ := bind_eq_ok.mp h
  obtain ⟨⟨⟩, hcommittee, h⟩ := bind_eq_ok.mp h
  obtain ⟨⟨⟩, hsegments, hdistinct⟩ := bind_eq_ok.mp h
  have hvalidate : v.validate = validateProtectState v.protectState := by
    -- every other check is one of these, whatever the state
    rw [validate, hprincipal, haccount, haddress, hmime, hcodecs, hfields, hpool, hepoch, hcommittee,
      hsegments, hdistinct]
    cases validateProtectState v.protectState with
    | error e => rfl
    | ok u => rfl
  rw [failIf_eq_ok, not_or, not_or, not_or, not_or, not_or] at hfields
  rw [orInvalidSelection_eq_ok] at hpool hepoch hcommittee
  exact {
    principalId := hprincipal
    creatorWalletAccountId := haccount
    creatorWalletAddress := haddress
    mimeType := hmime
    codecs := hcodecs
    nodes := not_not.mp hfields.2.2.2.2.2
    custodyPool := valid_of_requireCanonical hpool
    custodyEpoch := valid_of_requireCanonical hepoch
    custodyCommitteeAuthorization := valid_of_requireCanonical hcommittee
    validate_eq := hvalidate }

omit [Curves] in
theorem text_of_evmAddress {value : String} (h : validateIntentEvmAddress value = .ok ()) :
    validateIntentText value = .ok () :=
  let ⟨⟨⟩, htext, _⟩ := bind_eq_ok.mp h
  htext

/-- An intent with fewer than 2^32 clear segments is written, and how long its file gets. -/
theorem emits (h : v.AuthorityValid) (hsegments : v.clearSegmentSha256.length ≤ 4294967295) :
    Emits v.push (v.fileBytes - 40) := by
  have ha := h.authority
  have hlist : Emits (v.clearSegmentSha256.forM fun digest => put digest.toList : Writer Unit)
      (v.clearSegmentSha256.length * 32) := Emits.forM fun digest _ => emits_array digest
  have hnodes : Emits (v.nodes.forM RuntimeMintNodeBinding.push) (v.nodes.length * 128) :=
    Emits.forM fun node _ => (emits_array _).bind <| (emits_array _).bind <|
      (emits_array _).bind (emits_array _)
  have hfew : ¬255 < v.nodes.length := by
    rw [ha.nodes]
    decide
  have hfields : Emits v.push _ := (emits_array _).bind <| (emits_text ha.principalId).bind <|
    (emits_array _).bind <| (emits_text ha.creatorWalletAccountId).bind <|
    (emits_text (text_of_evmAddress ha.creatorWalletAddress)).bind <| (emits_array _).bind <|
    (emits_text ha.mimeType).bind <| (emits_text ha.codecs).bind <| (emits_array _).bind <|
    .given (b := ()) (failIf_eq_ok.mpr (Nat.not_lt.mpr hsegments)) <| (emits_number 4 _).bind <|
    hlist.bind <| (emits_array _).bind <| v.protectState.emits.bind <|
    (emits_document (encodes_identity ha.custodyPool (n := 87) (by decide)) (by decide)).bind <|
    (emits_document (encodes_identity ha.custodyEpoch (n := 88) (by decide)) (by decide)).bind <|
    (emits_document (encodes_identity ha.custodyCommitteeAuthorization (n := 106) (by decide))
      (by decide)).bind <|
    .given (b := ()) (failIf_eq_ok.mpr hfew) <| (emits_number 1 _).bind hnodes
  rw [ha.nodes] at hfields
  convert hfields using 1
  rw [fileBytes]
  omega

theorem mirrors (h : v.AuthorityValid) : Mirrors v.push read v := by
  have ha := h.authority
  have hnodes : v.nodes.length < 256 ^ 1 := by
    rw [ha.nodes]
    decide
  refine (Mirrors.takeBytes _ _).bind <| (mirrors_text ha.principalId).bind <|
    (Mirrors.takeBytes _ _).bind <| (mirrors_text ha.creatorWalletAccountId).bind <|
    (mirrors_text (text_of_evmAddress ha.creatorWalletAddress)).bind <|
    (Mirrors.takeBytes _ _).bind <| (mirrors_text ha.mimeType).bind <|
    (mirrors_text ha.codecs).bind <| (Mirrors.takeBytes _ _).bind <| .given fun _ hcount =>
    (Mirrors.takeNat _ ?_).bind <| (Mirrors.forM fun digest _ => .takeBytes _ digest).bind <|
    (Mirrors.takeBytes _ _).check (orCorrupt_eq_ok.mpr v.contentAccessId.new_value) <|
    v.protectState.mirrors.bind <| (mirrors_document _).bind <| (mirrors_document _).bind <|
    (mirrors_document _).bind <| .given fun _ _ => (Mirrors.takeNat _ hnodes).bind ?_
  · exact Nat.lt_succ_of_le (Nat.le_of_not_lt (failIf_eq_ok.mp hcount))
  · exact (Mirrors.forM fun node _ => RuntimeMintNodeBinding.mirrors node).map fun nodes =>
      { v with nodes }

end RuntimeMintIntent

section

variable [Crypto]

def encodeIntent (intent : RuntimeMintIntent) : Except RuntimeMintJournalError (List UInt8) :=
  encodeFile INTENT_MAGIC INTENT_DIGEST_DOMAIN intent.push

def decodeIntent (bytes : List UInt8) : Except RuntimeMintJournalError RuntimeMintIntent := do
  let intent ← decodeFile INTENT_MAGIC INTENT_DIGEST_DOMAIN RuntimeMintIntent.read bytes
  intent.validate
  pure intent

variable {v w : RuntimeMintIntent} {bytes : List UInt8}

/-- **What a reader makes of an intent**: the intent, if its state passes the check. -/
theorem decodeIntent_encodeIntent (h : v.AuthorityValid) (hencode : encodeIntent v = .ok bytes) :
    decodeIntent bytes = (do
      RuntimeMintIntent.validateProtectState v.protectState
      pure v) := by
  rw [decodeIntent, decodeFile_encodeFile (by decide) (RuntimeMintIntent.mirrors h) hencode,
    ← h.authority.validate_eq]
  rfl

theorem eq_of_decodeIntent (h : v.AuthorityValid) (hencode : encodeIntent v = .ok bytes)
    (hdecode : decodeIntent bytes = .ok w) : w = v := by
  rw [decodeIntent_encodeIntent h hencode] at hdecode
  obtain ⟨⟨⟩, _, hw⟩ := bind_eq_ok.mp hdecode
  cases hw
  rfl

/-- An intent that was written has no more clear segments than their count can say. -/
theorem segments_of_encodeIntent (hencode : encodeIntent v = .ok bytes) :
    v.clearSegmentSha256.length ≤ 4294967295 := by
  obtain ⟨_, h, _⟩ := encodeFile_eq_ok.mp hencode
  obtain ⟨_, _, _, h⟩ := run_bind_eq_ok.mp h
  obtain ⟨_, _, _, h⟩ := run_bind_eq_ok.mp h
  obtain ⟨_, _, _, h⟩ := run_bind_eq_ok.mp h
  obtain ⟨_, _, _, h⟩ := run_bind_eq_ok.mp h
  obtain ⟨_, _, _, h⟩ := run_bind_eq_ok.mp h
  obtain ⟨_, _, _, h⟩ := run_bind_eq_ok.mp h
  obtain ⟨_, _, _, h⟩ := run_bind_eq_ok.mp h
  obtain ⟨_, _, _, h⟩ := run_bind_eq_ok.mp h
  obtain ⟨_, _, _, h⟩ := run_bind_eq_ok.mp h
  obtain ⟨_, _, hcount, _⟩ := run_bind_eq_ok.mp h
  by_contra hmany
  rw [failIf, if_pos (Nat.lt_of_not_le hmany)] at hcount
  cases hcount

/-- An intent with no more segments than that is written. -/
theorem exists_encodeIntent (h : v.AuthorityValid)
    (hsegments : v.clearSegmentSha256.length ≤ 4294967295) :
    ∃ bytes, encodeIntent v = .ok bytes := by
  obtain ⟨payload, hrun, _⟩ := RuntimeMintIntent.emits h hsegments []
  exact ⟨_, encodeFile_eq_ok.mpr ⟨payload, hrun, rfl⟩⟩

/-- **How long the file of an intent is.** -/
theorem length_encodeIntent (h : v.AuthorityValid) (hencode : encodeIntent v = .ok bytes) :
    bytes.length = v.fileBytes := by
  obtain ⟨payload, hpush, rfl⟩ := encodeFile_eq_ok.mp hencode
  obtain ⟨_, hrun, hlen⟩ :=
    RuntimeMintIntent.emits h (segments_of_encodeIntent hencode) []
  rw [hpush] at hrun
  cases hrun
  have hmagic : INTENT_MAGIC.length = 8 := by decide
  rw [sealFile, List.nil_append, List.length_append, List.length_append, hmagic,
    Bytes.length_toList, hlen, RuntimeMintIntent.fileBytes]
  omega

end

/-! ## 3. Media preparations -/

namespace RuntimeMediaPreparationState

def toByte : RuntimeMediaPreparationState → Nat
  | ready => 0
  | effectPending => 1
  | prepared => 2
  | failed => 3
  | consumed => 4

def ofByte : Nat → Except RuntimeMintJournalError RuntimeMediaPreparationState
  | 0 => .ok ready
  | 1 => .ok effectPending
  | 2 => .ok prepared
  | 3 => .ok failed
  | 4 => .ok consumed
  | _ => .error .corrupt

omit [Curves] in
theorem ofByte_toByte (v : RuntimeMediaPreparationState) : ofByte v.toByte = .ok v := by
  cases v <;> rfl

def hasOutput : RuntimeMediaPreparationState → Bool
  | prepared | consumed => true
  | _ => false

def hasMint : RuntimeMediaPreparationState → Bool
  | consumed => true
  | _ => false

end RuntimeMediaPreparationState

/-- A digest that is there or not, and no byte that says so. -/
def pushDigest? (v : Option Digest32) : Writer Unit := v.forM fun digest => put digest.toList

def readDigest? : Bool → Reader (Option Digest32)
  | false => pure none
  | true => do
    let digest ← takeBytes .corrupt 32
    pure (some digest)

omit [Curves] in
theorem mirrors_digest? {v : Option Digest32} {present : Bool} (h : v.isSome = present) :
    Mirrors (pushDigest? v) (readDigest? present) v := by
  subst h
  cases v with
  | none => exact .nothing none
  | some digest => exact (Mirrors.takeBytes _ digest).map some

omit [Curves] in
theorem emits_digest? (v : Option Digest32) : Emits (pushDigest? v) (if v.isSome then 32 else 0) := by
  cases v with
  | none => exact .nothing
  | some digest => exact emits_array digest

omit [Curves] in
theorem atMost_digest? (v : Option Digest32) : AtMost (pushDigest? v) 32 := by
  cases v with
  | none => exact AtMost.nothing.mono (Nat.zero_le _)
  | some digest => exact .put (Bytes.length_toList _).le

namespace RuntimeMediaPreparationRecord

def push (v : RuntimeMediaPreparationRecord) : Writer Unit := do
  put v.requestId.toList
  put v.sourceBindingDigest.toList
  put v.sourceObjectDigest.toList
  put v.operationId.toList
  pushAvailabilityText v.providerId
  pushAvailabilityText v.creatorWalletAccountId
  pushAvailabilityText v.creatorWalletAddress
  put v.creatorMintSourceDigest.toList
  put (beBytes 1 v.state.toByte)
  pushDigest? v.outputReceiptDigest
  pushDigest? v.consumedMintId

def read : Reader RuntimeMediaPreparationRecord := do
  let requestId ← takeBytes .corrupt 32
  let sourceBindingDigest ← takeBytes .corrupt 32
  let sourceObjectDigest ← takeBytes .corrupt 32
  let operationId ← takeBytes .corrupt 32
  let providerId ← readAvailabilityText
  let creatorWalletAccountId ← readAvailabilityText
  let creatorWalletAddress ← readAvailabilityText
  let creatorMintSourceDigest ← takeBytes .corrupt 32
  let state ← takeNat .corrupt 1
  let state ← RuntimeMediaPreparationState.ofByte state
  let outputReceiptDigest ← readDigest? state.hasOutput
  let consumedMintId ← readDigest? state.hasMint
  pure {
    requestId, sourceBindingDigest, sourceObjectDigest, operationId, providerId,
    creatorWalletAccountId, creatorWalletAddress, creatorMintSourceDigest, state,
    outputReceiptDigest, consumedMintId }

variable {v : RuntimeMediaPreparationRecord}

omit [Curves] in
/-- The state says which digests there are. -/
theorem digests_of_validateState (h : v.validateState = .ok ()) :
    v.outputReceiptDigest.isSome = v.state.hasOutput ∧
      v.consumedMintId.isSome = v.state.hasMint := by
  unfold validateState at h
  split at h
  all_goals
    next hstate =>
      rw [failIf_eq_ok, not_or] at h
      rw [hstate]
      obtain ⟨houtput, hmint⟩ := h
      revert houtput hmint
      cases v.outputReceiptDigest <;> cases v.consumedMintId <;>
        simp [RuntimeMediaPreparationState.hasOutput, RuntimeMediaPreparationState.hasMint]

end RuntimeMediaPreparationRecord

section

variable [Crypto]

def encodeMediaPreparation (preparation : RuntimeMediaPreparationRecord) :
    Except RuntimeMintJournalError (List UInt8) := do
  preparation.validate
  encodeFile MEDIA_PREPARATION_MAGIC MEDIA_PREPARATION_DIGEST_DOMAIN preparation.push

def decodeMediaPreparation (bytes : List UInt8) :
    Except RuntimeMintJournalError RuntimeMediaPreparationRecord := do
  let preparation ← decodeFile MEDIA_PREPARATION_MAGIC MEDIA_PREPARATION_DIGEST_DOMAIN
    RuntimeMediaPreparationRecord.read bytes
  preparation.validate.mapError fun _ => RuntimeMintJournalError.corrupt
  pure preparation

variable {v : RuntimeMediaPreparationRecord} {bytes : List UInt8}

omit [Curves] in
/-- **A media preparation is read back as it was written, and its file is never too long.** -/
theorem decodeMediaPreparation_encodeMediaPreparation
    (hencode : encodeMediaPreparation v = .ok bytes) :
    decodeMediaPreparation bytes = .ok v ∧ Fits bytes := by
  obtain ⟨⟨⟩, hvalid, hencode⟩ := bind_eq_ok.mp hencode
  have h := hvalid
  obtain ⟨⟨⟩, hprovider, h⟩ := bind_eq_ok.mp h
  obtain ⟨⟨⟩, haccount, h⟩ := bind_eq_ok.mp h
  obtain ⟨⟨⟩, haddress, h⟩ := bind_eq_ok.mp h
  obtain ⟨⟨⟩, _, hstate⟩ := bind_eq_ok.mp h
  have haddress := RuntimeMintIntent.text_of_evmAddress haddress
  obtain ⟨houtput, hmint⟩ := RuntimeMediaPreparationRecord.digests_of_validateState hstate
  have hbyte : v.state.toByte < 256 ^ 1 := by cases v.state <;> decide
  have hm : Mirrors v.push RuntimeMediaPreparationRecord.read v :=
    (Mirrors.takeBytes _ _).bind <| (Mirrors.takeBytes _ _).bind <|
    (Mirrors.takeBytes _ _).bind <| (Mirrors.takeBytes _ _).bind <|
    (mirrors_text hprovider).bind <| (mirrors_text haccount).bind <|
    (mirrors_text haddress).bind <| (Mirrors.takeBytes _ _).bind <|
    (Mirrors.takeNat _ hbyte).check (RuntimeMediaPreparationState.ofByte_toByte v.state) <|
    (mirrors_digest? houtput).bind <| (mirrors_digest? hmint).map fun consumedMintId =>
      { v with consumedMintId }
  have hlen : AtMost v.push _ :=
    (AtMost.put (Bytes.length_toList _).le).bind <| (AtMost.put (Bytes.length_toList _).le).bind <|
    (AtMost.put (Bytes.length_toList _).le).bind <| (AtMost.put (Bytes.length_toList _).le).bind <|
    (atMost_text hprovider).bind <| (atMost_text haccount).bind <| (atMost_text haddress).bind <|
    (AtMost.put (Bytes.length_toList _).le).bind <| (AtMost.put (beBytes_length _ _).le).bind <|
    (atMost_digest? _).bind (atMost_digest? _)
  have hbytes := length_encodeFile (by decide) hlen hencode
  refine ⟨bind_eq_ok.mpr ⟨v, decodeFile_encodeFile (by decide) hm hencode,
    bind_eq_ok.mpr ⟨(), mapError_eq_ok.mpr hvalid, rfl⟩⟩, ?_⟩
  rw [Fits, MAX_STORE_FILE_BYTES]
  omega

omit [Curves] in
/-- A media preparation that passes its check is written. -/
theorem exists_encodeMediaPreparation (h : v.validate = .ok ()) :
    ∃ bytes, encodeMediaPreparation v = .ok bytes := by
  have hvalid := h
  obtain ⟨⟨⟩, hprovider, h⟩ := bind_eq_ok.mp h
  obtain ⟨⟨⟩, haccount, h⟩ := bind_eq_ok.mp h
  obtain ⟨⟨⟩, haddress, _⟩ := bind_eq_ok.mp h
  have haddress := RuntimeMintIntent.text_of_evmAddress haddress
  have hpush : Emits v.push _ :=
    (emits_array _).bind <| (emits_array _).bind <| (emits_array _).bind <|
    (emits_array _).bind <| (emits_text hprovider).bind <| (emits_text haccount).bind <|
    (emits_text haddress).bind <| (emits_array _).bind <| (emits_number 1 _).bind <|
    (emits_digest? _).bind (emits_digest? _)
  obtain ⟨payload, hrun, _⟩ := hpush []
  exact ⟨_, bind_eq_ok.mpr ⟨(), hvalid, encodeFile_eq_ok.mpr ⟨payload, hrun, rfl⟩⟩⟩

end

end ElastosRuntime.MintJournal
