/-
# The files of the mint journal

Every record is one file: eight bytes that name its kind, a digest of the rest, and the rest, which
is the record field by field.  The three kinds have a writer and a reader each; what the reader
checks is spread over its fields, and what only makes sense for the whole record it checks last.

A record is read back as it was written (`decodeRecord_encodeRecord`, `decodeIntent_encodeIntent`,
`decodeMediaPreparation_encodeMediaPreparation`), provided it passes the checks of its reader.  The
writer of an intent makes none of them, so the statement for intents says what becomes of one that
does not.  `Fits` is the limit on the length of a file, which only readers know about: mint records
and media preparations keep within it by their checks, an intent need not.
-/
import ElastosRuntime.Mint.CreatorJson

namespace ElastosRuntime.MintJournal

open Codec Contracts

def STORE_MAGIC : List UInt8 := utf8Bytes "epc-mj05"
def STORE_DIGEST_DOMAIN : List UInt8 :=
  utf8Bytes "elastos/protected-content/runtime-mint-journal/v5"
def INTENT_MAGIC : List UInt8 := utf8Bytes "epc-mi02"
def INTENT_DIGEST_DOMAIN : List UInt8 :=
  utf8Bytes "elastos/protected-content/runtime-mint-intent/v2"
def MEDIA_PREPARATION_MAGIC : List UInt8 := utf8Bytes "epc-mp02"
def MEDIA_PREPARATION_DIGEST_DOMAIN : List UInt8 :=
  utf8Bytes "elastos/protected-content/runtime-media-preparation/v2"
def MAX_STORE_FILE_BYTES : Nat := 64 * 1024

abbrev Writer := ByteWriter RuntimeMintJournalError

abbrev Reader := ByteReader RuntimeMintJournalError

/-! ## 1. Fields -/

def pushNested (bytes : List UInt8) : Writer Unit := do
  failIf (4294967295 < bytes.length) RuntimeMintJournalError.corrupt
  put (beBytes 4 bytes.length)
  put bytes

def readNested : Reader (List UInt8) := do
  let len ← takeNat .corrupt 4
  take .corrupt len

def pushAvailabilityText (value : String) : Writer Unit := do
  failIf (65535 < (utf8Bytes value).length) RuntimeMintJournalError.corrupt
  put (beBytes 2 (utf8Bytes value).length)
  put (utf8Bytes value)

/-- The text that bytes spell. -/
def availabilityText (bytes : List UInt8) : Except RuntimeMintJournalError String := do
  let value ← okOr (ofUtf8Bytes? bytes) .corrupt
  (validateAvailabilityText value).mapError fun _ => .corrupt
  pure value

def readAvailabilityText : Reader String := do
  let len ← takeNat .corrupt 2
  failIf (len = 0 ∨ MAX_AVAILABILITY_TEXT_BYTES < len) RuntimeMintJournalError.corrupt
  let bytes ← take .corrupt len
  availabilityText bytes

/-- A contract as a byte string that holds its canonical form. -/
def pushDocument {α : Type} [CanonicalBody α] (value : α) : Writer Unit := do
  let bytes ← orCorrupt (canonicalBytes value)
  pushNested bytes

def readDocument {α : Type} [CanonicalBody α] : Reader α := do
  let bytes ← readNested
  orCorrupt (fromCanonicalBytes bytes)

/-- Something that may be missing, behind a byte that says so. -/
def pushOption {α : Type} (push : α → Writer Unit) : Option α → Writer Unit
  | none => put (beBytes 1 0)
  | some value => do
    put (beBytes 1 1)
    push value

def readOption {α : Type} (read : Reader α) : Reader (Option α) := do
  let tag ← takeNat .corrupt 1
  match tag with
  | 0 => pure none
  | 1 => do
    let value ← read
    pure (some value)
  | _ => liftM (Except.error .corrupt : Except RuntimeMintJournalError _)

section

variable {α : Type}

theorem mirrors_nested (bytes : List UInt8) : Mirrors (pushNested bytes) readNested bytes := by
  refine .given fun _ hfit => (Mirrors.takeNat _ ?_).bind (.take _ bytes)
  exact Nat.lt_succ_of_le (Nat.le_of_not_lt (failIf_eq_ok.mp hfit))

variable {value : String}

theorem mirrors_text (h : validateAvailabilityText value = .ok ()) :
    Mirrors (pushAvailabilityText value) readAvailabilityText value := by
  refine .given fun _ hfit => ?_
  have hvalid := h
  rw [validateAvailabilityText, failIf_eq_ok, not_or, not_or] at h
  obtain ⟨hne, hlen, _⟩ := h
  have hsmall : (utf8Bytes value).length < 256 ^ 2 :=
    Nat.lt_succ_of_le (Nat.le_of_not_lt (failIf_eq_ok.mp hfit))
  have hpos : ¬((utf8Bytes value).length = 0 ∨
      MAX_AVAILABILITY_TEXT_BYTES < (utf8Bytes value).length) :=
    not_or.mpr ⟨fun h0 => hne (List.eq_nil_of_length_eq_zero h0), hlen⟩
  refine (Mirrors.takeNat _ hsmall).bind <| .skip (b := ()) (failIf_eq_ok.mpr hpos) <|
    (Mirrors.take _ _).last ?_
  exact bind_eq_ok.mpr ⟨value, okOr_eq_ok.mpr (ofUtf8Bytes?_utf8Bytes value),
    bind_eq_ok.mpr ⟨(), mapError_eq_ok.mpr hvalid, rfl⟩⟩

theorem mirrors_document [CanonicalBody α] [LawfulBody α] (value : α) :
    Mirrors (pushDocument value) readDocument value := by
  refine .given fun bytes hbytes => (mirrors_nested bytes).last ?_
  exact orCorrupt_eq_ok.mpr (fromCanonicalBytes_of_canonicalBytes (orCorrupt_eq_ok.mp hbytes))

variable {push : α → Writer Unit}

theorem mirrors_option {read : Reader α} {value : Option α}
    (h : ∀ a ∈ value, Mirrors (push a) read a) :
    Mirrors (pushOption push value) (readOption read) value := by
  cases value with
  | none =>
    have htag : Mirrors (put (beBytes 1 0) : Writer Unit) (takeNat .corrupt 1) 0 :=
      .takeNat _ (by decide)
    intro out out' hw
    obtain ⟨bs, hbs, hr⟩ := htag out out' hw
    exact ⟨bs, hbs, fun rest => run_bind_eq_ok.mpr ⟨0, rest, hr rest, rfl⟩⟩
  | some a => exact (Mirrors.takeNat _ (by decide)).bind ((h a rfl).map some)

theorem emits_number (n m : Nat) : Emits (put (beBytes n m) : Writer Unit) n := by
  have h : Emits (put (beBytes n m) : Writer Unit) (beBytes n m).length := .put _
  rwa [beBytes_length] at h

variable {n : Nat}

theorem emits_array (b : Bytes n) : Emits (put b.toList : Writer Unit) n := by
  have h : Emits (put b.toList : Writer Unit) b.toList.length := .put _
  rwa [b.length_toList] at h

theorem emits_text (h : validateAvailabilityText value = .ok ()) :
    Emits (pushAvailabilityText value) (2 + (utf8Bytes value).length) := by
  have hlen := (text_of_validate h).1
  exact .given (b := ()) (failIf_eq_ok.mpr (by omega)) ((emits_number 2 _).bind (.put _))

theorem emits_document [CanonicalBody α] {value : α} (h : Encodes value n) (hn : n ≤ 4294967295) :
    Emits (pushDocument value) (4 + n) := by
  obtain ⟨bytes, hbytes, rfl⟩ := h
  exact .given (orCorrupt_eq_ok.mpr hbytes) <|
    .given (b := ()) (failIf_eq_ok.mpr (Nat.not_lt.mpr hn))
      ((emits_number 4 _).bind (.put bytes))

theorem writes_nested {bytes : List UInt8} (h : bytes.length ≤ 4294967295) :
    Writes (pushNested bytes) :=
  .given (b := ()) (failIf_eq_ok.mpr (Nat.not_lt.mpr h)) ((Writes.put _).bind (.put _))

theorem writes_text (h : validateAvailabilityText value = .ok ()) :
    Writes (pushAvailabilityText value) := fun out =>
  let ⟨bs, hbs, _⟩ := emits_text h out
  ⟨out ++ bs, hbs⟩

theorem writes_document [CanonicalBody α] {value : α} (h : EncodesWithin value n)
    (hn : n ≤ 4294967295) : Writes (pushDocument value) := fun out =>
  let ⟨_, hm, hencodes⟩ := h
  let ⟨bs, hbs, _⟩ := emits_document hencodes (hm.trans hn) out
  ⟨out ++ bs, hbs⟩

theorem writes_option {value : Option α} (h : ∀ a ∈ value, Writes (push a)) :
    Writes (pushOption push value) := by
  cases value with
  | none => exact .put _
  | some a => exact (Writes.put _).bind (h a rfl)

theorem atMost_nested {bytes : List UInt8} (h : bytes.length ≤ n) :
    AtMost (pushNested bytes) (4 + n) :=
  .given fun _ _ => (AtMost.put (beBytes_length _ _).le).bind (.put h)

theorem atMost_text (h : validateAvailabilityText value = .ok ()) :
    AtMost (pushAvailabilityText value) 258 :=
  .given fun _ _ => (AtMost.put (beBytes_length _ _).le).bind (.put (text_of_validate h).1)

theorem atMost_document [CanonicalBody α] {value : α} (h : EncodesWithin value n) :
    AtMost (pushDocument value) (4 + n) := by
  obtain ⟨_, hle, bytes, hbytes, rfl⟩ := h
  refine .given fun found hfound => atMost_nested ?_
  rw [orCorrupt_eq_ok, hbytes, Except.ok.injEq] at hfound
  rwa [← hfound]

theorem atMost_option {value : Option α} (h : ∀ a ∈ value, AtMost (push a) n) :
    AtMost (pushOption push value) (1 + n) := by
  cases value with
  | none => exact (AtMost.put (beBytes_length _ _).le).mono (Nat.le_add_right 1 n)
  | some a => exact (AtMost.put (beBytes_length _ _).le).bind (h a rfl)

end

/-! ## 2. Files -/

section

variable [Crypto] {α : Type}

/-- `magic`, the digest, and the payload. -/
def sealFile (magic domain payload : List UInt8) : List UInt8 :=
  magic ++ (Crypto.sha256 (domain ++ payload)).toList ++ payload

def openFile (magic domain bytes : List UInt8) :
    Except RuntimeMintJournalError (List UInt8) := do
  failIf (bytes.length < 8 + 32) RuntimeMintJournalError.corrupt
  failIf (bytes.take 8 ≠ magic) RuntimeMintJournalError.corrupt
  failIf ((Crypto.sha256 (domain ++ bytes.drop 40)).toList ≠ (bytes.drop 8).take 32)
    RuntimeMintJournalError.corrupt
  pure (bytes.drop 40)

/-- The file of a record whose payload is written by `push`. -/
def encodeFile (magic domain : List UInt8) (push : Writer Unit) :
    Except RuntimeMintJournalError (List UInt8) := do
  let ((), payload) ← push.run []
  pure (sealFile magic domain payload)

def decodeFile (magic domain : List UInt8) (read : Reader α) (bytes : List UInt8) :
    Except RuntimeMintJournalError α := do
  let payload ← openFile magic domain bytes
  let (value, rest) ← read.run payload
  failIf (rest ≠ []) RuntimeMintJournalError.corrupt
  pure value

variable {magic domain bytes payload : List UInt8} {push : Writer Unit} {read : Reader α} {a : α}

theorem openFile_sealFile (h : magic.length = 8) :
    openFile magic domain (sealFile magic domain payload) = .ok payload := by
  have hhead : (magic ++ (Crypto.sha256 (domain ++ payload)).toList).length = 40 := by
    rw [List.length_append, h, Bytes.length_toList]
  have htake : (sealFile magic domain payload).take 8 = magic := by
    rw [sealFile, List.append_assoc, List.take_left' h]
  have hdigest : ((sealFile magic domain payload).drop 8).take 32 =
      (Crypto.sha256 (domain ++ payload)).toList := by
    rw [sealFile, List.append_assoc, List.drop_left' h, List.take_left' (Bytes.length_toList _)]
  have hdrop : (sealFile magic domain payload).drop 40 = payload := List.drop_left' hhead
  refine bind_eq_ok.mpr ⟨(), failIf_eq_ok.mpr ?_, bind_eq_ok.mpr ⟨(), failIf_eq_ok.mpr ?_,
    bind_eq_ok.mpr ⟨(), failIf_eq_ok.mpr ?_, ?_⟩⟩⟩
  · rw [sealFile, List.length_append, hhead]
    omega
  · exact not_not.mpr htake
  · rw [hdrop, hdigest]
    exact not_not.mpr rfl
  · rw [hdrop]
    rfl

theorem encodeFile_eq_ok : encodeFile magic domain push = .ok bytes ↔
    ∃ payload, push.run [] = .ok ((), payload) ∧ bytes = sealFile magic domain payload := by
  simp only [encodeFile, bind_eq_ok, Prod.exists, pure_eq_ok]
  constructor
  · rintro ⟨⟨⟩, payload, hrun, rfl⟩
    exact ⟨payload, hrun, rfl⟩
  · rintro ⟨payload, hrun, rfl⟩
    exact ⟨(), payload, hrun, rfl⟩

/-- **A file is read back as it was written.** -/
theorem decodeFile_encodeFile (h : magic.length = 8) (hm : Mirrors push read a)
    (hencode : encodeFile magic domain push = .ok bytes) :
    decodeFile magic domain read bytes = .ok a := by
  obtain ⟨payload, hrun, rfl⟩ := encodeFile_eq_ok.mp hencode
  obtain ⟨_, rfl, hread⟩ := hm _ _ hrun
  have hread := hread []
  rw [List.append_nil] at hread
  exact bind_eq_ok.mpr ⟨_, openFile_sealFile h, bind_eq_ok.mpr ⟨(a, []), hread,
    bind_eq_ok.mpr ⟨(), failIf_eq_ok.mpr (not_not.mpr rfl), rfl⟩⟩⟩

theorem length_encodeFile {n : Nat} (h : magic.length = 8) (hn : AtMost push n)
    (hencode : encodeFile magic domain push = .ok bytes) : bytes.length ≤ 40 + n := by
  obtain ⟨payload, hrun, rfl⟩ := encodeFile_eq_ok.mp hencode
  obtain ⟨_, rfl, hlen⟩ := hn _ _ hrun
  rw [sealFile, List.length_append, List.length_append, h, Bytes.length_toList]
  omega

/-- Readers refuse a file that is longer than this. -/
def Fits (bytes : List UInt8) : Prop := bytes.length ≤ MAX_STORE_FILE_BYTES

end

/-! ## 3. Nodes -/

section

variable [Curves]

namespace RuntimeMintNodeBinding

def push (v : RuntimeMintNodeBinding) : Writer Unit := do
  put v.nodePublicKey.value.toList
  put v.operatorId.bytes.toList
  put v.failureDomainId.bytes.toList
  put v.ownerStateRoot.toList

def read : Reader RuntimeMintNodeBinding := do
  let nodePublicKey ← takeBytes .corrupt 32
  let nodePublicKey ← orCorrupt (NodePublicKey.new nodePublicKey)
  let operatorId ← takeBytes .corrupt 32
  let failureDomainId ← takeBytes .corrupt 32
  let ownerStateRoot ← takeBytes .corrupt 32
  new nodePublicKey ⟨operatorId⟩ ⟨failureDomainId⟩ ownerStateRoot

theorem mirrors (v : RuntimeMintNodeBinding) : Mirrors v.push read v :=
  (Mirrors.takeBytes _ _).check (orCorrupt_eq_ok.mpr v.nodePublicKey.new_value) <|
    (Mirrors.takeBytes _ _).bind <| (Mirrors.takeBytes _ _).bind <|
    (Mirrors.takeBytes _ _).last v.new_self

theorem atMost (v : RuntimeMintNodeBinding) : AtMost v.push 128 :=
  (AtMost.put (Bytes.length_toList _).le).bind <| (AtMost.put (Bytes.length_toList _).le).bind <|
    (AtMost.put (Bytes.length_toList _).le).bind (.put (Bytes.length_toList _).le)

end RuntimeMintNodeBinding

namespace RuntimeMintNodeReceipt

/-- The key and the state root of a receipt are those of its node and are not written again. -/
def push (v : RuntimeMintNodeReceipt) : Writer Unit := do
  put v.provisioningId.value.toList
  put v.recordIdentity.recordSha256.toList
  put (beBytes 4 v.recordIdentity.recordBytes.toNat)

def read (binding : RuntimeMintNodeBinding) : Reader RuntimeMintNodeReceipt := do
  let provisioningId ← takeBytes .corrupt 32
  let provisioningId ← orCorrupt (RuntimeCustodyProvisioningIdV1.new provisioningId)
  let recordSha256 ← takeBytes .corrupt 32
  let recordBytes ← takeNat .corrupt 4
  let recordIdentity ← orCorrupt
    (CustodyNodeProvisioningRecordIdentityV1.new recordSha256 (UInt32.ofNat recordBytes))
  new binding.nodePublicKey provisioningId recordIdentity binding.ownerStateRoot

/-- The receipt is of this node. -/
structure Of (v : RuntimeMintNodeReceipt) (binding : RuntimeMintNodeBinding) : Prop where
  nodePublicKey : v.nodePublicKey = binding.nodePublicKey
  ownerStateRoot : v.ownerStateRoot = binding.ownerStateRoot
  recordIdentity : v.recordIdentity.validate = .ok ()

theorem mirrors {v : RuntimeMintNodeReceipt} {binding : RuntimeMintNodeBinding}
    (h : v.Of binding) : Mirrors v.push (read binding) v := by
  have hidentity : orCorrupt (CustodyNodeProvisioningRecordIdentityV1.new
      v.recordIdentity.recordSha256 (UInt32.ofNat v.recordIdentity.recordBytes.toNat)) =
        .ok v.recordIdentity := by
    rw [orCorrupt_eq_ok, UInt32.ofNat_toNat]
    exact build_eq h.recordIdentity
  refine (Mirrors.takeBytes _ _).check (orCorrupt_eq_ok.mpr v.provisioningId.new_value) <|
    (Mirrors.takeBytes _ _).bind <| (Mirrors.takeNat _ v.recordIdentity.recordBytes.toNat_lt)
      |>.checkLast hidentity ?_
  rw [← h.nodePublicKey, ← h.ownerStateRoot]
  exact v.new_self

end RuntimeMintNodeReceipt

/-- Any byte but zero stands for `true`. -/
def pushFlag (value : Bool) : Writer Unit := put (beBytes 1 (if value then 1 else 0))

def readFlag : Reader Bool := do
  let byte ← takeNat .corrupt 1
  pure (decide (byte ≠ 0))

omit [Curves] in
theorem mirrors_flag (value : Bool) : Mirrors (pushFlag value) readFlag value := by
  have hbyte : Mirrors (pushFlag value) (takeNat .corrupt 1) (if value then 1 else 0) :=
    .takeNat _ (by cases value <;> decide)
  have hflag := hbyte.map fun byte => decide (byte ≠ 0)
  cases value <;> exact hflag

namespace MintNodeState

def push (v : MintNodeState) : Writer Unit := do
  v.binding.push
  pushFlag v.effectStarted
  pushFlag v.receipt.isSome
  v.receipt.forM RuntimeMintNodeReceipt.push

def readReceipt (binding : RuntimeMintNodeBinding) : Bool → Reader (Option RuntimeMintNodeReceipt)
  | false => pure none
  | true => do
    let receipt ← RuntimeMintNodeReceipt.read binding
    pure (some receipt)

def read : Reader MintNodeState := do
  let binding ← RuntimeMintNodeBinding.read
  let effectStarted ← readFlag
  let hasReceipt ← readFlag
  let receipt ← readReceipt binding hasReceipt
  pure ⟨binding, effectStarted, receipt⟩

/-- The receipt, if there is one, is of the node. -/
def WellFormed (v : MintNodeState) : Prop := ∀ receipt ∈ v.receipt, receipt.Of v.binding

theorem mirrors {v : MintNodeState} (h : v.WellFormed) : Mirrors v.push read v := by
  obtain ⟨binding, started, receipt⟩ := v
  have hreceipt : Mirrors (receipt.forM RuntimeMintNodeReceipt.push)
      (readReceipt binding receipt.isSome) receipt := by
    cases receipt with
    | none => exact .nothing none
    | some receipt => exact (RuntimeMintNodeReceipt.mirrors (h receipt rfl)).map some
  exact binding.mirrors.bind <| (mirrors_flag started).bind <| (mirrors_flag _).bind <|
    hreceipt.map fun receipt => (⟨binding, started, receipt⟩ : MintNodeState)

theorem atMost (v : MintNodeState) : AtMost v.push 198 := by
  have hreceipt : AtMost (v.receipt.forM RuntimeMintNodeReceipt.push) 68 := by
    cases v.receipt with
    | none => exact AtMost.nothing.mono (Nat.zero_le _)
    | some receipt =>
      exact (AtMost.put (Bytes.length_toList _).le).bind <|
        (AtMost.put (Bytes.length_toList _).le).bind (.put (beBytes_length _ _).le)
  exact v.binding.atMost.bind <| (AtMost.put (beBytes_length _ _).le).bind <|
    (AtMost.put (beBytes_length _ _).le).bind hreceipt

end MintNodeState

end

/-! ## 4. Mint records -/

namespace RuntimeVerifiedContentAvailability

def push (v : RuntimeVerifiedContentAvailability) : Writer Unit := do
  pushAvailabilityText v.contentCid
  pushAvailabilityText v.objectIdentity
  pushAvailabilityText v.publisherIdentity
  pushAvailabilityText v.expectedProviderDid
  pushAvailabilityText v.policy
  put (beBytes 4 v.requiredReplicas.toNat)
  put (beBytes 4 v.observedReplicas.toNat)
  put (beBytes 8 v.checkedAt.toNat)
  put v.receiptDigest.toList
  pushDocument v.encryptedContent
  put v.mediaManifestRoot.toList

def read : Reader RuntimeVerifiedContentAvailability := do
  let contentCid ← readAvailabilityText
  let objectIdentity ← readAvailabilityText
  let publisherIdentity ← readAvailabilityText
  let expectedProviderDid ← readAvailabilityText
  let policy ← readAvailabilityText
  let requiredReplicas ← takeNat .corrupt 4
  let observedReplicas ← takeNat .corrupt 4
  let checkedAt ← takeNat .corrupt 8
  let receiptDigest ← takeBytes .corrupt 32
  let encryptedContent ← readDocument
  let mediaManifestRoot ← takeBytes .corrupt 32
  let evidence : RuntimeVerifiedContentAvailability :=
    ⟨contentCid, objectIdentity, publisherIdentity, expectedProviderDid, policy,
      UInt32.ofNat requiredReplicas, UInt32.ofNat observedReplicas, UInt64.ofNat checkedAt,
      receiptDigest, encryptedContent, mediaManifestRoot⟩
  liftM (do evidence.validate; pure evidence)

variable {v : RuntimeVerifiedContentAvailability}

theorem mirrors (h : v.validate = .ok ()) : Mirrors v.push read v := by
  have hvalid := h
  obtain ⟨⟨⟩, h₁, h⟩ := bind_eq_ok.mp h
  obtain ⟨⟨⟩, h₂, h⟩ := bind_eq_ok.mp h
  obtain ⟨⟨⟩, h₃, h⟩ := bind_eq_ok.mp h
  obtain ⟨⟨⟩, h₄, h⟩ := bind_eq_ok.mp h
  obtain ⟨⟨⟩, h₅, _⟩ := bind_eq_ok.mp h
  refine (mirrors_text h₁).bind <| (mirrors_text h₂).bind <| (mirrors_text h₃).bind <|
    (mirrors_text h₄).bind <| (mirrors_text h₅).bind <|
    (Mirrors.takeNat _ v.requiredReplicas.toNat_lt).bind <|
    (Mirrors.takeNat _ v.observedReplicas.toNat_lt).bind <|
    (Mirrors.takeNat _ v.checkedAt.toNat_lt).bind <| (Mirrors.takeBytes _ _).bind <|
    (mirrors_document _).bind <| (Mirrors.takeBytes _ _).last ?_
  simp only [UInt32.ofNat_toNat, UInt64.ofNat_toNat]
  exact bind_eq_ok.mpr ⟨(), hvalid, rfl⟩

theorem atMost (h : v.validate = .ok ()) : AtMost v.push 1494 := by
  obtain ⟨⟨⟩, h₁, h⟩ := bind_eq_ok.mp h
  obtain ⟨⟨⟩, h₂, h⟩ := bind_eq_ok.mp h
  obtain ⟨⟨⟩, h₃, h⟩ := bind_eq_ok.mp h
  obtain ⟨⟨⟩, h₄, h⟩ := bind_eq_ok.mp h
  obtain ⟨⟨⟩, h₅, h⟩ := bind_eq_ok.mp h
  obtain ⟨⟨⟩, _, hcontent⟩ := bind_eq_ok.mp h
  rw [orInvalidSelection_eq_ok] at hcontent
  have hcontent := EncryptedContentIdentityV1.encodes (valid_of_requireCanonical hcontent)
  exact (atMost_text h₁).bind <| (atMost_text h₂).bind <| (atMost_text h₃).bind <|
    (atMost_text h₄).bind <| (atMost_text h₅).bind <|
    (AtMost.put (beBytes_length _ _).le).bind <| (AtMost.put (beBytes_length _ _).le).bind <|
    (AtMost.put (beBytes_length _ _).le).bind <| (AtMost.put (Bytes.length_toList _).le).bind <|
    (atMost_document hcontent).bind (.put (Bytes.length_toList _).le)

end RuntimeVerifiedContentAvailability

section

variable [Curves] [Crypto]

/-- What the payload of a mint record says before the creator state. -/
structure RecordBody where
  mintId : Digest32
  parts : RuntimeMintDraftParts
  nodeStates : List MintNodeState
  custodyTerminal : Option RuntimeCustodyTerminalKind
  contentAvailability : Option RuntimeVerifiedContentAvailability

def pushTerminal : Option RuntimeCustodyTerminalKind → Writer Unit
  | none => put (beBytes 1 0)
  | some .custodyProvisioned => put (beBytes 1 1)
  | some .abortedPartialProvision => put (beBytes 1 2)

def terminalOf : Nat → Except RuntimeMintJournalError (Option RuntimeCustodyTerminalKind)
  | 0 => .ok none
  | 1 => .ok (some .custodyProvisioned)
  | 2 => .ok (some .abortedPartialProvision)
  | _ => .error .corrupt

def readTerminal : Reader (Option RuntimeCustodyTerminalKind) := do
  let tag ← takeNat .corrupt 1
  terminalOf tag

/-- The bindings are written once, with the states of their nodes. -/
def PersistedRuntimeMint.pushBody (v : PersistedRuntimeMint) : Writer Unit := do
  put v.draft.mintId.toList
  pushDocument v.draft.mediaIdentity
  put v.draft.contentAccessId.value.toList
  pushDocument v.draft.keyEnvelope
  pushDocument v.draft.policy
  put v.draft.contentKeyCommitment.toList
  put (beBytes 1 v.draft.threshold.required.toNat)
  put (beBytes 1 v.draft.threshold.total.toNat)
  failIf (255 < v.nodeStates.length) RuntimeMintJournalError.corrupt
  put (beBytes 1 v.nodeStates.length)
  v.nodeStates.forM MintNodeState.push
  pushTerminal v.custodyTerminal
  pushOption RuntimeVerifiedContentAvailability.push v.contentAvailability

def readBody : Reader RecordBody := do
  let mintId ← takeBytes .corrupt 32
  let mediaIdentity ← readDocument
  let contentAccessId ← takeBytes .corrupt 16
  let contentAccessId ← orCorrupt (ContentAccessIdV1.new contentAccessId)
  let keyEnvelope ← readDocument
  let policy ← readDocument
  let contentKeyCommitment ← takeBytes .corrupt 32
  let required ← takeNat .corrupt 1
  let total ← takeNat .corrupt 1
  let threshold ← orCorrupt (ThresholdV1.new (UInt8.ofNat required) (UInt8.ofNat total))
  let nodeCount ← takeNat .corrupt 1
  let nodeStates ← many MintNodeState.read nodeCount
  let custodyTerminal ← readTerminal
  let contentAvailability ← readOption RuntimeVerifiedContentAvailability.read
  pure ⟨mintId, ⟨mediaIdentity, contentAccessId, keyEnvelope, policy, contentKeyCommitment,
    threshold, nodeStates.map (·.binding)⟩, nodeStates, custodyTerminal, contentAvailability⟩

def pushCreatorState (v : Option RuntimeMintCreatorState) : Writer Unit :=
  pushOption (fun creatorState => pushNested creatorState.toVec) v

/-- `serde_json::from_slice`, and the check. -/
def creatorStateOf [CreatorJson] (bytes : List UInt8) :
    Except RuntimeMintJournalError RuntimeMintCreatorState := do
  let creatorState ← okOr (CreatorJson.fromSlice bytes) .corrupt
  creatorState.validate
  pure creatorState

def readCreatorState [CreatorJson] : Reader (Option RuntimeMintCreatorState) :=
  readOption do
    let bytes ← readNested
    creatorStateOf bytes

def encodeRecord (record : PersistedRuntimeMint) :
    Except RuntimeMintJournalError (List UInt8) :=
  encodeFile STORE_MAGIC STORE_DIGEST_DOMAIN do
    record.pushBody
    pushCreatorState record.creatorState

def decodeRecord [CreatorJson] (bytes : List UInt8) :
    Except RuntimeMintJournalError PersistedRuntimeMint := do
  let (body, creatorState) ← decodeFile STORE_MAGIC STORE_DIGEST_DOMAIN (do
    let body ← readBody
    let creatorState ← readCreatorState
    pure (body, creatorState)) bytes
  let draft ← RuntimeMintDraft.newRecorded body.parts
  failIf (draft.mintId ≠ body.mintId) RuntimeMintJournalError.corrupt
  pure ⟨draft, body.nodeStates, body.custodyTerminal, body.contentAvailability, creatorState⟩

/-- What `new_recorded` has established of the parts of a draft. -/
structure RuntimeMintDraftParts.Recorded (v : RuntimeMintDraftParts) : Prop where
  threshold : v.threshold = ⟨2, 3⟩
  nodes : v.nodes.length = 3
  distinct : (v.nodes.map (·.nodePublicKey)).Nodup
  mediaIdentity : v.mediaIdentity.validate = .ok ()
  keyEnvelope : v.keyEnvelope.validate = .ok ()
  policy : v.policy.validate = .ok ()

theorem RuntimeMintDraft.parts_recorded (v : RuntimeMintDraft) :
    v.toRuntimeMintDraftParts.Recorded := by
  have h := v.recorded
  obtain ⟨⟨⟩, hthreshold, h⟩ := bind_eq_ok.mp h
  obtain ⟨⟨⟩, hnodes, h⟩ := bind_eq_ok.mp h
  obtain ⟨⟨⟩, _, h⟩ := bind_eq_ok.mp h
  obtain ⟨⟨⟩, _, h⟩ := bind_eq_ok.mp h
  obtain ⟨⟨⟩, _, h⟩ := bind_eq_ok.mp h
  obtain ⟨_, _, h⟩ := bind_eq_ok.mp h
  obtain ⟨_, _, h⟩ := bind_eq_ok.mp h
  obtain ⟨⟨⟩, _, h⟩ := bind_eq_ok.mp h
  obtain ⟨⟨⟩, hdistinct, h⟩ := bind_eq_ok.mp h
  obtain ⟨_, hmedia, h⟩ := bind_eq_ok.mp h
  obtain ⟨_, henvelope, h⟩ := bind_eq_ok.mp h
  obtain ⟨_, hpolicy, _⟩ := bind_eq_ok.mp h
  rw [failIf_eq_ok, not_or, not_not, not_not] at hthreshold
  rw [failIf_eq_ok, not_not] at hnodes
  rw [requireDistinct, failIf_eq_ok, not_not] at hdistinct
  rw [orCorrupt_eq_ok, canonicalBytes_eq_ok] at hmedia henvelope hpolicy
  exact {
    threshold := by
      obtain ⟨hrequired, htotal⟩ := hthreshold
      rw [← hrequired, ← htotal]
    nodes := hnodes
    distinct := hdistinct.1
    mediaIdentity := hmedia.1
    keyEnvelope := henvelope.1
    policy := hpolicy.1 }

namespace PersistedRuntimeMint

/-- **What every mint record satisfies, its creator state apart.** -/
structure WellFormed (v : PersistedRuntimeMint) : Prop where
  bindings : v.nodeStates.map (·.binding) = v.draft.nodes
  nodeStates : ∀ state ∈ v.nodeStates, state.WellFormed
  contentAvailability : ∀ evidence ∈ v.contentAvailability, evidence.validate = .ok ()

/-- Its creator state passes its check. -/
def CreatorValid (v : PersistedRuntimeMint) : Prop :=
  ∀ creatorState ∈ v.creatorState, creatorState.validate = .ok ()

variable {v w : PersistedRuntimeMint} {bytes : List UInt8}

def body (v : PersistedRuntimeMint) : RecordBody :=
  ⟨v.draft.mintId, v.draft.toRuntimeMintDraftParts, v.nodeStates, v.custodyTerminal,
    v.contentAvailability⟩

omit [Curves] [Crypto] in
theorem mirrors_terminal (v : Option RuntimeCustodyTerminalKind) :
    Mirrors (pushTerminal v) readTerminal v := by
  rcases v with _ | _ | _
  · exact (Mirrors.takeNat _ (by decide)).last rfl
  · exact (Mirrors.takeNat _ (by decide)).last rfl
  · exact (Mirrors.takeNat _ (by decide)).last rfl

theorem mirrors_body (h : v.WellFormed) : Mirrors v.pushBody readBody v.body := by
  have hparts := v.draft.parts_recorded
  have hlen : v.nodeStates.length < 256 ^ 1 := by
    rw [← List.length_map (f := (·.binding)), h.bindings, hparts.nodes]
    decide
  have hthreshold : orCorrupt (ThresholdV1.new (UInt8.ofNat v.draft.threshold.required.toNat)
      (UInt8.ofNat v.draft.threshold.total.toNat)) = .ok v.draft.threshold := by
    rw [UInt8.ofNat_toNat, UInt8.ofNat_toNat, hparts.threshold]
    decide
  refine (Mirrors.takeBytes _ _).bind <| (mirrors_document _).bind <|
    (Mirrors.takeBytes _ _).check (orCorrupt_eq_ok.mpr v.draft.contentAccessId.new_value) <|
    (mirrors_document _).bind <| (mirrors_document _).bind <| (Mirrors.takeBytes _ _).bind <|
    (Mirrors.takeNat _ v.draft.threshold.required.toNat_lt).bind <|
    (Mirrors.takeNat _ v.draft.threshold.total.toNat_lt).check hthreshold <|
    .given fun _ _ => (Mirrors.takeNat _ hlen).bind <|
    (Mirrors.forM fun state hstate => MintNodeState.mirrors (h.nodeStates state hstate)).bind <|
    (mirrors_terminal _).bind ?_
  have hevidence : Mirrors (pushOption RuntimeVerifiedContentAvailability.push
      v.contentAvailability) (readOption RuntimeVerifiedContentAvailability.read)
      v.contentAvailability :=
    mirrors_option fun evidence hmem => RuntimeVerifiedContentAvailability.mirrors
      (h.contentAvailability evidence hmem)
  have hlast := hevidence.map fun contentAvailability =>
    (⟨v.draft.mintId, ⟨v.draft.mediaIdentity, v.draft.contentAccessId, v.draft.keyEnvelope,
      v.draft.policy, v.draft.contentKeyCommitment, v.draft.threshold,
      v.nodeStates.map (·.binding)⟩, v.nodeStates, v.custodyTerminal, contentAvailability⟩ :
        RecordBody)
  rw [h.bindings] at hlast ⊢
  exact hlast

variable [CreatorJson]

omit [Curves] [Crypto] in
theorem mirrors_creatorState {creatorState : Option RuntimeMintCreatorState}
    (h : ∀ state ∈ creatorState, state.validate = .ok ()) :
    Mirrors (pushCreatorState creatorState) readCreatorState creatorState :=
  mirrors_option fun state hstate => (mirrors_nested state.toVec).last <|
    bind_eq_ok.mpr ⟨state, okOr_eq_ok.mpr (CreatorJson.fromSlice_toVec state),
      bind_eq_ok.mpr ⟨(), h state hstate, rfl⟩⟩

/-- **A mint record is read back as it was written.** -/
theorem decodeRecord_encodeRecord (h : v.WellFormed) (hcreator : v.CreatorValid)
    (hencode : encodeRecord v = .ok bytes) : decodeRecord bytes = .ok v := by
  have hm : Mirrors (do v.pushBody; pushCreatorState v.creatorState : Writer Unit)
      (do
        let body ← readBody
        let creatorState ← readCreatorState
        pure (body, creatorState)) (v.body, v.creatorState) :=
    (mirrors_body h).bind ((mirrors_creatorState hcreator).map (Prod.mk v.body))
  refine bind_eq_ok.mpr ⟨_, decodeFile_encodeFile (by decide) hm hencode,
    bind_eq_ok.mpr ⟨v.draft, v.draft.newRecorded_self, bind_eq_ok.mpr ⟨(), ?_, rfl⟩⟩⟩
  exact failIf_eq_ok.mpr (not_not.mpr rfl)

/-- Where its creator state fails its check, it is not read back at all. -/
theorem creatorValid_of_decodeRecord (h : v.WellFormed) (hencode : encodeRecord v = .ok bytes)
    (hdecode : decodeRecord bytes = .ok w) : v.CreatorValid := by
  intro creatorState hstate
  obtain ⟨payload, hpush, rfl⟩ := encodeFile_eq_ok.mp hencode
  obtain ⟨⟨⟩, body, hbody, hcreator⟩ := run_bind_eq_ok.mp hpush
  obtain ⟨bodyBytes, rfl, hreadBody⟩ := mirrors_body h [] _ hbody
  rw [Option.mem_def.mp hstate] at hcreator
  obtain ⟨⟨⟩, _, htag, hnested⟩ := run_bind_eq_ok.mp hcreator
  obtain ⟨tag, rfl, hreadTag⟩ :=
    (Mirrors.takeNat (m := 1) RuntimeMintJournalError.corrupt (by decide)) _ _ htag
  obtain ⟨nested, rfl, hreadNested⟩ := mirrors_nested creatorState.toVec _ _ hnested
  -- the reader gets as far as the creator state, and then checks it
  obtain ⟨_, hfile, _⟩ := bind_eq_ok.mp hdecode
  obtain ⟨_, hopen, hfile⟩ := bind_eq_ok.mp hfile
  rw [openFile_sealFile (by decide), Except.ok.injEq] at hopen
  subst hopen
  obtain ⟨⟨result, rest⟩, hread, _⟩ := bind_eq_ok.mp hfile
  obtain ⟨_, _, hfirst, hread⟩ := run_bind_eq_ok.mp hread
  rw [List.append_assoc, hreadBody] at hfirst
  cases hfirst
  obtain ⟨_, _, hsecond, _⟩ := run_bind_eq_ok.mp hread
  obtain ⟨_, _, htag, hsecond⟩ := run_bind_eq_ok.mp hsecond
  rw [hreadTag] at htag
  cases htag
  obtain ⟨_, _, hvalue, _⟩ := run_bind_eq_ok.mp hsecond
  obtain ⟨_, _, hbytes, hvalue⟩ := run_bind_eq_ok.mp hvalue
  have hall := hreadNested []
  rw [List.append_nil] at hall
  rw [hall] at hbytes
  cases hbytes
  cases hstateOf : creatorStateOf creatorState.toVec with
  | error e =>
    rw [hstateOf] at hvalue
    cases hvalue
  | ok found =>
    obtain ⟨_, hfrom, hcheck⟩ := bind_eq_ok.mp hstateOf
    rw [CreatorJson.fromSlice_toVec, okOr, Except.ok.injEq] at hfrom
    subst hfrom
    obtain ⟨⟨⟩, hcheck, _⟩ := bind_eq_ok.mp hcheck
    exact hcheck

/-- **What is read back is what was written.** -/
theorem eq_of_decodeRecord (h : v.WellFormed) (hencode : encodeRecord v = .ok bytes)
    (hdecode : decodeRecord bytes = .ok w) : w = v :=
  Except.ok.inj (hdecode.symm.trans
    (decodeRecord_encodeRecord h (creatorValid_of_decodeRecord h hencode hdecode) hencode))

omit [CreatorJson] in
/-- The text of a creator state that was written is no longer than its length can say. -/
theorem creator_of_encodeRecord (hencode : encodeRecord v = .ok bytes) :
    ∀ creatorState ∈ v.creatorState, creatorState.toVec.length ≤ 4294967295 := by
  intro creatorState hstate
  obtain ⟨_, h, _⟩ := encodeFile_eq_ok.mp hencode
  obtain ⟨_, _, _, h⟩ := run_bind_eq_ok.mp h
  rw [Option.mem_def.mp hstate] at h
  obtain ⟨_, _, _, h⟩ := run_bind_eq_ok.mp h
  obtain ⟨_, _, hlength, _⟩ := run_bind_eq_ok.mp h
  by_contra hlong
  rw [failIf, if_pos (Nat.lt_of_not_le hlong)] at hlength
  cases hlength

omit [CreatorJson] in
/-- **A record is written**, if the text of its creator state is not too long to say its length. -/
theorem exists_encodeRecord (h : v.WellFormed)
    (hcreator : ∀ state ∈ v.creatorState, state.toVec.length ≤ 4294967295) :
    ∃ bytes, encodeRecord v = .ok bytes := by
  have hparts := v.draft.parts_recorded
  obtain ⟨m, hm, hmedia⟩ := CencFmp4MediaIdentityV1.encodes hparts.mediaIdentity
  have hfew := (CencFmp4MediaIdentityV1.valid_of_validate hparts.mediaIdentity).few
  have hmedia : EncodesWithin v.draft.mediaIdentity 46358 := ⟨m, by omega, hmedia⟩
  have hlen : ¬255 < v.nodeStates.length := by
    rw [← List.length_map (f := (·.binding)), h.bindings, hparts.nodes]
    decide
  have hstates : Writes (v.nodeStates.forM MintNodeState.push) := .forM fun state _ => by
    refine ((Writes.put _).bind <| (Writes.put _).bind <| (Writes.put _).bind (.put _)).bind <|
      (Writes.put _).bind <| (Writes.put _).bind ?_
    cases state.receipt with
    | none => exact .nothing
    | some receipt => exact (Writes.put _).bind <| (Writes.put _).bind (.put _)
  have hterminal : Writes (pushTerminal v.custodyTerminal) := by
    rcases v.custodyTerminal with _ | _ | _ <;> exact .put _
  have havailability : Writes
      (pushOption RuntimeVerifiedContentAvailability.push v.contentAvailability) :=
    writes_option fun evidence hevidence => by
      have he := h.contentAvailability evidence hevidence
      obtain ⟨⟨⟩, h₁, he⟩ := bind_eq_ok.mp he
      obtain ⟨⟨⟩, h₂, he⟩ := bind_eq_ok.mp he
      obtain ⟨⟨⟩, h₃, he⟩ := bind_eq_ok.mp he
      obtain ⟨⟨⟩, h₄, he⟩ := bind_eq_ok.mp he
      obtain ⟨⟨⟩, h₅, he⟩ := bind_eq_ok.mp he
      obtain ⟨⟨⟩, _, hcontent⟩ := bind_eq_ok.mp he
      rw [orInvalidSelection_eq_ok] at hcontent
      obtain ⟨n, hn, hencodes⟩ :=
        EncryptedContentIdentityV1.encodes (valid_of_requireCanonical hcontent)
      exact (writes_text h₁).bind <| (writes_text h₂).bind <| (writes_text h₃).bind <|
        (writes_text h₄).bind <| (writes_text h₅).bind <| (Writes.put _).bind <|
        (Writes.put _).bind <| (Writes.put _).bind <| (Writes.put _).bind <|
        (writes_document ⟨n, hn, hencodes⟩ (by decide)).bind (.put _)
  have hbody : Writes v.pushBody :=
    (Writes.put _).bind <| (writes_document hmedia (by decide)).bind <| (Writes.put _).bind <|
    (writes_document (KeyEnvelopeIdentityV1.encodes hparts.keyEnvelope) (by decide)).bind <|
    (writes_document (RightsPolicyIdentityV1.encodes hparts.policy) (by decide)).bind <|
    (Writes.put _).bind <| (Writes.put _).bind <| (Writes.put _).bind <|
    .given (b := ()) (failIf_eq_ok.mpr hlen) <| (Writes.put _).bind <| hstates.bind <|
    hterminal.bind havailability
  have hcreatorState : Writes (pushCreatorState v.creatorState) :=
    writes_option fun state hstate => writes_nested (hcreator state hstate)
  obtain ⟨payload, hrun⟩ := (hbody.bind hcreatorState) []
  exact ⟨_, encodeFile_eq_ok.mpr ⟨payload, hrun, rfl⟩⟩

omit [CreatorJson] in
/-- **A record that passes its checks fits in its file**: 512 segments, all texts at their longest
and nothing but quotes in them leave 300 bytes. -/
theorem fits_encodeRecord (h : v.WellFormed) (hcreator : v.CreatorValid)
    (hencode : encodeRecord v = .ok bytes) : Fits bytes := by
  have hparts := v.draft.parts_recorded
  obtain ⟨m, hm, hmedia⟩ := CencFmp4MediaIdentityV1.encodes hparts.mediaIdentity
  have hfew := (CencFmp4MediaIdentityV1.valid_of_validate hparts.mediaIdentity).few
  have hmedia : EncodesWithin v.draft.mediaIdentity 46358 := ⟨m, by omega, hmedia⟩
  have hlen : v.nodeStates.length = 3 := by
    rw [← List.length_map (f := (·.binding)), h.bindings, hparts.nodes]
  have hstates : AtMost (v.nodeStates.forM MintNodeState.push) (3 * 198) :=
    hlen ▸ AtMost.forM fun state _ => state.atMost
  have hterminal : AtMost (pushTerminal v.custodyTerminal) 1 := by
    rcases v.custodyTerminal with _ | _ | _ <;> exact .put (beBytes_length _ _).le
  have hbody : AtMost v.pushBody _ :=
    (AtMost.put (Bytes.length_toList _).le).bind <| (atMost_document hmedia).bind <|
    (AtMost.put (Bytes.length_toList _).le).bind <|
    (atMost_document (KeyEnvelopeIdentityV1.encodes hparts.keyEnvelope)).bind <|
    (atMost_document (RightsPolicyIdentityV1.encodes hparts.policy)).bind <|
    (AtMost.put (Bytes.length_toList _).le).bind <| (AtMost.put (beBytes_length _ _).le).bind <|
    (AtMost.put (beBytes_length _ _).le).bind <| .given fun _ _ =>
    (AtMost.put (beBytes_length _ _).le).bind <| hstates.bind <| hterminal.bind <|
    atMost_option fun evidence hevidence =>
      RuntimeVerifiedContentAvailability.atMost (h.contentAvailability evidence hevidence)
  have hstate : AtMost (pushCreatorState v.creatorState) _ := atMost_option fun state hstate =>
    atMost_nested (RuntimeMintCreatorState.length_toVec (hcreator state hstate))
  have hbytes := length_encodeFile (by decide) (hbody.bind hstate) hencode
  rw [Fits, MAX_STORE_FILE_BYTES]
  omega

end PersistedRuntimeMint

end

end ElastosRuntime.MintJournal
