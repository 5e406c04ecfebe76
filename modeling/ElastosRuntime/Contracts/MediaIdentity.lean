/-
# The identity of an encrypted medium

What a mint draft says about the medium it is for (`media.rs` of the provider contracts): the
digests and lengths of the initialisation segment and of every encrypted segment, how the medium
declares itself, and a manifest root over all of these.  The provider contracts bring their own
writers and readers of canonical records; they differ from those of `Canonical` in the names their
errors carry and nowhere else, so the two records are instances of the same trait.

The number of segments is capped at 512, which bounds the length of the identity (`encodes`).
-/
import ElastosRuntime.Contracts.Verification

namespace ElastosRuntime.Contracts

open Codec

def CENC_FMP4_MEDIA_SUITE_ID_V1 : String := "cenc-fmp4-aes128ctr/v1"
def MEDIA_MANIFEST_ROOT_DOMAIN_V1 : List UInt8 :=
  utf8Bytes "elastos.protected-content.cenc-fmp4-manifest-root/v1"
def MAX_MEDIA_DECLARATION_BYTES_V1 : Nat := 255
def MAX_MEDIA_SEGMENTS_V1 : Nat := 512

/-! ## 1. Declarations and fields -/

/-- Between 1 and `maximum` printable ASCII characters. -/
def validateVisibleAscii (value field : String) (maximum : Nat) : Except ContractError Unit := do
  rejectIf (utf8Bytes value = [] ∨ maximum < (utf8Bytes value).length) (.invalidField field)
  rejectIf (¬(utf8Bytes value).all fun byte => 0x21 ≤ byte && byte ≤ 0x7e) (.invalidField field)

variable {field field' : String}

variable {maximum : Nat}

theorem length_le_of_validateVisibleAscii {value : String}
    (h : validateVisibleAscii value field maximum = .ok ()) :
    (utf8Bytes value).length ≤ maximum := by
  obtain ⟨⟨⟩, hlen, _⟩ := bind_eq_ok.mp h
  rw [rejectIf_eq_ok, not_or] at hlen
  exact Nat.le_of_not_lt hlen.2

/-- A byte string behind its length, whose error names the field. -/
def pushBytes (field : String) (value : List UInt8) : Encoder Unit := do
  rejectIf (65535 < value.length) (.fieldTooLong field)
  Encoder.u16 (UInt16.ofNat value.length)
  put value

def pushString (value : String) : Encoder Unit := pushBytes "canonical string" (utf8Bytes value)

def pushNested {α : Type} [CanonicalBody α] (field : String) (value : α) : Encoder Unit := do
  let bytes ← canonicalBytes value
  pushBytes field bytes

theorem mirrors_pushBytes {bs : List UInt8} (h : bs.length ≤ 65535 → bs.length ≤ maximum) :
    Mirrors (pushBytes field bs) (Decoder.bytes field' maximum) bs := by
  refine .given fun _ hfit => ?_
  have hbytes : Mirrors _ (Decoder.bytes field' maximum) bs := mirrors_bytes h
  rw [Encoder.bytes, rejectIf_eq_ok.mpr (rejectIf_eq_ok.mp hfit)] at hbytes
  exact hbytes

theorem mirrors_pushString {s : String} (h : (utf8Bytes s).length ≤ maximum) :
    Mirrors (pushString s) (Decoder.string field maximum) s :=
  (mirrors_pushBytes fun _ => h).last (by simp only [Decoder.fromUtf8, ofUtf8Bytes?_utf8Bytes])

theorem mirrors_pushNested {α : Type} [CanonicalBody α] [LawfulBody α] (value : α) :
    Mirrors (pushNested field value) (Decoder.nested field') value :=
  .given fun _ hbytes =>
    (mirrors_pushBytes id).last (fromCanonicalBytes_of_canonicalBytes hbytes)

theorem emits_pushBytes (field : String) {bs : List UInt8} (h : bs.length ≤ 65535) :
    Emits (pushBytes field bs) (2 + bs.length) := by
  have hlen : Emits (Encoder.u16 (UInt16.ofNat bs.length)) 2 := .put _
  exact .given (rejectIf_eq_ok.mpr (Nat.not_lt.mpr h)) (hlen.bind (.put bs))

theorem Encodes.pushNested {α : Type} [CanonicalBody α] {value : α} {n : Nat}
    (h : Encodes value n) (field : String) (hn : n ≤ 65535) : Emits (Contracts.pushNested field value) (2 + n) := by
  obtain ⟨bytes, hbytes, rfl⟩ := h
  exact .given hbytes (emits_pushBytes field hn)

/-! ## 2. One segment -/

structure CencFmp4SegmentIdentityV1 where
  ciphertextSha256 : Digest32
  ciphertextBytes : UInt64
deriving DecidableEq

namespace CencFmp4SegmentIdentityV1

def validate (v : CencFmp4SegmentIdentityV1) : Except ContractError Unit :=
  rejectIf (v.ciphertextBytes = 0 ∨ MAX_ENCRYPTED_CONTENT_BYTES < v.ciphertextBytes)
    (.invalidField "ciphertext_bytes")

def newRecorded (ciphertextSha256 : Digest32) (ciphertextBytes : UInt64) :
    Except ContractError CencFmp4SegmentIdentityV1 :=
  build validate ⟨ciphertextSha256, ciphertextBytes⟩

instance : CanonicalBody CencFmp4SegmentIdentityV1 where
  DOMAIN := "elastos.protected-content.cenc-fmp4-segment/v1"
  validate := validate
  encodeFields v := do
    Encoder.fixed v.ciphertextSha256
    Encoder.u64 v.ciphertextBytes
  decodeFields := do newRecorded (← Decoder.fixed 32) (← Decoder.u64)

instance : LawfulBody CencFmp4SegmentIdentityV1 where
  mirrors v h :=
    (mirrors_fixed v.ciphertextSha256).bind <| (mirrors_u64 v.ciphertextBytes).last (build_eq h)

theorem encodes {v : CencFmp4SegmentIdentityV1} (h : v.validate = .ok ()) : Encodes v 87 :=
  .of_emits h ((emits_fixed v.ciphertextSha256).bind (emits_u64 v.ciphertextBytes)) (by decide)

end CencFmp4SegmentIdentityV1

/-! ## 3. The medium -/

structure CencFmp4MediaIdentityV1 where
  encryptedContent : EncryptedContentIdentityV1
  mediaManifestRoot : Digest32
  initSegmentSha256 : Digest32
  initSegmentBytes : UInt64
  mimeType : String
  codecs : String
  encryptedSegments : List CencFmp4SegmentIdentityV1
deriving DecidableEq

namespace CencFmp4MediaIdentityV1

def validateMimeAndCodecs (v : CencFmp4MediaIdentityV1) : Except ContractError Unit := do
  validateVisibleAscii v.mimeType "mime_type" MAX_MEDIA_DECLARATION_BYTES_V1
  validateVisibleAscii v.codecs "codecs" MAX_MEDIA_DECLARATION_BYTES_V1

/-- The sum of the segments' lengths, with the addition that notices an overflow. -/
def sumEncryptedBytes (segments : List CencFmp4SegmentIdentityV1) : Except ContractError UInt64 :=
  segments.foldlM (fun acc segment => do
    rejectIf (2 ^ 64 ≤ acc.toNat + segment.ciphertextBytes.toNat)
      (.invalidField "total_encrypted_bytes")
    pure (acc + segment.ciphertextBytes)) 0

def computeMediaManifestRoot [Crypto] (v : CencFmp4MediaIdentityV1) :
    Except ContractError Digest32 := do
  let content ← (canonicalBytes v.encryptedContent).mapError fun _ =>
    .invalidField "encrypted_content"
  let segments ← v.encryptedSegments.mapM fun segment =>
    (canonicalBytes segment).mapError fun _ => ContractError.invalidField "encrypted_segments"
  pure (Crypto.sha256 (MEDIA_MANIFEST_ROOT_DOMAIN_V1 ++ utf8Bytes CENC_FMP4_MEDIA_SUITE_ID_V1 ++
    content ++ v.initSegmentSha256.toList ++ beBytes 8 v.initSegmentBytes.toNat ++
    utf8Bytes v.mimeType ++ [0] ++ utf8Bytes v.codecs ++ [0] ++ segments.flatten))

def validate [Crypto] (v : CencFmp4MediaIdentityV1) : Except ContractError Unit := do
  let _ ← (canonicalBytes v.encryptedContent).mapError fun _ => .invalidField "encrypted_content"
  v.validateMimeAndCodecs
  rejectIf (v.initSegmentBytes = 0 ∨ MAX_ENCRYPTED_CONTENT_BYTES < v.initSegmentBytes)
    (.invalidField "init_segment_bytes")
  rejectIf (v.encryptedSegments = [] ∨ MAX_MEDIA_SEGMENTS_V1 < v.encryptedSegments.length)
    (.invalidField "encrypted_segments")
  v.encryptedSegments.forM CencFmp4SegmentIdentityV1.validate
  let total ← sumEncryptedBytes v.encryptedSegments
  rejectIf (v.encryptedContent.ciphertextBytes ≠ total) (.invalidField "total_encrypted_bytes")
  let root ← v.computeMediaManifestRoot
  rejectIf (v.mediaManifestRoot ≠ root) (.invalidField "media_manifest_root")

def newRecorded [Crypto] (encryptedContent : EncryptedContentIdentityV1)
    (mediaManifestRoot initSegmentSha256 : Digest32) (initSegmentBytes : UInt64)
    (mimeType codecs : String) (encryptedSegments : List CencFmp4SegmentIdentityV1) :
    Except ContractError CencFmp4MediaIdentityV1 :=
  build validate
    ⟨encryptedContent, mediaManifestRoot, initSegmentSha256, initSegmentBytes, mimeType, codecs,
      encryptedSegments⟩

instance [Crypto] : CanonicalBody CencFmp4MediaIdentityV1 where
  DOMAIN := "elastos.protected-content.cenc-fmp4-media-identity/v1"
  validate := validate
  encodeFields v := do
    pushString CENC_FMP4_MEDIA_SUITE_ID_V1
    pushNested "encrypted_content" v.encryptedContent
    Encoder.fixed v.mediaManifestRoot
    Encoder.fixed v.initSegmentSha256
    Encoder.u64 v.initSegmentBytes
    pushString v.mimeType
    pushString v.codecs
    rejectIf (65535 < v.encryptedSegments.length) (.fieldTooLong "encrypted_segments")
    Encoder.u16 (UInt16.ofNat v.encryptedSegments.length)
    v.encryptedSegments.forM (pushNested "encrypted_segment")
  decodeFields := do
    let suite ← Decoder.string "suite_id" MAX_MEDIA_DECLARATION_BYTES_V1
    rejectIf (suite ≠ CENC_FMP4_MEDIA_SUITE_ID_V1) (.invalidField "suite_id")
    let encryptedContent ← Decoder.nested "encrypted_content"
    let mediaManifestRoot ← Decoder.fixed 32
    let initSegmentSha256 ← Decoder.fixed 32
    let initSegmentBytes ← Decoder.u64
    let mimeType ← Decoder.string "mime_type" MAX_MEDIA_DECLARATION_BYTES_V1
    let codecs ← Decoder.string "codecs" MAX_MEDIA_DECLARATION_BYTES_V1
    let segmentCount ← Decoder.u16
    rejectIf (segmentCount = 0 ∨ MAX_MEDIA_SEGMENTS_V1 < segmentCount.toNat)
      (.invalidField "encrypted_segments")
    let encryptedSegments ← many (Decoder.nested "encrypted_segment") segmentCount.toNat
    newRecorded encryptedContent mediaManifestRoot initSegmentSha256 initSegmentBytes mimeType
      codecs encryptedSegments

section

variable [Crypto] {v : CencFmp4MediaIdentityV1}

/-- What the length of an encoding depends on is bounded by the check. -/
structure Valid (v : CencFmp4MediaIdentityV1) : Prop where
  encryptedContent : v.encryptedContent.validate = .ok ()
  mimeType : (utf8Bytes v.mimeType).length ≤ 255
  codecs : (utf8Bytes v.codecs).length ≤ 255
  nonempty : v.encryptedSegments ≠ []
  few : v.encryptedSegments.length ≤ 512
  segments : ∀ segment ∈ v.encryptedSegments, segment.validate = .ok ()

theorem valid_of_validate (h : v.validate = .ok ()) : v.Valid := by
  obtain ⟨_, hcontent, h⟩ := bind_eq_ok.mp h
  obtain ⟨⟨⟩, hdeclared, h⟩ := bind_eq_ok.mp h
  obtain ⟨⟨⟩, _, h⟩ := bind_eq_ok.mp h
  obtain ⟨⟨⟩, hcount, h⟩ := bind_eq_ok.mp h
  obtain ⟨⟨⟩, hsegments, _⟩ := bind_eq_ok.mp h
  obtain ⟨⟨⟩, hmime, hcodecs⟩ := bind_eq_ok.mp hdeclared
  rw [rejectIf_eq_ok, not_or] at hcount
  exact {
    encryptedContent := (canonicalBytes_eq_ok.mp (mapError_eq_ok.mp hcontent)).1
    mimeType := length_le_of_validateVisibleAscii hmime
    codecs := length_le_of_validateVisibleAscii hcodecs
    nonempty := hcount.1
    few := Nat.le_of_not_lt hcount.2
    segments := forM_eq_ok.mp hsegments }

instance : LawfulBody CencFmp4MediaIdentityV1 where
  mirrors v h := by
    have hv := valid_of_validate h
    have hsmall : v.encryptedSegments.length < 2 ^ 16 := by have := hv.few; omega
    have hnat : (UInt16.ofNat v.encryptedSegments.length).toNat = v.encryptedSegments.length :=
      UInt16.toNat_ofNat_of_lt' hsmall
    refine (mirrors_pushString (by decide)).bind <| .skip (b := ()) (rejectIf_eq_ok.mpr ?_) <|
      (mirrors_pushNested _).bind <| (mirrors_fixed _).bind <| (mirrors_fixed _).bind <|
      (mirrors_u64 _).bind <| (mirrors_pushString hv.mimeType).bind <|
      (mirrors_pushString hv.codecs).bind <| .given fun _ _ => (mirrors_u16 _).bind <|
      .skip (b := ()) ?_ ?_
    · exact not_not.mpr rfl
    · rw [rejectIf_eq_ok, not_or, ← UInt16.toNat_inj, hnat]
      exact ⟨by simpa using hv.nonempty, Nat.not_lt.mpr hv.few⟩
    · rw [hnat]
      exact (Mirrors.forM fun segment _ => mirrors_pushNested segment).last (build_eq h)

/-- An identity of `n` segments takes 89 bytes for each, and less than a thousand for the rest. -/
theorem encodes (h : v.validate = .ok ()) :
    ∃ m ≤ 790 + v.encryptedSegments.length * 89, Encodes v m := by
  have hv := valid_of_validate h
  obtain ⟨k, hk, hcontent⟩ := EncryptedContentIdentityV1.encodes hv.encryptedContent
  have hsegments := Emits.forM fun segment hmem =>
    ((CencFmp4SegmentIdentityV1.encodes (hv.segments segment hmem)).pushNested
      "encrypted_segment" (by omega))
  have hcount : rejectIf (65535 < v.encryptedSegments.length)
      (.fieldTooLong "encrypted_segments") = .ok () :=
    rejectIf_eq_ok.mpr (by have := hv.few; omega)
  have hlen : Emits (Encoder.u16 (UInt16.ofNat v.encryptedSegments.length)) 2 := .put _
  have hsuiteFits : (utf8Bytes CENC_FMP4_MEDIA_SUITE_ID_V1).length ≤ 65535 := by decide
  have hmime := hv.mimeType
  have hcodecs := hv.codecs
  have hfields := (emits_pushBytes "canonical string" hsuiteFits).bind <|
    (hcontent.pushNested "encrypted_content" (by omega)).bind <|
    (emits_fixed v.mediaManifestRoot).bind <| (emits_fixed v.initSegmentSha256).bind <|
    (emits_u64 v.initSegmentBytes).bind <|
    (emits_pushBytes "canonical string" (hmime.trans (by decide))).bind <|
    (emits_pushBytes "canonical string" (hcodecs.trans (by decide))).bind <|
    Emits.given (k := fun _ => do
      Encoder.u16 (UInt16.ofNat v.encryptedSegments.length)
      v.encryptedSegments.forM (pushNested "encrypted_segment")) hcount (hlen.bind hsegments)
  have hheader : (domainHeader (CanonicalBody.DOMAIN CencFmp4MediaIdentityV1)).length = 54 := by
    dsimp only [CanonicalBody.DOMAIN]
    decide
  have hsuite : (utf8Bytes CENC_FMP4_MEDIA_SUITE_ID_V1).length = 22 := by decide
  have hencodes : Encodes v _ := .of_emits h hfields rfl
  rw [hheader, hsuite] at hencodes
  exact ⟨_, by omega, hencodes⟩

end

end CencFmp4MediaIdentityV1

end ElastosRuntime.Contracts
