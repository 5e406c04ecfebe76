/-
# The frame of a payload

What `seal` writes and `decrypt` reads, as one function of the header, the content key and the
plaintext: `frame`.  The writer and the reader compute the number of chunks, their lengths and the
total each for itself with checked arithmetic; sections 1 and 2 say that all of it comes out as
the lengths of the parts of `frame`.

Section 4 has the writer: whatever pieces the plaintext comes in, `seal` writes the frame and
returns the identity of it (`exists_seal`).
-/
import ElastosRuntime.Custody.Payload

namespace ElastosRuntime.Custody

open Codec Contracts Streams

/-! ## 1. Header bytes -/

/-- Bytes behind their length. -/
def lenPrefixed (bytes : List UInt8) : List UInt8 := beBytes 2 bytes.length ++ bytes

theorem length_lenPrefixed (bytes : List UInt8) :
    (lenPrefixed bytes).length = 2 + bytes.length := by
  rw [lenPrefixed, List.length_append, beBytes_length]

theorem run_writeLenPrefixed {bytes : List UInt8} (h : bytes.length < 65536) (out : List UInt8) :
    (writeLenPrefixed bytes).run out = .ok ((), out ++ lenPrefixed bytes) := by
  have hfits : failIf (65536 ≤ bytes.length) (CustodyError.invalidPayload "header_bytes") = .ok () :=
    failIf_eq_ok.mpr (by omega)
  rw [writeLenPrefixed, hfits, lenPrefixed, ← List.append_assoc]
  rfl

theorem mirrors_lenPrefixed (field : String) {bytes : List UInt8} (h : bytes.length < 65536) :
    Mirrors (writeLenPrefixed bytes) (readLenPrefixed field) bytes :=
  .given fun _ _ => (Mirrors.takeNat _ (by omega)).bind (.take _ bytes)

theorem readLenPrefixed_eq_ok {field : String} {s s' bytes : List UInt8}
    (h : (readLenPrefixed field).run s = .ok (bytes, s')) : s = lenPrefixed bytes ++ s' := by
  obtain ⟨n, t, hn, ht⟩ := run_bind_eq_ok.mp h
  obtain ⟨rfl, -⟩ := takeNat_eq_ok hn
  obtain ⟨rfl, rfl⟩ := take_eq_ok ht
  rw [lenPrefixed, List.append_assoc]

theorem readHeaderFields_eq_ok {bs rest : List UInt8} {fields : HeaderFields}
    (h : readHeaderFields.run bs = .ok (fields, rest)) :
    fields.plaintextBytes < 2 ^ 64 ∧ bs = lenPrefixed fields.schema ++ lenPrefixed fields.suite ++
      lenPrefixed fields.contentType ++ beBytes 8 fields.plaintextBytes ++
        fields.baseNonce.toList ++ fields.contentKeyCommitment.toList ++ rest := by
  obtain ⟨schema, t₁, h₁, h⟩ := run_bind_eq_ok.mp h
  obtain ⟨suite, t₂, h₂, h⟩ := run_bind_eq_ok.mp h
  obtain ⟨contentType, t₃, h₃, h⟩ := run_bind_eq_ok.mp h
  obtain ⟨plaintextBytes, t₄, h₄, h⟩ := run_bind_eq_ok.mp h
  obtain ⟨baseNonce, t₅, h₅, h⟩ := run_bind_eq_ok.mp h
  obtain ⟨commitment, t₆, h₆, h⟩ := run_bind_eq_ok.mp h
  cases h
  obtain ⟨h₄, hlt⟩ := takeNat_eq_ok h₄
  refine ⟨hlt, ?_⟩
  rw [readLenPrefixed_eq_ok h₁, readLenPrefixed_eq_ok h₂, readLenPrefixed_eq_ok h₃, h₄,
    takeBytes_eq_ok h₅, takeBytes_eq_ok h₆]
  simp only [List.append_assoc]

namespace AuthenticatedChunkPayloadHeaderV1

variable {header header' : AuthenticatedChunkPayloadHeaderV1}

/-- The header as it stands in the frame. -/
def bytes (header : AuthenticatedChunkPayloadHeaderV1) : List UInt8 :=
  lenPrefixed (utf8Bytes PAYLOAD_SCHEMA_V1) ++ lenPrefixed (utf8Bytes PAYLOAD_SUITE_ID_V1) ++
    lenPrefixed (utf8Bytes header.contentType) ++ beBytes 8 header.plaintextBytes.toNat ++
      header.baseNonce.toList ++ header.contentKeyCommitment.toList

theorem length_bytes : header.bytes.length = header.encodedLen := by
  simp only [bytes, encodedLen, List.length_append, length_lenPrefixed, beBytes_length,
    Bytes.length_toList]
  omega

/-- The lengths that the header's strings may have fit in two bytes. -/
theorem contentType_lt (h : header.validateBasicFields = .ok ()) :
    (utf8Bytes header.contentType).length < 65536 := by
  obtain ⟨⟨⟩, hcontentType, _⟩ := bind_eq_ok.mp h
  rw [failIf_eq_ok, not_or, not_or, MAX_PAYLOAD_CONTENT_TYPE_BYTES_V1] at hcontentType
  omega

theorem encodedLen_lt (h : header.validateBasicFields = .ok ()) : header.encodedLen < 512 := by
  obtain ⟨⟨⟩, hcontentType, _⟩ := bind_eq_ok.mp h
  rw [failIf_eq_ok, not_or, not_or, MAX_PAYLOAD_CONTENT_TYPE_BYTES_V1] at hcontentType
  have hschema : (utf8Bytes PAYLOAD_SCHEMA_V1).length ≤ 64 := by decide
  have hsuite : (utf8Bytes PAYLOAD_SUITE_ID_V1).length ≤ 64 := by decide
  rw [encodedLen]
  omega

theorem run_encodeFields (h : header.validateBasicFields = .ok ()) (out : List UInt8) :
    header.encodeFields.run out = .ok ((), out ++ header.bytes) := by
  have hschema : (utf8Bytes PAYLOAD_SCHEMA_V1).length < 65536 := by decide
  have hsuite : (utf8Bytes PAYLOAD_SUITE_ID_V1).length < 65536 := by decide
  simp only [bytes, ← List.append_assoc]
  exact run_bind_eq_ok.mpr ⟨(), _, run_writeLenPrefixed hschema _,
    run_bind_eq_ok.mpr ⟨(), _, run_writeLenPrefixed hsuite _,
      run_bind_eq_ok.mpr ⟨(), _, run_writeLenPrefixed (contentType_lt h) _, rfl⟩⟩⟩

theorem encodedBytes_eq (h : header.validateBasicFields = .ok ()) :
    header.encodedBytes = .ok header.bytes :=
  bind_eq_ok.mpr ⟨(), h, bind_eq_ok.mpr ⟨_, run_encodeFields h [], rfl⟩⟩

/-- What stands before the chunks. -/
def framePrefix (header : AuthenticatedChunkPayloadHeaderV1) : List UInt8 :=
  PAYLOAD_MAGIC_V1.toList ++ beBytes 2 header.bytes.length ++ header.bytes

theorem framedPrefixBytes_eq (h : header.validateBasicFields = .ok ()) :
    header.framedPrefixBytes = .ok header.framePrefix := by
  refine bind_eq_ok.mpr ⟨_, encodedBytes_eq h, bind_eq_ok.mpr ⟨(), failIf_eq_ok.mpr ?_, rfl⟩⟩
  have hlen := encodedLen_lt h
  rw [length_bytes]
  omega

theorem length_framePrefix : header.framePrefix.length = 6 + header.encodedLen := by
  rw [framePrefix, List.length_append, List.length_append, beBytes_length, length_bytes]
  rfl

/-! ### Decoding -/

theorem mirrors_fields (h : header.validateBasicFields = .ok ()) :
    Mirrors header.encodeFields readHeaderFields
      ⟨utf8Bytes PAYLOAD_SCHEMA_V1, utf8Bytes PAYLOAD_SUITE_ID_V1, utf8Bytes header.contentType,
        header.plaintextBytes.toNat, header.baseNonce, header.contentKeyCommitment⟩ :=
  (mirrors_lenPrefixed _ (by decide)).bind <| (mirrors_lenPrefixed _ (by decide)).bind <|
    (mirrors_lenPrefixed _ (contentType_lt h)).bind <|
      (Mirrors.takeNat _ header.plaintextBytes.toNat_lt).bind <|
        (Mirrors.takeBytes _ _).bind <| (Mirrors.takeBytes _ _).map _

theorem validate_basic (h : header.validate = .ok ()) : header.validateBasicFields = .ok () := by
  obtain ⟨⟨⟩, hbasic, _⟩ := bind_eq_ok.mp h
  exact hbasic

/-- **The decoder reads every accepted header back**, -/
theorem decodeHeaderBytesV1_bytes (h : header.validate = .ok ()) :
    decodeHeaderBytesV1 header.bytes = .ok header := by
  obtain ⟨bs, hbs, hread⟩ :=
    mirrors_fields (validate_basic h) [] _ (run_encodeFields (validate_basic h) [])
  have hfields := hread []
  rw [List.append_nil, ← hbs.trans (List.nil_append _), List.nil_append] at hfields
  refine bind_eq_ok.mpr ⟨_, hfields, bind_eq_ok.mpr ⟨(), failIf_eq_ok.mpr (not_not.mpr rfl), ?_⟩⟩
  refine bind_eq_ok.mpr ⟨(), failIf_eq_ok.mpr (not_not.mpr rfl), ?_⟩
  refine bind_eq_ok.mpr ⟨(), failIf_eq_ok.mpr (not_not.mpr rfl), ?_⟩
  refine bind_eq_ok.mpr ⟨_, okOr_eq_ok.mpr (ofUtf8Bytes?_utf8Bytes _), ?_⟩
  rw [newAuthenticated, UInt64.ofNat_toNat]
  exact bind_eq_ok.mpr ⟨(), h, rfl⟩

/-- and nothing but the bytes of a header. -/
theorem decodeHeaderBytesV1_eq_ok {bs : List UInt8} (h : decodeHeaderBytesV1 bs = .ok header) :
    header.validate = .ok () ∧ bs = header.bytes := by
  obtain ⟨⟨fields, trailing⟩, hfields, h⟩ := bind_eq_ok.mp h
  obtain ⟨⟨⟩, htrailing, h⟩ := bind_eq_ok.mp h
  obtain ⟨⟨⟩, hschema, h⟩ := bind_eq_ok.mp h
  obtain ⟨⟨⟩, hsuite, h⟩ := bind_eq_ok.mp h
  obtain ⟨contentType, htext, h⟩ := bind_eq_ok.mp h
  obtain ⟨⟨⟩, hvalid, h⟩ := bind_eq_ok.mp h
  rw [failIf_eq_ok, not_not] at htrailing hschema hsuite
  rw [okOr_eq_ok] at htext
  cases h
  refine ⟨hvalid, ?_⟩
  obtain ⟨hlt, rfl⟩ := readHeaderFields_eq_ok hfields
  have hplaintextBytes : (UInt64.ofNat fields.plaintextBytes).toNat = fields.plaintextBytes :=
    UInt64.toNat_ofNat_of_lt' hlt
  rw [bytes, hplaintextBytes, utf8Bytes_of_ofUtf8Bytes? htext, ← hschema, ← hsuite, htrailing,
    List.append_nil]

/-- Two headers with the same bytes are the same. -/
theorem bytes_inj (h : header.validate = .ok ()) (h' : header'.validate = .ok ())
    (heq : header.bytes = header'.bytes) : header = header' := by
  have hdecoded := decodeHeaderBytesV1_bytes h
  rw [heq, decodeHeaderBytesV1_bytes h'] at hdecoded
  exact (Except.ok.inj hdecoded).symm

/-! ## 2. Lengths -/

/-- The length of a full chunk. -/
def chunkBytes : Nat := 1048576

theorem toNat_chunkBytes : PAYLOAD_PLAINTEXT_CHUNK_BYTES_V1.toNat = chunkBytes := rfl

/-- The number of chunks. -/
def chunks (header : AuthenticatedChunkPayloadHeaderV1) : Nat :=
  (header.plaintextBytes.toNat + 1048575) / chunkBytes

/-- The length of the frame. -/
def framedLength (header : AuthenticatedChunkPayloadHeaderV1) : Nat :=
  6 + header.encodedLen + header.plaintextBytes.toNat + 16 * header.chunks

theorem chunkCount_eq_ok {count : UInt64} (h : header.chunkCount = .ok count) :
    count.toNat = header.chunks := by
  obtain ⟨padded, hpadded, h⟩ := bind_eq_ok.mp h
  have hsum := checkedAdd_eq_some.mp (okOr_eq_ok.mp hpadded)
  cases h
  rw [UInt64.toNat_div, hsum]
  rfl

theorem expectedFramedBytes_eq_ok {framed : UInt64}
    (h : header.expectedFramedBytes = .ok framed) : framed.toNat = header.framedLength := by
  obtain ⟨⟨⟩, _, h⟩ := bind_eq_ok.mp h
  obtain ⟨headerBytes, hheader, h⟩ := bind_eq_ok.mp h
  obtain ⟨prefixBytes, hprefix, h⟩ := bind_eq_ok.mp h
  obtain ⟨count, hcount, h⟩ := bind_eq_ok.mp h
  obtain ⟨tagBytes, htag, h⟩ := bind_eq_ok.mp h
  obtain ⟨withHeader, hwithHeader, h⟩ := Option.bind_eq_some_iff.mp (okOr_eq_ok.mp h)
  obtain ⟨withPlaintext, hwithPlaintext, h⟩ := Option.bind_eq_some_iff.mp h
  rw [okOr_eq_ok, u64TryFrom_eq_some] at hheader hprefix
  have htag := checkedMul_eq_some.mp (okOr_eq_ok.mp htag)
  rw [checkedAdd_eq_some] at hwithHeader hwithPlaintext h
  rw [chunkCount_eq_ok hcount, PAYLOAD_TAG_BYTES_V1] at htag
  rw [h, hwithPlaintext, hwithHeader, hheader, hprefix, htag, framedLength,
    PAYLOAD_HEADER_LENGTH_BYTES_V1]
  have htagBytes : (16 : UInt64).toNat = 16 := rfl
  rw [htagBytes]
  omega

/-- The checked sums go through when the plaintext is short enough for the frame to be counted. -/
theorem exists_chunkCount (h : header.framedLength < 2 ^ 63) :
    ∃ count, header.chunkCount = .ok count := by
  have hfits : header.plaintextBytes.toNat + (PAYLOAD_PLAINTEXT_CHUNK_BYTES_V1 - 1).toNat <
      UInt64.size := by
    have hpad : (PAYLOAD_PLAINTEXT_CHUNK_BYTES_V1 - 1).toNat = 1048575 := rfl
    rw [framedLength] at h
    rw [hpad, UInt64.size]
    omega
  exact ⟨_, bind_eq_ok.mpr ⟨_, okOr_eq_ok.mpr (if_pos hfits), rfl⟩⟩

theorem exists_checkedAdd {a b : UInt64} (h : a.toNat + b.toNat < 2 ^ 64) :
    ∃ c, checkedAdd a b = some c ∧ c.toNat = a.toNat + b.toNat := by
  have hsum : checkedAdd a b = some (a + b) := if_pos h
  exact ⟨_, hsum, checkedAdd_eq_some.mp hsum⟩

theorem exists_u64TryFrom {n : Nat} (h : n < 2 ^ 64) :
    ∃ c, u64TryFrom n = some c ∧ c.toNat = n := by
  have hn : u64TryFrom n = some (UInt64.ofNat n) := if_pos h
  exact ⟨_, hn, u64TryFrom_eq_some.mp hn⟩

theorem exists_expectedFramedBytes (hbasic : header.validateBasicFields = .ok ())
    (h : header.framedLength < 2 ^ 63) :
    ∃ framed, header.expectedFramedBytes = .ok framed ∧ framed.toNat = header.framedLength := by
  suffices hexists : ∃ framed, header.expectedFramedBytes = .ok framed by
    obtain ⟨framed, hframed⟩ := hexists
    exact ⟨framed, hframed, expectedFramedBytes_eq_ok hframed⟩
  obtain ⟨count, hcount⟩ := exists_chunkCount h
  have hchunks := chunkCount_eq_ok hcount
  rw [framedLength] at h
  have hlen := encodedLen_lt hbasic
  obtain ⟨headerBytes, hheader, hheaderNat⟩ :=
    exists_u64TryFrom (n := header.encodedLen) (by omega)
  obtain ⟨prefixBytes, hprefix, hprefixNat⟩ :=
    exists_u64TryFrom (n := 4 + PAYLOAD_HEADER_LENGTH_BYTES_V1) (by decide)
  have htagBytes : PAYLOAD_TAG_BYTES_V1.toNat = 16 := rfl
  have hmul : checkedMul count PAYLOAD_TAG_BYTES_V1 = some (count * PAYLOAD_TAG_BYTES_V1) := by
    refine if_pos ?_
    rw [htagBytes, hchunks, UInt64.size]
    omega
  have hmulNat := checkedMul_eq_some.mp hmul
  rw [htagBytes, hchunks] at hmulNat
  rw [PAYLOAD_HEADER_LENGTH_BYTES_V1] at hprefixNat
  obtain ⟨withHeader, hwithHeader, hwithHeaderNat⟩ :=
    exists_checkedAdd (a := prefixBytes) (b := headerBytes) (by omega)
  obtain ⟨withPlaintext, hwithPlaintext, hwithPlaintextNat⟩ :=
    exists_checkedAdd (a := withHeader) (b := header.plaintextBytes) (by omega)
  obtain ⟨framed, hframed, -⟩ :=
    exists_checkedAdd (a := withPlaintext) (b := count * PAYLOAD_TAG_BYTES_V1) (by omega)
  refine ⟨framed, bind_eq_ok.mpr ⟨(), hbasic, bind_eq_ok.mpr ⟨_, okOr_eq_ok.mpr hheader, ?_⟩⟩⟩
  refine bind_eq_ok.mpr ⟨_, okOr_eq_ok.mpr hprefix, bind_eq_ok.mpr ⟨count, hcount, ?_⟩⟩
  refine bind_eq_ok.mpr ⟨_, okOr_eq_ok.mpr hmul, okOr_eq_ok.mpr ?_⟩
  rw [hwithHeader, Option.bind_eq_bind, Option.bind_some, hwithPlaintext]
  exact hframed

/-- **What a header has to be**: its own fields in order, and a frame that is not too long. -/
theorem validate_eq_ok : header.validate = .ok () ↔
    header.validateBasicFields = .ok () ∧
      header.framedLength ≤ MAX_ENCRYPTED_CONTENT_BYTES.toNat := by
  constructor
  · intro h
    obtain ⟨⟨⟩, hbasic, h⟩ := bind_eq_ok.mp h
    obtain ⟨framed, hframed, h⟩ := bind_eq_ok.mp h
    rw [failIf_eq_ok, UInt64.not_lt, UInt64.le_iff_toNat_le, expectedFramedBytes_eq_ok hframed] at h
    exact ⟨hbasic, h⟩
  · rintro ⟨hbasic, hlen⟩
    have hmax : MAX_ENCRYPTED_CONTENT_BYTES.toNat = 2 ^ 50 := rfl
    obtain ⟨framed, hframed, hframedNat⟩ := exists_expectedFramedBytes hbasic (by omega)
    refine bind_eq_ok.mpr ⟨(), hbasic, bind_eq_ok.mpr ⟨framed, hframed, failIf_eq_ok.mpr ?_⟩⟩
    rw [UInt64.not_lt, UInt64.le_iff_toNat_le, hframedNat]
    exact hlen

theorem framedLength_lt (h : header.validate = .ok ()) : header.framedLength < 2 ^ 63 := by
  have hlen := (validate_eq_ok.mp h).2
  have hmax : MAX_ENCRYPTED_CONTENT_BYTES.toNat = 2 ^ 50 := rfl
  omega

theorem chunks_lt (h : header.validate = .ok ()) : header.chunks < 2 ^ 64 := by
  have hlen := framedLength_lt h
  rw [framedLength] at hlen
  omega

theorem chunks_pos (h : header.validateBasicFields = .ok ()) : 0 < header.chunks := by
  obtain ⟨⟨⟩, _, hplaintext⟩ := bind_eq_ok.mp h
  rw [failIf_eq_ok, ← UInt64.toNat_inj, UInt64.toNat_zero] at hplaintext
  rw [chunks, chunkBytes]
  omega

/-- A chunk that there is starts inside the plaintext. -/
theorem start_lt {i : Nat} (h : i < header.chunks) : i * chunkBytes < header.plaintextBytes.toNat := by
  rw [chunks, chunkBytes] at h
  rw [chunkBytes]
  omega

theorem le_chunks_mul : header.plaintextBytes.toNat ≤ header.chunks * chunkBytes := by
  rw [chunks, chunkBytes]
  omega

theorem chunkPlaintextLen_eq {i : Nat} (hvalid : header.validate = .ok ()) (h : i < header.chunks) :
    chunkPlaintextLen header (UInt64.ofNat i) =
      .ok (min (header.plaintextBytes.toNat - i * chunkBytes) chunkBytes) := by
  obtain ⟨count, hcount⟩ := exists_chunkCount (framedLength_lt hvalid)
  have hindex : (UInt64.ofNat i).toNat = i :=
    UInt64.toNat_ofNat_of_lt' (h.trans (chunks_lt hvalid))
  have hstart := start_lt h
  have hmul : checkedMul (UInt64.ofNat i) PAYLOAD_PLAINTEXT_CHUNK_BYTES_V1 =
      some (UInt64.ofNat i * PAYLOAD_PLAINTEXT_CHUNK_BYTES_V1) := by
    refine if_pos ?_
    rw [hindex, toNat_chunkBytes]
    exact hstart.trans (UInt64.toNat_lt _)
  have hmulNat := checkedMul_eq_some.mp hmul
  rw [hindex, toNat_chunkBytes] at hmulNat
  have hle : UInt64.ofNat i * PAYLOAD_PLAINTEXT_CHUNK_BYTES_V1 ≤ header.plaintextBytes := by
    rw [UInt64.le_iff_toNat_le, hmulNat]
    exact hstart.le
  refine bind_eq_ok.mpr ⟨count, hcount, bind_eq_ok.mpr ⟨(), failIf_eq_ok.mpr ?_, ?_⟩⟩
  · rw [UInt64.not_le, UInt64.lt_iff_toNat_lt, chunkCount_eq_ok hcount, hindex]
    exact h
  refine bind_eq_ok.mpr ⟨_, okOr_eq_ok.mpr hmul, bind_eq_ok.mpr ⟨_, okOr_eq_ok.mpr (if_pos hle), ?_⟩⟩
  have hremaining := UInt64.toNat_sub_of_le _ _ hle
  rw [hmulNat] at hremaining
  refine congrArg Except.ok ?_
  rw [← hremaining, ← toNat_chunkBytes]
  exact UInt64.toNat_min _ _

theorem chunkCiphertextLen_eq {i : Nat} (hvalid : header.validate = .ok ())
    (h : i < header.chunks) : chunkCiphertextLen header (UInt64.ofNat i) =
      .ok (min (header.plaintextBytes.toNat - i * chunkBytes) chunkBytes + 16) :=
  bind_eq_ok.mpr ⟨_, chunkPlaintextLen_eq hvalid h, rfl⟩

theorem deriveChunkNonce_eq {i : Nat} (hvalid : header.validate = .ok ()) (h : i < header.chunks) :
    deriveChunkNonce header (UInt64.ofNat i) =
      .ok (chunkNonce header.baseNonce (UInt64.ofNat i)) := by
  obtain ⟨count, hcount⟩ := exists_chunkCount (framedLength_lt hvalid)
  refine bind_eq_ok.mpr ⟨count, hcount, bind_eq_ok.mpr ⟨(), failIf_eq_ok.mpr ?_, rfl⟩⟩
  rw [UInt64.not_le, UInt64.lt_iff_toNat_lt, chunkCount_eq_ok hcount,
    UInt64.toNat_ofNat_of_lt' (h.trans (chunks_lt hvalid))]
  exact h

end AuthenticatedChunkPayloadHeaderV1

/-! ## 3. The frame -/

open AuthenticatedChunkPayloadHeaderV1

section

variable [Aes256Gcm] {key : Bytes 32} {header : AuthenticatedChunkPayloadHeaderV1}
  {plaintext : List UInt8}

/-- What the chunk at an index is bound to. -/
def chunkAad (header : AuthenticatedChunkPayloadHeaderV1) (i : Nat) : List UInt8 :=
  chunkAadBytes header.bytes (UInt64.ofNat i)

/-- A chunk of a plaintext, sealed. -/
def sealedChunk (key : Bytes 32) (header : AuthenticatedChunkPayloadHeaderV1)
    (plaintext : List UInt8) (i : Nat) : List UInt8 :=
  (Aes256Gcm.encrypt key (chunkNonce header.baseNonce (UInt64.ofNat i))
    (chunk chunkBytes plaintext i) (chunkAad header i)).getD []

/-- The chunks before an index, sealed. -/
def sealedChunks (key : Bytes 32) (header : AuthenticatedChunkPayloadHeaderV1)
    (plaintext : List UInt8) (n : Nat) : List UInt8 :=
  (List.range n).flatMap (sealedChunk key header plaintext)

def frame (key : Bytes 32) (header : AuthenticatedChunkPayloadHeaderV1)
    (plaintext : List UInt8) : List UInt8 :=
  header.framePrefix ++ sealedChunks key header plaintext header.chunks

omit [Aes256Gcm] in
theorem length_chunkAad_lt (h : header.validateBasicFields = .ok ()) (i : Nat) :
    (chunkAad header i).length < 1024 := by
  have hdomain : (utf8Bytes PAYLOAD_CHUNK_AAD_DOMAIN_V1).length ≤ 64 := by decide
  have hlen := encodedLen_lt h
  rw [chunkAad, chunkAadBytes, List.length_append, List.length_append, List.length_append,
    List.length_singleton, beBytes_length, length_bytes]
  omega

theorem encrypt_chunk [LawfulAes256Gcm] (h : header.validateBasicFields = .ok ()) (i : Nat) :
    Aes256Gcm.encrypt key (chunkNonce header.baseNonce (UInt64.ofNat i))
      (chunk chunkBytes plaintext i) (chunkAad header i) =
        some (sealedChunk key header plaintext i) := by
  have hmsg : (chunk chunkBytes plaintext i).length ≤ GCM_MAX_BYTES := by
    rw [length_chunk, chunkBytes, GCM_MAX_BYTES]
    omega
  have haad : (chunkAad header i).length ≤ GCM_MAX_BYTES := by
    have hlen := length_chunkAad_lt h i
    rw [GCM_MAX_BYTES]
    omega
  obtain ⟨c, hc⟩ := LawfulAes256Gcm.exists_encrypt key
    (chunkNonce header.baseNonce (UInt64.ofNat i)) _ _ hmsg haad
  rw [sealedChunk, hc, Option.getD_some]

theorem length_sealedChunk [LawfulAes256Gcm] (h : header.validateBasicFields = .ok ()) (i : Nat) :
    (sealedChunk key header plaintext i).length = (chunk chunkBytes plaintext i).length + 16 :=
  LawfulAes256Gcm.length_encrypt (encrypt_chunk h i)

theorem sealedChunks_succ (i : Nat) : sealedChunks key header plaintext (i + 1) =
    sealedChunks key header plaintext i ++ sealedChunk key header plaintext i := by
  rw [sealedChunks, List.range_succ, List.flatMap_append, List.flatMap_singleton, sealedChunks]

/-- The first chunks are as long as their plaintext, with a tag each. -/
theorem length_sealedChunks [LawfulAes256Gcm] (h : header.validateBasicFields = .ok ()) (n : Nat) :
    (sealedChunks key header plaintext n).length =
      min (n * chunkBytes) plaintext.length + 16 * n := by
  induction n with
  | zero => rw [sealedChunks, List.range_zero, List.flatMap_nil, List.length_nil]; omega
  | succ n ih =>
    rw [sealedChunks_succ, List.length_append, ih, length_sealedChunk h, length_chunk, chunkBytes]
    omega

theorem sealedChunks_prefix (key : Bytes 32) (header : AuthenticatedChunkPayloadHeaderV1)
    (plaintext : List UInt8) {i n : Nat} (h : i < n) : ∃ tail,
      sealedChunks key header plaintext n = sealedChunks key header plaintext i ++
        (sealedChunk key header plaintext i ++ tail) := by
  obtain ⟨k, rfl⟩ : ∃ k, n = i + 1 + k := ⟨n - (i + 1), by omega⟩
  refine ⟨((List.range k).map (i + 1 + ·)).flatMap (sealedChunk key header plaintext), ?_⟩
  rw [← List.append_assoc, ← sealedChunks_succ, sealedChunks, List.range_add, List.flatMap_append,
    sealedChunks]

theorem length_frame [LawfulAes256Gcm] (h : header.validateBasicFields = .ok ())
    (hlen : plaintext.length = header.plaintextBytes.toNat) :
    (frame key header plaintext).length = header.framedLength := by
  have hchunks := header.le_chunks_mul
  rw [frame, List.length_append, length_framePrefix, length_sealedChunks h, hlen, framedLength,
    Nat.min_eq_right hchunks]
  omega

end

/-! ## 4. What sealing writes -/

section

variable [Aes256Gcm] {key : ContentEncryptionKeyV1} {header : AuthenticatedChunkPayloadHeaderV1}

/-- So many bytes were written to a writer without limit, hashed and counted. -/
structure Wrote (before : Sink) (bytes : List UInt8) (s : SealState) : Prop where
  staging : s.staging = ⟨before.written ++ bytes, none⟩
  hashed : s.hashed = bytes
  counted : s.writtenBytes.toNat = bytes.length

omit [Aes256Gcm] in
theorem Wrote.write {before : Sink} {bytes : List UInt8} {s : SealState} (h : Wrote before bytes s)
    (more : List UInt8) (hfits : bytes.length + more.length < 2 ^ 64) :
    ∃ s', (writeAllCounted more).Does s () s' ∧ Wrote before (bytes ++ more) s' ∧
      s'.plaintext = s.plaintext := by
  obtain ⟨plaintext, staging, hashed, writtenBytes⟩ := s
  obtain ⟨hstaging, hhashed, hcounted⟩ := h
  simp only at hstaging hhashed hcounted
  subst hstaging hhashed
  have hmore : (UInt64.ofNat more.length).toNat = more.length :=
    UInt64.toNat_ofNat_of_lt' (show more.length < 2 ^ 64 by omega)
  obtain ⟨total, htotal, htotalNat⟩ :=
    exists_checkedAdd (a := writtenBytes) (b := UInt64.ofNat more.length)
      (by rw [hcounted, hmore]; exact hfits)
  refine ⟨⟨plaintext, ⟨before.written ++ hashed ++ more, none⟩, hashed ++ more, total⟩, ?_,
    ⟨by rw [List.append_assoc], rfl, ?_⟩, rfl⟩
  · unfold Effect.Does writeAllCounted
    simp only [Effect.outcome_of, Sink.writeAll, htotal]
  · rw [htotalNat, hcounted, hmore, List.length_append]

/-- How far a call of `seal` is before the chunk at an index. -/
structure SealedUpTo (key : ContentEncryptionKeyV1) (header : AuthenticatedChunkPayloadHeaderV1)
    (plaintext : Source) (before : Sink) (i : Nat) (s : SealState) : Prop where
  wrote : Wrote before (header.framePrefix ++ sealedChunks key.bytes header plaintext.rest i) s
  position : plaintext.At (plaintext.position + min (i * chunkBytes) plaintext.rest.length)
    s.plaintext

variable [LawfulAes256Gcm] {plaintext : Source} {before : Sink}

/-- **One round of sealing** reads a chunk, in as many pieces as the reader likes, and writes it
sealed. -/
theorem exists_sealChunk (hvalid : header.validate = .ok ()) (hreader : plaintext.Unfailing)
    (hlen : plaintext.rest.length = header.plaintextBytes.toNat) {i : Nat} (hi : i < header.chunks)
    {s : SealState} (h : SealedUpTo key header plaintext before i s) :
    ∃ s', (sealChunk header header.bytes key (UInt64.ofNat i)).Does s () s' ∧
      SealedUpTo key header plaintext before (i + 1) s' := by
  have hstart := header.start_lt hi
  have hbasic := validate_basic hvalid
  rw [← hlen] at hstart
  have hposition := h.position
  rw [Nat.min_eq_left hstart.le] at hposition
  have hrest : s.plaintext.rest = plaintext.rest.drop (i * chunkBytes) := by
    rw [hposition.rest, Source.rest, List.drop_drop]
  have hchunk : s.plaintext.rest.take
      (min (header.plaintextBytes.toNat - i * chunkBytes) chunkBytes) =
        chunk chunkBytes plaintext.rest i := by
    rw [hrest, chunk, ← hlen, ← List.length_drop, Nat.min_comm, List.take_eq_take_iff]
    omega
  obtain ⟨reader, hread, hreaderAt⟩ : ∃ reader,
      Source.readExact (CustodyError.invalidPayload "plaintext_bytes") .payloadIo
          (min (header.plaintextBytes.toNat - i * chunkBytes) chunkBytes) s.plaintext =
        (.ok (s.plaintext.rest.take _), reader) ∧ s.plaintext.At _ reader :=
    Source.exists_readExact (hposition.unfailing hreader) (by rw [hrest, List.length_drop]; omega)
  rw [hchunk] at hread
  have hfits : (header.framePrefix ++ sealedChunks key.bytes header plaintext.rest i).length +
      (sealedChunk key.bytes header plaintext.rest i).length < 2 ^ 64 := by
    have hshort := framedLength_lt hvalid
    rw [framedLength] at hshort
    rw [List.length_append, length_framePrefix, length_sealedChunks hbasic,
      length_sealedChunk hbasic, length_chunk]
    omega
  obtain ⟨s', hwrite, hwrote, hplaintext⟩ := Wrote.write (s := s.setPlaintext reader)
    ⟨h.wrote.staging, h.wrote.hashed, h.wrote.counted⟩ _ hfits
  refine ⟨s', ?_, ?_, ?_⟩
  · refine Effect.Does.check (chunkPlaintextLen_eq hvalid hi) ?_
    refine Effect.Does.bind (Effect.does_zoom.mpr ⟨reader, hread, rfl⟩) ?_
    refine Effect.Does.check (deriveChunkNonce_eq hvalid hi) ?_
    exact Effect.Does.check (okOr_eq_ok.mpr (encrypt_chunk hbasic i)) hwrite
  · rw [sealedChunks_succ, ← List.append_assoc]
    exact hwrote
  · rw [hplaintext]
    refine hposition.trans ?_
    rw [SealState.setPlaintext]
    convert hreaderAt using 1
    rw [hposition.2.2, Nat.succ_mul]
    omega

/-- **A frame is written in full**, whatever pieces the plaintext comes in. -/
theorem exists_writeFrame (hvalid : header.validate = .ok ()) (hreader : plaintext.Unfailing)
    (hlen : plaintext.rest.length = header.plaintextBytes.toNat) (hroom : before.room = none) :
    ∃ s', (writeFrame header key).Does ⟨plaintext, before, [], 0⟩ () s' ∧
      Wrote before (frame key.bytes header plaintext.rest) s' := by
  have hbasic := validate_basic hvalid
  obtain ⟨count, hcount⟩ := exists_chunkCount (framedLength_lt hvalid)
  have hchunks := chunkCount_eq_ok hcount
  have hnothing : Wrote before [] ⟨plaintext, before, [], 0⟩ := by
    refine ⟨?_, rfl, rfl⟩
    rw [List.append_nil, ← hroom]
  obtain ⟨s₁, hprefix, hwrote, hplaintext⟩ := hnothing.write header.framePrefix (by
    have hshort := encodedLen_lt hbasic
    rw [List.length_nil, length_framePrefix]
    omega)
  have hstart : SealedUpTo key header plaintext before 0 s₁ := by
    refine ⟨?_, ?_⟩
    · rw [sealedChunks, List.range_zero, List.flatMap_nil, List.append_nil]
      exact hwrote
    · rw [hplaintext, Nat.zero_mul, Nat.zero_min]
      exact ⟨rfl, rfl, rfl⟩
  obtain ⟨s₂, hloop, hdone⟩ := Effect.exists_forM_range
    (fun i hi s hs => exists_sealChunk hvalid hreader hlen hi hs) hstart
  have hend : s₂.plaintext.rest = [] := by
    have hcover := header.le_chunks_mul
    rw [← hlen] at hcover
    rw [hdone.position.rest, Nat.min_eq_right hcover, ← List.drop_drop, ← Source.rest,
      List.drop_length]
  obtain ⟨reader, hread⟩ := Source.read_end (hdone.position.unfailing hreader) hend 1
  have hnone : rejectTrailing "plaintext_bytes" s₂.plaintext = (.ok (), reader) := by
    rw [rejectTrailing, hread]
  refine ⟨s₂.setPlaintext reader, ?_, hdone.wrote.staging, hdone.wrote.hashed, hdone.wrote.counted⟩
  refine Effect.Does.check (encodedBytes_eq hbasic) ?_
  refine Effect.Does.check (framedPrefixBytes_eq hbasic) ?_
  refine Effect.Does.check hcount ?_
  rw [hchunks]
  refine hprefix.bind (hloop.bind ?_)
  exact Effect.does_zoom.mpr ⟨reader, hnone, rfl⟩

variable [Curves] [Crypto] [XWing] [LawfulXWing] [Gf256] [LawfulGf256]

/-- **Sealing succeeds**, and what it returns names what it wrote. -/
theorem exists_seal {contentType : String} {plaintextBytes : UInt64} {baseNonce : Bytes 12}
    (committee : ValidatedCustodyCommitteeV1) (hpkeRng shamirRng : Rng)
    (hvalid : AuthenticatedChunkPayloadHeaderV1.validate
      ⟨contentType, plaintextBytes, baseNonce, key.commitment⟩ = .ok ())
    (hreader : plaintext.Unfailing) (hlen : plaintext.rest.length = plaintextBytes.toNat)
    (hroom : before.room = none) :
    ∃ metadata s', sealPayloadToStagingWriterV1 contentType plaintextBytes plaintext before
        committee (some key.bytes) (some baseNonce) (some hpkeRng) (some shamirRng) =
          (.ok metadata, s') ∧
      metadata.header = ⟨contentType, plaintextBytes, baseNonce, key.commitment⟩ ∧
      s'.staging.written = before.written ++ frame key.bytes metadata.header plaintext.rest ∧
      EncryptedContentIdentityV1.new (Crypto.sha256 (frame key.bytes metadata.header
        plaintext.rest)) metadata.encryptedContentIdentity.ciphertextBytes =
          .ok metadata.encryptedContentIdentity ∧
      metadata.header.expectedFramedBytes =
        .ok metadata.encryptedContentIdentity.ciphertextBytes := by
  let header : AuthenticatedChunkPayloadHeaderV1 :=
    ⟨contentType, plaintextBytes, baseNonce, key.commitment⟩
  obtain ⟨s', hwrite, hwrote⟩ : ∃ s', (writeFrame header key).Does ⟨plaintext, before, [], 0⟩ () s' ∧
      Wrote before (frame key.bytes header plaintext.rest) s' :=
    exists_writeFrame hvalid hreader hlen hroom
  obtain ⟨hbasic, hshort⟩ := validate_eq_ok.mp hvalid
  obtain ⟨framed, hframed, hframedNat⟩ :=
    exists_expectedFramedBytes hbasic (framedLength_lt hvalid)
  have hcounted : s'.writtenBytes = framed := by
    rw [← UInt64.toNat_inj, hwrote.counted, hframedNat]
    exact length_frame hbasic hlen
  let identity : EncryptedContentIdentityV1 := ⟨Crypto.sha256 s'.hashed, s'.writtenBytes⟩
  have hsize : identity.ciphertextBytes = framed := hcounted
  have hidentity : identity.validate = .ok () := by
    refine rejectIf_eq_ok.mpr (not_or.mpr ⟨?_, ?_⟩)
    · rw [hsize, ← UInt64.toNat_inj, hframedNat, UInt64.toNat_zero, framedLength]
      omega
    · rw [hsize, UInt64.not_lt, UInt64.le_iff_toNat_le, hframedNat]
      exact hshort
  have hnew : EncryptedContentIdentityV1.new (Crypto.sha256 s'.hashed) s'.writtenBytes =
      .ok identity := build_eq hidentity
  obtain ⟨envelope, henvelope⟩ := exists_provision key committee hpkeRng shamirRng hidentity
  refine ⟨⟨header, identity, envelope⟩, s', ?_, rfl, ?_, ?_, ?_⟩
  · refine Effect.Does.check (bind_eq_ok.mpr ⟨(), hvalid, rfl⟩) (hwrite.bind ?_)
    refine Effect.Does.bind (show (get : Sealing SealState).Does s' s' s' from rfl) ?_
    refine Effect.does_lift.mpr ⟨?_, rfl⟩
    refine bind_eq_ok.mpr ⟨framed, hframed, bind_eq_ok.mpr ⟨(), ?_, ?_⟩⟩
    · exact failIf_eq_ok.mpr (not_not.mpr hcounted)
    exact bind_eq_ok.mpr ⟨identity, mapError_eq_ok.mpr hnew, bind_eq_ok.mpr ⟨envelope, henvelope,
      rfl⟩⟩
  · rw [hwrote.staging]
  · rw [← hwrote.hashed]
    exact hnew
  · rw [hframed, ← hcounted]

end

end ElastosRuntime.Custody
