/-
# Chunked payloads

The framed ciphertext of a protected object (`payload.rs`): a magic number, a header behind its
length, and the plaintext in chunks of one mebibyte, each sealed under a nonce and associated data
of its own.  `seal` writes one from a reader, `decrypt` reads one twice: once to check the identity
of the whole stream, and once to open it chunk by chunk.

Both are `Effect`s: a reader hands over as many bytes at a time as it likes and may fail at any
call, and what was written before a failure stays written.  Arithmetic on `u64` is `UInt64` with the
source's own overflow checks; lengths in memory are natural numbers.
-/
import ElastosRuntime.Custody.Provision
import ElastosRuntime.Lib.Stream

namespace ElastosRuntime.Custody

open Codec Contracts Streams

/-! ## 1. Checked arithmetic -/

def checkedAdd (a b : UInt64) : Option UInt64 :=
  if a.toNat + b.toNat < UInt64.size then some (a + b) else none

def checkedMul (a b : UInt64) : Option UInt64 :=
  if a.toNat * b.toNat < UInt64.size then some (a * b) else none

def checkedSub (a b : UInt64) : Option UInt64 := if b ≤ a then some (a - b) else none

/-- `u64::try_from` of a length. -/
def u64TryFrom (n : Nat) : Option UInt64 :=
  if n < UInt64.size then some (UInt64.ofNat n) else none

theorem checkedAdd_eq_some {a b c : UInt64} :
    checkedAdd a b = some c ↔ c.toNat = a.toNat + b.toNat := by
  have hc := c.toNat_lt
  have hadd := UInt64.toNat_add a b
  rw [checkedAdd, Option.ite_none_right_eq_some, Option.some.injEq, ← UInt64.toNat_inj,
    UInt64.size, hadd]
  omega

theorem checkedMul_eq_some {a b c : UInt64} :
    checkedMul a b = some c ↔ c.toNat = a.toNat * b.toNat := by
  have hc := c.toNat_lt
  have hmul := UInt64.toNat_mul a b
  rw [checkedMul, Option.ite_none_right_eq_some, Option.some.injEq, ← UInt64.toNat_inj,
    UInt64.size, hmul]
  generalize a.toNat * b.toNat = product
  omega

theorem u64TryFrom_eq_some {n : Nat} {c : UInt64} : u64TryFrom n = some c ↔ c.toNat = n := by
  have hc := c.toNat_lt
  have hofNat : (UInt64.ofNat n).toNat = n % 2 ^ 64 := UInt64.toNat_ofNat'
  rw [u64TryFrom, Option.ite_none_right_eq_some, Option.some.injEq, ← UInt64.toNat_inj,
    UInt64.size, hofNat]
  omega

/-! ## 2. Headers -/

def PAYLOAD_MAGIC_V1 : Bytes 4 := ⟨[0x45, 0x50, 0x43, 0x31], rfl⟩
def PAYLOAD_HEADER_LENGTH_BYTES_V1 : Nat := 2
def PAYLOAD_TAG_BYTES_V1 : UInt64 := 16
def PAYLOAD_SCHEMA_V1 : String := "elastos.protected-content.payload/v1"
def PAYLOAD_SUITE_ID_V1 : String := "aes-256-gcm-chunked/v1"
def PAYLOAD_CHUNK_AAD_DOMAIN_V1 : String := "elastos.protected-content.payload.chunk-aad/v1"
def PAYLOAD_IDENTITY_VERIFY_BUFFER_BYTES_V1 : Nat := 64 * 1024
def PAYLOAD_PLAINTEXT_CHUNK_BYTES_V1 : UInt64 := 1048576
def MAX_PAYLOAD_CONTENT_TYPE_BYTES_V1 : Nat := 255

structure AuthenticatedChunkPayloadHeaderV1 where
  contentType : String
  plaintextBytes : UInt64
  baseNonce : Bytes 12
  contentKeyCommitment : Digest32
deriving DecidableEq

/-- `write_len_prefixed` -/
def writeLenPrefixed (bytes : List UInt8) : ByteWriter CustodyError Unit := do
  failIf (65536 ≤ bytes.length) (CustodyError.invalidPayload "header_bytes")
  put (beBytes 2 bytes.length)
  put bytes

/-- `read_len_prefixed`, on what lies behind the offset. -/
def readLenPrefixed (field : String) : ByteReader CustodyError (List UInt8) := do
  let length ← takeNat (.invalidPayload field) 2
  take (.invalidPayload field) length

namespace AuthenticatedChunkPayloadHeaderV1

variable (v : AuthenticatedChunkPayloadHeaderV1)

def validateBasicFields : Except CustodyError Unit := do
  failIf (utf8Bytes v.contentType = [] ∨
      MAX_PAYLOAD_CONTENT_TYPE_BYTES_V1 < (utf8Bytes v.contentType).length ∨
      ¬(utf8Bytes v.contentType).all fun byte => 0x21 ≤ byte && byte ≤ 0x7e)
    (.invalidPayload "content_type")
  failIf (v.plaintextBytes = 0) (.invalidPayload "plaintext_bytes")

def chunkCount : Except CustodyError UInt64 := do
  let padded ← okOr (checkedAdd v.plaintextBytes (PAYLOAD_PLAINTEXT_CHUNK_BYTES_V1 - 1))
    (.invalidPayload "chunk_count")
  pure (padded / PAYLOAD_PLAINTEXT_CHUNK_BYTES_V1)

def encodedLen : Nat :=
  2 + (utf8Bytes PAYLOAD_SCHEMA_V1).length + 2 + (utf8Bytes PAYLOAD_SUITE_ID_V1).length + 2 +
    (utf8Bytes v.contentType).length + 8 + 12 + 32

/-- The fields behind each other. -/
def encodeFields : ByteWriter CustodyError Unit := do
  writeLenPrefixed (utf8Bytes PAYLOAD_SCHEMA_V1)
  writeLenPrefixed (utf8Bytes PAYLOAD_SUITE_ID_V1)
  writeLenPrefixed (utf8Bytes v.contentType)
  put (beBytes 8 v.plaintextBytes.toNat)
  put v.baseNonce.toList
  put v.contentKeyCommitment.toList

def encodedBytes : Except CustodyError (List UInt8) := do
  v.validateBasicFields
  let written ← v.encodeFields.run []
  pure written.2

def framedPrefixBytes : Except CustodyError (List UInt8) := do
  let encoded ← v.encodedBytes
  failIf (65536 ≤ encoded.length) (.invalidPayload "header_bytes")
  pure (PAYLOAD_MAGIC_V1.toList ++ beBytes 2 encoded.length ++ encoded)

def expectedFramedBytes : Except CustodyError UInt64 := do
  v.validateBasicFields
  let headerBytes ← okOr (u64TryFrom v.encodedLen) (.invalidPayload "header_bytes")
  let prefixBytes ← okOr (u64TryFrom (4 + PAYLOAD_HEADER_LENGTH_BYTES_V1))
    (.invalidPayload "header_bytes")
  let chunkCount ← v.chunkCount
  let tagBytes ← okOr (checkedMul chunkCount PAYLOAD_TAG_BYTES_V1)
    (.invalidPayload "framed_ciphertext_bytes")
  okOr (do
      let value ← checkedAdd prefixBytes headerBytes
      let value ← checkedAdd value v.plaintextBytes
      checkedAdd value tagBytes)
    (.invalidPayload "framed_ciphertext_bytes")

def validate : Except CustodyError Unit := do
  v.validateBasicFields
  let framedBytes ← v.expectedFramedBytes
  failIf (MAX_ENCRYPTED_CONTENT_BYTES < framedBytes) (.invalidPayload "framed_ciphertext_bytes")

def newAuthenticated (contentType : String) (plaintextBytes : UInt64) (baseNonce : Bytes 12)
    (contentKeyCommitment : Digest32) : Except CustodyError AuthenticatedChunkPayloadHeaderV1 := do
  let value : AuthenticatedChunkPayloadHeaderV1 :=
    ⟨contentType, plaintextBytes, baseNonce, contentKeyCommitment⟩
  value.validate
  pure value

end AuthenticatedChunkPayloadHeaderV1

/-- The fields of a header as they stand in its bytes. -/
structure HeaderFields where
  schema : List UInt8
  suite : List UInt8
  contentType : List UInt8
  plaintextBytes : Nat
  baseNonce : Bytes 12
  contentKeyCommitment : Digest32

def readHeaderFields : ByteReader CustodyError HeaderFields := do
  let schema ← readLenPrefixed "schema"
  let suite ← readLenPrefixed "suite_id"
  let contentType ← readLenPrefixed "content_type"
  let plaintextBytes ← takeNat (.invalidPayload "plaintext_bytes") 8
  let baseNonce ← takeBytes (.invalidPayload "base_nonce") 12
  let contentKeyCommitment ← takeBytes (.invalidPayload "content_key_commitment") 32
  pure ⟨schema, suite, contentType, plaintextBytes, baseNonce, contentKeyCommitment⟩

def decodeHeaderBytesV1 (bytes : List UInt8) :
    Except CustodyError AuthenticatedChunkPayloadHeaderV1 := do
  let (fields, trailing) ← readHeaderFields.run bytes
  failIf (trailing ≠ []) (.invalidPayload "header_bytes")
  failIf (fields.schema ≠ utf8Bytes PAYLOAD_SCHEMA_V1) (.invalidPayload "schema")
  failIf (fields.suite ≠ utf8Bytes PAYLOAD_SUITE_ID_V1) (.invalidPayload "suite_id")
  let contentType ← okOr (ofUtf8Bytes? fields.contentType) (.invalidPayload "content_type")
  AuthenticatedChunkPayloadHeaderV1.newAuthenticated contentType
    (UInt64.ofNat fields.plaintextBytes) fields.baseNonce fields.contentKeyCommitment

/-! ## 3. One chunk -/

section

variable (header : AuthenticatedChunkPayloadHeaderV1)

/-- The base nonce with the index folded into its last eight bytes. -/
def chunkNonce (baseNonce : Bytes 12) (chunkIndex : UInt64) : Bytes 12 :=
  ⟨baseNonce.toList.take 4 ++
    List.zipWith (· ^^^ ·) (baseNonce.toList.drop 4) (beBytes 8 chunkIndex.toNat), by simp⟩

def deriveChunkNonce (chunkIndex : UInt64) : Except CustodyError (Bytes 12) := do
  let chunkCount ← header.chunkCount
  failIf (chunkCount ≤ chunkIndex) (.invalidPayload "chunk_index")
  pure (chunkNonce header.baseNonce chunkIndex)

def chunkAadBytes (headerBytes : List UInt8) (chunkIndex : UInt64) : List UInt8 :=
  utf8Bytes PAYLOAD_CHUNK_AAD_DOMAIN_V1 ++ [0] ++ headerBytes ++ beBytes 8 chunkIndex.toNat

def chunkPlaintextLen (chunkIndex : UInt64) : Except CustodyError Nat := do
  let chunkCount ← header.chunkCount
  failIf (chunkCount ≤ chunkIndex) (.invalidPayload "chunk_index")
  let start ← okOr (checkedMul chunkIndex PAYLOAD_PLAINTEXT_CHUNK_BYTES_V1)
    (.invalidPayload "chunk_index")
  let remaining ← okOr (checkedSub header.plaintextBytes start) (.invalidPayload "chunk_index")
  pure (min remaining PAYLOAD_PLAINTEXT_CHUNK_BYTES_V1).toNat

def chunkCiphertextLen (chunkIndex : UInt64) : Except CustodyError Nat := do
  let length ← chunkPlaintextLen header chunkIndex
  pure (length + PAYLOAD_TAG_BYTES_V1.toNat)

end

/-! ## 4. Sealing -/

/-- What a call of `seal` works on: the plaintext's reader, the staging writer, the bytes hashed so
far and their number. -/
structure SealState where
  plaintext : Source
  staging : Sink
  hashed : List UInt8
  writtenBytes : UInt64

abbrev Sealing (α : Type) := Effect SealState CustodyError α

def SealState.setPlaintext (s : SealState) (plaintext : Source) : SealState := { s with plaintext }

def writeAllCounted (bytes : List UInt8) : Sealing Unit := Effect.of fun s =>
  match s.staging.writeAll bytes with
  | (.error (), staging) => (.error .payloadIo, { s with staging })
  | (.ok (), staging) =>
    let s := { s with staging, hashed := s.hashed ++ bytes }
    match checkedAdd s.writtenBytes (UInt64.ofNat bytes.length) with
    | none => (.error (.invalidPayload "framed_ciphertext_bytes"), s)
    | some writtenBytes => (.ok (), { s with writtenBytes })

def readExactPlaintext (length : Nat) : Sealing (List UInt8) :=
  Effect.zoom SealState.plaintext SealState.setPlaintext
    (Source.readExact (.invalidPayload "plaintext_bytes") .payloadIo length)

/-- One more byte is asked for, and none may come. -/
def rejectTrailing (field : String) (s : Source) : Except CustodyError Unit × Source :=
  match s.read 1 with
  | (.ok [], s') => (.ok (), s')
  | (.ok (_ :: _), s') => (.error (.invalidPayload field), s')
  | (.error (), s') => (.error .payloadIo, s')

def rejectTrailingPlaintext : Sealing Unit :=
  Effect.zoom SealState.plaintext SealState.setPlaintext (rejectTrailing "plaintext_bytes")

structure PayloadSealContextV1 where
  contentKey : ContentEncryptionKeyV1
  baseNonce : Bytes 12

section

variable [Curves] [Crypto] [Aes256Gcm]

structure SealedPayloadMetadataV1 where
  header : AuthenticatedChunkPayloadHeaderV1
  encryptedContentIdentity : EncryptedContentIdentityV1
  custodyEnvelope : CustodyEnvelopeV1

/-- One round of the loop of `seal_payload_to_staging_writer_inner`. -/
def sealChunk (header : AuthenticatedChunkPayloadHeaderV1) (headerBytes : List UInt8)
    (contentKey : ContentEncryptionKeyV1) (chunkIndex : UInt64) : Sealing Unit := do
  let chunkLen ← liftM (chunkPlaintextLen header chunkIndex)
  let plaintextChunk ← readExactPlaintext chunkLen
  let nonce ← liftM (deriveChunkNonce header chunkIndex)
  let aad := chunkAadBytes headerBytes chunkIndex
  let encryptedChunk ← liftM (okOr (Aes256Gcm.encrypt contentKey.bytes nonce plaintextChunk aad)
    (CustodyError.invalidPayload "payload_chunk"))
  writeAllCounted encryptedChunk

/-- The frame is written: the prefix, and the chunks one by one. -/
def writeFrame (header : AuthenticatedChunkPayloadHeaderV1) (contentKey : ContentEncryptionKeyV1) :
    Sealing Unit := do
  let headerBytes ← liftM header.encodedBytes
  let prefixBytes ← liftM header.framedPrefixBytes
  let chunkCount ← liftM header.chunkCount
  writeAllCounted prefixBytes
  (List.range chunkCount.toNat).forM fun i =>
    sealChunk header headerBytes contentKey (UInt64.ofNat i)
  rejectTrailingPlaintext

variable [XWing] [Gf256]

/-- The number of bytes is checked, and the envelope provisioned. -/
def finishSeal (header : AuthenticatedChunkPayloadHeaderV1) (contentKey : ContentEncryptionKeyV1)
    (committee : ValidatedCustodyCommitteeV1) (hpkeRng shamirRng : Option Rng)
    (hashed : List UInt8) (writtenBytes : UInt64) :
    Except CustodyError SealedPayloadMetadataV1 := do
  let expectedBytes ← header.expectedFramedBytes
  failIf (writtenBytes ≠ expectedBytes) (.invalidPayload "framed_ciphertext_bytes")
  let encryptedContentIdentity ←
    (EncryptedContentIdentityV1.new (Crypto.sha256 hashed) writtenBytes).mapError .contract
  let custodyEnvelope ← provisionCustodyEnvelope encryptedContentIdentity contentKey committee
    hpkeRng shamirRng
  pure ⟨header, encryptedContentIdentity, custodyEnvelope⟩

def sealPayloadToStagingWriterInner (contentType : String) (plaintextBytes : UInt64)
    (context : PayloadSealContextV1) (committee : ValidatedCustodyCommitteeV1)
    (hpkeRng shamirRng : Option Rng) : Sealing SealedPayloadMetadataV1 := do
  let header ← liftM (AuthenticatedChunkPayloadHeaderV1.newAuthenticated contentType plaintextBytes
    context.baseNonce context.contentKey.commitment)
  writeFrame header context.contentKey
  let s ← get
  liftM (finishSeal header context.contentKey committee hpkeRng shamirRng s.hashed s.writtenBytes)

/-- The key and the nonce come from the system's generator, which may refuse. -/
def sealPayloadToStagingWriterV1 (contentType : String) (plaintextBytes : UInt64)
    (plaintext : Source) (stagingCiphertext : Sink) (committee : ValidatedCustodyCommitteeV1)
    (contentKey : Option (Bytes 32)) (baseNonce : Option (Bytes 12))
    (hpkeRng shamirRng : Option Rng) : Except CustodyError SealedPayloadMetadataV1 × SealState :=
  let start : SealState := ⟨plaintext, stagingCiphertext, [], 0⟩
  match contentKey, baseNonce with
  | some contentKey, some baseNonce =>
    (sealPayloadToStagingWriterInner contentType plaintextBytes ⟨⟨contentKey⟩, baseNonce⟩ committee
      hpkeRng shamirRng).outcome start
  | _, _ => (.error .randomnessUnavailable, start)

end

/-! ## 5. Opening -/

/-- What a call of `decrypt` works on. -/
structure OpenState where
  ciphertext : Source
  staging : Sink

abbrev Opening (α : Type) := Effect OpenState CustodyError α

structure DecryptedPayloadMetadataV1 where
  contentType : String
  plaintextBytes : UInt64
deriving DecidableEq

/-- A program on the ciphertext's reader alone. -/
def onCiphertext {α : Type} (f : Source → Except CustodyError α × Source) : Opening α :=
  Effect.zoom OpenState.ciphertext (fun s ciphertext => { s with ciphertext }) f

def seekTo (position : Nat) : Opening Unit := onCiphertext fun s =>
  ((s.seek position).1.mapError fun _ => .payloadIo, (s.seek position).2)

def seekToStart : Opening Unit := seekTo 0

def readExactPayloadBytes (length : Nat) (field : String) : Opening (List UInt8) :=
  onCiphertext (Source.readExact (.invalidPayload field) .payloadIo length)

def readFramedHeaderFromReaderV1 : Opening (AuthenticatedChunkPayloadHeaderV1 × UInt64) := do
  seekToStart
  let magic ← readExactPayloadBytes 4 "framed_ciphertext_bytes"
  liftM (failIf (magic ≠ PAYLOAD_MAGIC_V1.toList) (CustodyError.invalidPayload "payload_magic"))
  let headerLenBytes ← readExactPayloadBytes PAYLOAD_HEADER_LENGTH_BYTES_V1 "header_bytes"
  let headerLen := ofBeBytes headerLenBytes
  let headerBytes ← readExactPayloadBytes headerLen "header_bytes"
  let header ← liftM (decodeHeaderBytesV1 headerBytes)
  let prefixLen ← liftM (okOr (checkedAdd (UInt64.ofNat (4 + PAYLOAD_HEADER_LENGTH_BYTES_V1))
    (UInt64.ofNat headerLen)) (CustodyError.invalidPayload "header_bytes"))
  pure (header, prefixLen)

/-- One piece of the stream: it is hashed and counted. -/
def countPiece (seen : List UInt8 × UInt64) (piece : List UInt8) :
    Except CustodyError (List UInt8 × UInt64) := do
  let totalBytes ← okOr (checkedAdd seen.2 (UInt64.ofNat piece.length))
    (.invalidPayload "framed_ciphertext_bytes")
  pure (seen.1 ++ piece, totalBytes)

section

variable [Crypto] [Aes256Gcm]

def verifyFramedCiphertextIdentityV1 (expected : EncryptedContentIdentityV1) :
    Opening (AuthenticatedChunkPayloadHeaderV1 × UInt64) := do
  let (header, prefixLen) ← readFramedHeaderFromReaderV1
  let expectedFramedBytes ← liftM header.expectedFramedBytes
  seekToStart
  let (hashed, totalBytes) ← onCiphertext
    (Source.drain .payloadIo PAYLOAD_IDENTITY_VERIFY_BUFFER_BYTES_V1 countPiece ([], 0))
  liftM (failIf (totalBytes ≠ expectedFramedBytes)
    (CustodyError.invalidPayload "framed_ciphertext_bytes"))
  let actual ← liftM ((EncryptedContentIdentityV1.new (Crypto.sha256 hashed) totalBytes).mapError
    CustodyError.contract)
  liftM (failIf (actual ≠ expected) (CustodyError.bindingMismatch "encrypted_content"))
  pure (header, prefixLen)

/-- One round of the loop of `decrypt_payload_to_staging_writer_with_content_key_v1`. -/
def openChunk (header : AuthenticatedChunkPayloadHeaderV1) (headerBytes : List UInt8)
    (contentKey : ContentEncryptionKeyV1) (chunkIndex : UInt64) : Opening Unit := do
  let ciphertextChunkLen ← liftM (chunkCiphertextLen header chunkIndex)
  let ciphertextChunk ← readExactPayloadBytes ciphertextChunkLen "framed_ciphertext_bytes"
  let nonce ← liftM (deriveChunkNonce header chunkIndex)
  let aad := chunkAadBytes headerBytes chunkIndex
  let plaintextChunk ← liftM (okOr
    (Aes256Gcm.decrypt contentKey.bytes nonce ciphertextChunk aad)
    (CustodyError.invalidPayload "payload_chunk"))
  Effect.zoom OpenState.staging (fun s staging => { s with staging }) fun s =>
    ((s.writeAll plaintextChunk).1.mapError fun _ => .payloadIo, (s.writeAll plaintextChunk).2)

/-- What comes after the identity: the chunks are opened one by one. -/
def openFrame (contentKey : ContentEncryptionKeyV1) (header : AuthenticatedChunkPayloadHeaderV1)
    (prefixLen : UInt64) : Opening DecryptedPayloadMetadataV1 := do
  liftM (failIf (¬contentKey.matchesCommitment header.contentKeyCommitment)
    CustodyError.contentKeyCommitmentMismatch)
  let headerBytes ← liftM header.encodedBytes
  let chunkCount ← liftM header.chunkCount
  seekToStart
  seekTo prefixLen.toNat
  (List.range chunkCount.toNat).forM fun i =>
    openChunk header headerBytes contentKey (UInt64.ofNat i)
  onCiphertext (rejectTrailing "framed_ciphertext_bytes")
  pure ⟨header.contentType, header.plaintextBytes⟩

def decryptPayloadToStagingWriterWithContentKeyV1 (expected : EncryptedContentIdentityV1)
    (contentKey : ContentEncryptionKeyV1) : Opening DecryptedPayloadMetadataV1 := do
  let (header, prefixLen) ← verifyFramedCiphertextIdentityV1 expected
  openFrame contentKey header prefixLen

end

end ElastosRuntime.Custody
