/-
# Signed collaboration messages

What a Home takes for a message of another Profile (`collaboration_protocol.rs` of `elastos-common`
and of `elastos-server`, signatures in `crypto.rs`): an envelope of a bounded size that is the
canonical text of what it is read as, of the network and the service that are expected, within its
lifetime, and signed by the key that it names.

`verifyCollaborationMessage_signed` is the other direction: an envelope that a key has signed and
that passes the checks is accepted.
-/
import ElastosRuntime.Identity.DidKeys
import ElastosRuntime.Lib.Codec

namespace ElastosRuntime.Collaboration

open Identity (Ed25519Points LawfulPoints decodeDidKey encodeSigningKeyDid
  decodeDidKey_encodeSigningKeyDid)

/-! ## 1. Limits and shapes -/

/-- `bail!` with a text if something is wrong. -/
def bailIf (bad : Prop) [Decidable bad] (text : String) : Except String Unit :=
  if bad then .error text else .ok ()

@[simp] theorem bailIf_eq_ok {bad : Prop} [Decidable bad] {text : String} {u : Unit} :
    bailIf bad text = .ok u ↔ ¬bad := by
  unfold bailIf
  split <;> simp [*]

/-- `bail!` with a text if there is no value. -/
def orBail {α : Type} (value : Option α) (text : String) : Except String α :=
  match value with
  | none => .error text
  | some a => .ok a

@[simp] theorem orBail_eq_ok {α : Type} {value : Option α} {text : String} {a : α} :
    orBail value text = .ok a ↔ value = some a := by
  cases value <;> simp [orBail]

def COLLABORATION_MESSAGE_SCHEMA_V1 : String := "elastos.collaboration.message/v1"
def COLLABORATION_MESSAGE_SIGNATURE_DOMAIN_V1 : String := "elastos.collaboration.message.v1"
def MAX_COLLABORATION_ENVELOPE_BYTES : Nat := 96 * 1024
def MAX_COLLABORATION_PAYLOAD_BYTES : Nat := 64 * 1024
def MAX_COLLABORATION_ID_BYTES : Nat := 128
def MAX_COLLABORATION_SERVICE_BYTES : Nat := 128
def MAX_COLLABORATION_PAYLOAD_TYPE_BYTES : Nat := 128
def MAX_COLLABORATION_MESSAGE_LIFETIME_SECS : UInt64 := 24 * 60 * 60
def MAX_COLLABORATION_CLOCK_SKEW_SECS : UInt64 := 30
def MAX_NETWORK_ID_BYTES : Nat := 128

inductive CollaborationRecipientKind where
  | profile
  | conversation
deriving DecidableEq

structure CollaborationRecipient where
  kind : CollaborationRecipientKind
  id : String
deriving DecidableEq

structure CollaborationMessage where
  schema : String
  networkId : String
  conversationId : String
  messageId : String
  nonce : String
  createdAt : UInt64
  expiresAt : UInt64
  senderProfileDid : String
  senderService : String
  recipient : CollaborationRecipient
  payloadType : String
  payload : Json
deriving DecidableEq

structure SignedCollaborationMessage where
  payload : CollaborationMessage
  signature : String
  signerDid : String
deriving DecidableEq

structure VerifiedCollaborationMessage where
  envelope : SignedCollaborationMessage
  envelopeSha256 : String
deriving DecidableEq

/-- What the checks of a message read of a verified network profile. -/
structure VerifiedCollaborationNetworkProfile where
  networkId : String
deriving DecidableEq

/-! ## 2. Texts -/

def CollaborationRecipientKind.toValue : CollaborationRecipientKind → Json
  | .profile => .string "profile"
  | .conversation => .string "conversation"

def CollaborationRecipient.toValue (recipient : CollaborationRecipient) : Json :=
  .object [("kind", recipient.kind.toValue), ("id", .string recipient.id)]

def CollaborationMessage.toValue (message : CollaborationMessage) : Json :=
  .object [
    ("schema", .string message.schema),
    ("network_id", .string message.networkId),
    ("conversation_id", .string message.conversationId),
    ("message_id", .string message.messageId),
    ("nonce", .string message.nonce),
    ("created_at", .number (.posInt message.createdAt)),
    ("expires_at", .number (.posInt message.expiresAt)),
    ("sender_profile_did", .string message.senderProfileDid),
    ("sender_service", .string message.senderService),
    ("recipient", message.recipient.toValue),
    ("payload_type", .string message.payloadType),
    ("payload", message.payload)]

def SignedCollaborationMessage.toValue (message : SignedCollaborationMessage) : Json :=
  .object [
    ("payload", message.payload.toValue),
    ("signature", .string message.signature),
    ("signer_did", .string message.signerDid)]

theorem sorted_toValue_signed (message : SignedCollaborationMessage) :
    message.toValue.sorted = .object [("payload", message.payload.toValue.sorted),
      ("signature", .string message.signature), ("signer_did", .string message.signerDid)] := by
  have hsignature : "payload" < "signature" := by decide
  have hsigner : "signature" < "signer_did" := by decide
  simp only [SignedCollaborationMessage.toValue, Json.sorted, Json.sortedMembers,
    Json.insertMember, hsigner, hsignature, if_true]

theorem sorted_toValue_recipient (recipient : CollaborationRecipient) :
    recipient.toValue.sorted =
      .object [("id", .string recipient.id), ("kind", recipient.kind.toValue)] := by
  have hid : ¬"kind" < "id" := by decide
  have hkind : recipient.kind.toValue.sorted = recipient.kind.toValue := by
    cases recipient.kind <;> rfl
  simp only [CollaborationRecipient.toValue, Json.sorted, Json.sortedMembers, Json.insertMember,
    hkind, if_neg hid]

theorem sorted_toValue_message (message : CollaborationMessage) :
    message.toValue.sorted = .object [
      ("conversation_id", .string message.conversationId),
      ("created_at", .number (.posInt message.createdAt)),
      ("expires_at", .number (.posInt message.expiresAt)),
      ("message_id", .string message.messageId),
      ("network_id", .string message.networkId),
      ("nonce", .string message.nonce),
      ("payload", message.payload.sorted),
      ("payload_type", .string message.payloadType),
      ("recipient", message.recipient.toValue.sorted),
      ("schema", .string message.schema),
      ("sender_profile_did", .string message.senderProfileDid),
      ("sender_service", .string message.senderService)] := by
  simp only [CollaborationMessage.toValue, Json.sorted, Json.sortedMembers, Json.insertMember,
    String.reduceLT, if_true, if_false]

theorem getOrNull_signed (message : SignedCollaborationMessage) :
    message.toValue.sorted.getOrNull "signer_did" = .string message.signerDid ∧
      message.toValue.sorted.getOrNull "signature" = .string message.signature ∧
      message.toValue.sorted.getOrNull "payload" = message.payload.toValue.sorted := by
  rw [sorted_toValue_signed]
  exact ⟨rfl, rfl, rfl⟩

/-- Reading of texts: what a text denotes, if it denotes a message, a value. -/
class CollaborationJson where
  messageFromStr : String → Option SignedCollaborationMessage
  valueFromStr : String → Option Json

section

variable [FloatText]

def canonicalJsonBytes (value : Json) : List UInt8 := value.sorted.compact

def canonicalCollaborationMessageBytes (message : CollaborationMessage) : List UInt8 :=
  canonicalJsonBytes message.toValue

def canonicalSignedCollaborationMessageBytes (message : SignedCollaborationMessage) : List UInt8 :=
  canonicalJsonBytes message.toValue

end

/-- `serde_json::from_slice`: a text is UTF-8. -/
def messageFromSlice [CollaborationJson] (bytes : List UInt8) : Option SignedCollaborationMessage :=
  ofUtf8Bytes? bytes >>= CollaborationJson.messageFromStr

def valueFromSlice [CollaborationJson] (bytes : List UInt8) : Option Json :=
  ofUtf8Bytes? bytes >>= CollaborationJson.valueFromStr

def collaborationMessageEnvelopeSha256 [Crypto] (canonicalEnvelope : List UInt8) : String :=
  "sha256:" ++ Text.hexEncode (Crypto.sha256 canonicalEnvelope).toList

/-! ## 3. Signatures -/

/-- `Signature::from_slice` -/
def signatureFromSlice (bytes : List UInt8) : Option (Bytes 64) :=
  if h : bytes.length = 64 then some ⟨bytes, h⟩ else none

def signatureFromHex (signatureHex : String) : Except String (Bytes 64) := do
  let bytes ← orBail (Text.hexDecode signatureHex) "Invalid signature hex"
  orBail (signatureFromSlice bytes) "Invalid Ed25519 signature"

theorem signatureFromHex_hexEncode (signature : Bytes 64) :
    signatureFromHex (Text.hexEncode signature.toList) = .ok signature := by
  have hslice : signatureFromSlice signature.toList = some signature :=
    dif_pos signature.length_toList
  unfold signatureFromHex
  rw [Text.hexDecode_hexEncode]
  exact orBail_eq_ok.mpr hslice

section

variable [Crypto] [Ed25519Points]

def domainSeparatedDigest (domain : String) (payload : List UInt8) : Bytes 32 :=
  Crypto.sha256 (utf8Bytes domain ++ [0] ++ payload)

def domainSeparatedSign (signingKey : Bytes 32) (domain : String) (payload : List UInt8) :
    String × String :=
  (Text.hexEncode (Crypto.sign signingKey (domainSeparatedDigest domain payload).toList).toList,
    encodeSigningKeyDid signingKey)

def verifyDomainSeparatedSignature (signerDid domain : String) (payload : List UInt8)
    (signatureHex : String) : Except String Unit := do
  let verifyingKey ← decodeDidKey signerDid
  let signature ← signatureFromHex signatureHex
  bailIf (!Crypto.verify verifyingKey (domainSeparatedDigest domain payload).toList signature)
    "Domain-separated signature verification failed"

/-- **What a key has signed verifies under its name.** -/
theorem verifyDomainSeparatedSignature_sign [LawfulCrypto] [LawfulPoints] (signingKey : Bytes 32)
    (domain : String) (payload : List UInt8) :
    verifyDomainSeparatedSignature (encodeSigningKeyDid signingKey) domain payload
      (domainSeparatedSign signingKey domain payload).1 = .ok () := by
  unfold verifyDomainSeparatedSignature domainSeparatedSign
  rw [decodeDidKey_encodeSigningKeyDid, signatureFromHex_hexEncode]
  exact bailIf_eq_ok.mpr (by simp [LawfulCrypto.verify_sign signingKey])

def verifySignedJsonEnvelopeAgainstDids [FloatText] [CollaborationJson]
    (envelopeBytes : List UInt8) (domain : String) (expectedDids : List String) :
    Except String (Json × String) := do
  let envelope ← orBail (valueFromSlice envelopeBytes) "invalid JSON"
  let signerDid ← orBail (envelope.getOrNull "signer_did").asStr "Missing signer_did in envelope"
  bailIf (expectedDids ≠ [] ∧ !expectedDids.contains signerDid) "Signer DID mismatch"
  let sigHex ← orBail (envelope.getOrNull "signature").asStr "Missing signature in envelope"
  bailIf (envelope.getOrNull "payload").isNull "Missing payload in envelope"
  let verifyingKey ← decodeDidKey signerDid
  let signature ← signatureFromHex sigHex
  bailIf (!Crypto.verify verifyingKey
      (domainSeparatedDigest domain (envelope.getOrNull "payload").compact).toList signature)
    "Signed envelope signature verification failed"
  .ok (envelope, signerDid)

end

/-! ## 4. Checks -/

/-- A text of a bounded length whose bytes are all allowed. -/
def canonicalText (limit : Nat) (allowed : UInt8 → Bool) (value : String) : Bool :=
  value ≠ "" && decide (Text.byteLength value ≤ limit) && (utf8Bytes value).all allowed

def lowercaseOrDigit (byte : UInt8) : Bool :=
  (0x61 ≤ byte && byte ≤ 0x7a) || (0x30 ≤ byte && byte ≤ 0x39)

def idByte (byte : UInt8) : Bool :=
  lowercaseOrDigit byte || byte == 0x2e || byte == 0x5f || byte == 0x2d || byte == 0x3a

def serviceByte (byte : UInt8) : Bool :=
  lowercaseOrDigit byte || byte == 0x2e || byte == 0x5f || byte == 0x2d

def payloadTypeByte (byte : UInt8) : Bool :=
  lowercaseOrDigit byte || byte == 0x2e || byte == 0x5f || byte == 0x2d || byte == 0x2f

/-- As many lower-case hexadecimal digits. -/
def lowerHexText (length : Nat) (value : String) : Bool :=
  Text.byteLength value == length && (utf8Bytes value).all fun byte =>
    (0x30 ≤ byte && byte ≤ 0x39) || (0x61 ≤ byte && byte ≤ 0x66)

def validateId (value field : String) : Except String Unit :=
  bailIf (!canonicalText MAX_COLLABORATION_ID_BYTES idByte value)
    ("collaboration " ++ field ++ " is not a canonical identifier")

def validateStrongId (value field : String) : Except String Unit :=
  bailIf (!lowerHexText 32 value)
    ("collaboration " ++ field ++ " must be 128-bit lowercase hex")

def validateService (value : String) : Except String Unit :=
  bailIf (!canonicalText MAX_COLLABORATION_SERVICE_BYTES serviceByte value)
    "collaboration sender service is not canonical"

def validatePayloadType (value : String) : Except String Unit :=
  bailIf (!canonicalText MAX_COLLABORATION_PAYLOAD_TYPE_BYTES payloadTypeByte value)
    "collaboration payload_type is not canonical"

def validateSignatureShape (signature : String) : Except String Unit :=
  bailIf (!lowerHexText 128 signature)
    "collaboration signature must be lowercase Ed25519 hex"

theorem lowerHexText_hexEncode (bytes : List UInt8) :
    lowerHexText (2 * bytes.length) (Text.hexEncode bytes) = true := by
  have hascii : ∀ c ∈ (Text.hexEncode bytes).toList, c.toNat < 0x80 ∧
      Text.isAsciiLowerHex c = true := by
    intro c hc
    have hdigit := Text.isAsciiLowerHex_of_mem_hexEncode hc
    refine ⟨?_, hdigit⟩
    simp only [Text.isAsciiLowerHex, Text.isAsciiDigit, Bool.or_eq_true, Bool.and_eq_true,
      decide_eq_true_eq] at hdigit
    omega
  rw [lowerHexText, Text.byteLength_of_ascii fun c hc => (hascii c hc).1,
    Text.length_toList_hexEncode, Text.utf8Bytes_of_ascii fun c hc => (hascii c hc).1, beq_self_eq_true,
    Bool.true_and, List.all_map, List.all_eq_true]
  intro c hc
  have hdigit := (hascii c hc).2
  simp only [Text.isAsciiLowerHex, Text.isAsciiDigit, Bool.or_eq_true, Bool.and_eq_true,
    decide_eq_true_eq] at hdigit
  simp only [Function.comp, Bool.or_eq_true, Bool.and_eq_true, decide_eq_true_eq,
    UInt8.le_iff_toNat_le, Nat.toUInt8_eq, UInt8.toNat_ofNat']
  simp only [UInt8.reduceToNat]
  omega

theorem validateSignatureShape_hexEncode (signature : Bytes 64) :
    validateSignatureShape (Text.hexEncode signature.toList) = .ok () := by
  have hshape := lowerHexText_hexEncode signature.toList
  rw [Bytes.length_toList] at hshape
  exact bailIf_eq_ok.mpr (by simp [hshape])

def validateNetworkId (networkId : String) : Except String Unit := do
  let bytes := utf8Bytes networkId
  bailIf (bytes = [] ∨ MAX_NETWORK_ID_BYTES < bytes.length) "network_id has an invalid byte length"
  bailIf (!(bytes.head?.any lowercaseOrDigit))
    "network_id must start with a lowercase ASCII letter or digit"
  bailIf (!bytes.all idByte) "network_id contains unsupported or noncanonical characters"

def validateEnvelopeSize (bytes : List UInt8) : Except String Unit :=
  bailIf (bytes = [] ∨ MAX_COLLABORATION_ENVELOPE_BYTES < bytes.length)
    "collaboration signed envelope has an invalid byte length"

def validateMessageLifetime (createdAt expiresAt : UInt64) : Except String Unit := do
  bailIf (expiresAt ≤ createdAt) "collaboration message lifetime must be greater than zero"
  bailIf (MAX_COLLABORATION_MESSAGE_LIFETIME_SECS < expiresAt - createdAt)
    "collaboration message lifetime is too long"

/-- `u64::saturating_add` -/
def saturatingAddU64 (a b : UInt64) : UInt64 := if a + b < a then 0 - 1 else a + b

def validateMessageAdmissibility (message : CollaborationMessage) (now : UInt64) :
    Except String Unit := do
  bailIf (saturatingAddU64 now MAX_COLLABORATION_CLOCK_SKEW_SECS < message.createdAt)
    "collaboration message is not yet valid"
  bailIf (message.expiresAt ≤ now) "collaboration message is expired"

section

variable [Crypto] [Ed25519Points]

def validateCanonicalDid (value field : String) : Except String Unit :=
  match decodeDidKey value with
  | .error _ => .error ("invalid " ++ field)
  | .ok _ => .ok ()

theorem validateCanonicalDid_encode [LawfulPoints] (signingKey : Bytes 32) (field : String) :
    validateCanonicalDid (encodeSigningKeyDid signingKey) field = .ok () := by
  rw [validateCanonicalDid, decodeDidKey_encodeSigningKeyDid]

def validateRecipient (message : CollaborationMessage) : Except String Unit :=
  match message.recipient.kind with
  | .profile => validateCanonicalDid message.recipient.id "recipient Profile DID"
  | .conversation => do
    validateId message.recipient.id "recipient conversation_id"
    bailIf (message.recipient.id ≠ message.conversationId)
      "collaboration message has conflicting conversation recipients"

variable [FloatText]

def validateMessage (message : CollaborationMessage)
    (expectedNetworkId expectedSenderService : String) : Except String Unit := do
  bailIf (message.schema ≠ COLLABORATION_MESSAGE_SCHEMA_V1)
    "unsupported collaboration message schema"
  validateNetworkId message.networkId
  bailIf (message.networkId ≠ expectedNetworkId) "collaboration message belongs to another network"
  validateId message.conversationId "conversation_id"
  validateStrongId message.messageId "message_id"
  validateStrongId message.nonce "nonce"
  validateMessageLifetime message.createdAt message.expiresAt
  validateCanonicalDid message.senderProfileDid "sender Profile DID"
  validateService message.senderService
  bailIf (message.senderService ≠ expectedSenderService)
    "collaboration message sender service does not match Runtime context"
  validateRecipient message
  validatePayloadType message.payloadType
  bailIf (MAX_COLLABORATION_PAYLOAD_BYTES < message.payload.compact.length)
    "collaboration message payload is too large"

/-! ## 5. Verification -/

variable [CollaborationJson]

def verifyStoredCollaborationMessage (envelopeBytes : List UInt8)
    (networkProfile : VerifiedCollaborationNetworkProfile) (expectedSenderService : String) :
    Except String VerifiedCollaborationMessage := do
  validateEnvelopeSize envelopeBytes
  validateService expectedSenderService
  let envelope ← orBail (messageFromSlice envelopeBytes) "invalid collaboration message envelope"
  let canonicalEnvelope := canonicalSignedCollaborationMessageBytes envelope
  bailIf (canonicalEnvelope ≠ envelopeBytes)
    "collaboration message envelope is not canonical JSON"
  validateSignatureShape envelope.signature
  validateMessage envelope.payload networkProfile.networkId expectedSenderService
  validateCanonicalDid envelope.signerDid "collaboration message signer"
  let _ ← verifySignedJsonEnvelopeAgainstDids envelopeBytes
    COLLABORATION_MESSAGE_SIGNATURE_DOMAIN_V1 [envelope.signerDid]
  .ok ⟨envelope, collaborationMessageEnvelopeSha256 canonicalEnvelope⟩

def verifyCollaborationMessage (envelopeBytes : List UInt8)
    (networkProfile : VerifiedCollaborationNetworkProfile) (expectedSenderService : String)
    (now : UInt64) : Except String VerifiedCollaborationMessage := do
  let verified ← verifyStoredCollaborationMessage envelopeBytes networkProfile
    expectedSenderService
  validateMessageAdmissibility verified.envelope.payload now
  .ok verified

/-! ## 6. An envelope that a key has signed -/

variable {networkProfile : VerifiedCollaborationNetworkProfile}

/-- What is accepted has a size and is a text. -/
theorem verifyCollaborationMessage_utf8 {envelopeBytes : List UInt8}
    {expectedSenderService : String} {now : UInt64} {verified : VerifiedCollaborationMessage}
    (h : verifyCollaborationMessage envelopeBytes networkProfile expectedSenderService now = .ok
      verified) :
    ∃ envelope : String, utf8Bytes envelope = envelopeBytes ∧ envelopeBytes ≠ [] ∧
      envelopeBytes.length ≤ MAX_COLLABORATION_ENVELOPE_BYTES := by
  simp only [verifyCollaborationMessage, verifyStoredCollaborationMessage, validateEnvelopeSize,
    Codec.bind_eq_ok, bailIf_eq_ok, orBail_eq_ok, not_or, Nat.not_lt] at h
  obtain ⟨-, ⟨-, ⟨hne, hlength⟩, -, -, message, hread, -⟩, -⟩ := h
  obtain ⟨envelope, htext, -⟩ := Option.bind_eq_some_iff.mp hread
  exact ⟨envelope, utf8Bytes_of_ofUtf8Bytes? htext, hne, hlength⟩

def signMessage (signingKey : Bytes 32) (message : CollaborationMessage) :
    SignedCollaborationMessage :=
  ⟨message, (domainSeparatedSign signingKey COLLABORATION_MESSAGE_SIGNATURE_DOMAIN_V1
    (canonicalCollaborationMessageBytes message)).1, encodeSigningKeyDid signingKey⟩

/-- **An envelope that a key has signed is accepted**, if it passes the checks. -/
theorem verifyCollaborationMessage_signed [LawfulCrypto] [LawfulPoints] (signingKey : Bytes 32)
    {message : CollaborationMessage} {service : String} {now : UInt64}
    (hservice : validateService service = .ok ())
    (hmessage : validateMessage message networkProfile.networkId service = .ok ())
    (hnow : validateMessageAdmissibility message now = .ok ())
    (hsize : validateEnvelopeSize (canonicalSignedCollaborationMessageBytes (signMessage
      signingKey message)) = .ok ())
    (hread : messageFromSlice (canonicalSignedCollaborationMessageBytes (signMessage signingKey
      message)) = some (signMessage signingKey message))
    (hvalue : valueFromSlice (canonicalSignedCollaborationMessageBytes (signMessage signingKey
      message)) = some (signMessage signingKey message).toValue.sorted) :
    verifyCollaborationMessage (canonicalSignedCollaborationMessageBytes
        (signMessage signingKey message)) networkProfile service now =
      .ok ⟨signMessage signingKey message, collaborationMessageEnvelopeSha256
        (canonicalSignedCollaborationMessageBytes (signMessage signingKey message))⟩ := by
  set envelopeBytes := canonicalSignedCollaborationMessageBytes (signMessage signingKey message)
    with henvelope
  have hsignature : verifySignedJsonEnvelopeAgainstDids envelopeBytes
      COLLABORATION_MESSAGE_SIGNATURE_DOMAIN_V1 [(signMessage signingKey message).signerDid] =
        .ok ((signMessage signingKey message).toValue.sorted, encodeSigningKeyDid signingKey) := by
    obtain ⟨hsigner, hsig, hpayload⟩ := getOrNull_signed (signMessage signingKey message)
    refine Codec.bind_eq_ok.mpr ⟨_, orBail_eq_ok.mpr hvalue, ?_⟩
    refine Codec.bind_eq_ok.mpr ⟨encodeSigningKeyDid signingKey, orBail_eq_ok.mpr ?_,
      Codec.bind_eq_ok.mpr ⟨(), bailIf_eq_ok.mpr ?_, ?_⟩⟩
    · rw [hsigner]
      rfl
    · simp [signMessage]
    refine Codec.bind_eq_ok.mpr ⟨(signMessage signingKey message).signature, orBail_eq_ok.mpr ?_,
      Codec.bind_eq_ok.mpr ⟨(), bailIf_eq_ok.mpr ?_, ?_⟩⟩
    · rw [hsig]
      rfl
    · rw [hpayload]
      exact Bool.false_ne_true
    refine Codec.bind_eq_ok.mpr ⟨_, decodeDidKey_encodeSigningKeyDid signingKey,
      Codec.bind_eq_ok.mpr ⟨_, signatureFromHex_hexEncode _,
      Codec.bind_eq_ok.mpr ⟨(), bailIf_eq_ok.mpr ?_, rfl⟩⟩⟩
    have hverify := LawfulCrypto.verify_sign signingKey (domainSeparatedDigest
      COLLABORATION_MESSAGE_SIGNATURE_DOMAIN_V1 (canonicalCollaborationMessageBytes message)).toList
    rw [hpayload, Bool.not_eq_true, Bool.not_eq_false']
    exact hverify
  refine Codec.bind_eq_ok.mpr ⟨_, Codec.bind_eq_ok.mpr ⟨(), hsize, ?_⟩,
    Codec.bind_eq_ok.mpr ⟨(), hnow, rfl⟩⟩
  refine Codec.bind_eq_ok.mpr ⟨(), hservice, Codec.bind_eq_ok.mpr ⟨_, orBail_eq_ok.mpr hread, ?_⟩⟩
  refine Codec.bind_eq_ok.mpr ⟨(), bailIf_eq_ok.mpr (not_not_intro henvelope.symm),
    Codec.bind_eq_ok.mpr ⟨(), validateSignatureShape_hexEncode _, ?_⟩⟩
  refine Codec.bind_eq_ok.mpr ⟨(), hmessage, Codec.bind_eq_ok.mpr
    ⟨(), validateCanonicalDid_encode signingKey _, ?_⟩⟩
  exact Codec.bind_eq_ok.mpr ⟨_, hsignature, rfl⟩

end

end ElastosRuntime.Collaboration
