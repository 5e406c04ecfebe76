/-
# Transport frames

An envelope travels inside a frame that the sending endpoint signs (`collaboration_protocol.rs` of
`elastos-server`).  The frame carries the envelope as a string of its own text, so every quote and
every backslash of the envelope takes two bytes there, and an envelope is a text full of quotes.
Both have a limit of their own, and the frame's leaves 2048 bytes for what stands around the
envelope, but nothing for what escaping adds.

`verifyCollaborationTransportFrame_signed` says what becomes of a frame that a key has signed: it is
read as what was sent if the escaped envelope fits, and refused for its size if not.
-/
import ElastosRuntime.Collaboration.Messages

namespace ElastosRuntime.Collaboration

open Identity (Ed25519Points LawfulPoints encodeSigningKeyDid length_toList_did
  plainChar_of_mem_did)

/-! ## 1. Frames -/

def COLLABORATION_TRANSPORT_FRAME_SCHEMA_V1 : String := "elastos.collaboration.transport-frame/v1"
def COLLABORATION_TRANSPORT_FRAME_SIGNATURE_DOMAIN_V1 : String :=
  "elastos.collaboration.transport-frame.sig/v1"
def MAX_COLLABORATION_TRANSPORT_FRAME_BYTES : Nat := MAX_COLLABORATION_ENVELOPE_BYTES + 2 * 1024

structure CollaborationTransportFramePayload where
  schema : String
  sourceEndpointDid : String
  envelope : String
deriving DecidableEq

structure SignedCollaborationTransportFrame where
  payload : CollaborationTransportFramePayload
  signature : String
  signerDid : String
deriving DecidableEq

structure VerifiedCollaborationTransportFrame where
  envelopeBytes : List UInt8
  sourceEndpointDid : String
deriving DecidableEq

def CollaborationTransportFramePayload.toValue (payload : CollaborationTransportFramePayload) :
    Json :=
  .object [
    ("schema", .string payload.schema),
    ("source_endpoint_did", .string payload.sourceEndpointDid),
    ("envelope", .string payload.envelope)]

def SignedCollaborationTransportFrame.toValue (frame : SignedCollaborationTransportFrame) : Json :=
  .object [
    ("payload", frame.payload.toValue),
    ("signature", .string frame.signature),
    ("signer_did", .string frame.signerDid)]

def validateTransportEnvelopeBytes (bytes : List UInt8) : Except String Unit := do
  bailIf (bytes = [] ∨ MAX_COLLABORATION_ENVELOPE_BYTES < bytes.length)
    "collaboration transport frame envelope exceeds the byte limit"
  bailIf (ofUtf8Bytes? bytes = none) "collaboration transport frame envelope is not UTF-8"

section

variable [FloatText]

/-- The text of a value whose fields are written in the order of their declaration. -/
def framePayloadText (payload : CollaborationTransportFramePayload) : List UInt8 :=
  payload.toValue.compact

def frameToVec (frame : SignedCollaborationTransportFrame) : List UInt8 := frame.toValue.compact

/-- Reading of frames: what a text denotes, if it denotes a frame. -/
class TransportFrameJson where
  frameFromSlice : List UInt8 → Option SignedCollaborationTransportFrame

/-- A frame is read from its text. -/
class LawfulFrameJson [TransportFrameJson] : Prop where
  frameFromSlice_frameToVec : ∀ frame : SignedCollaborationTransportFrame,
    TransportFrameJson.frameFromSlice (frameToVec frame) = some frame

variable [Crypto] [Ed25519Points] [TransportFrameJson]

def verifyCollaborationTransportFrame (frameBytes : List UInt8) :
    Except String VerifiedCollaborationTransportFrame := do
  bailIf (frameBytes = [] ∨ MAX_COLLABORATION_TRANSPORT_FRAME_BYTES < frameBytes.length)
    "collaboration transport frame exceeds the byte limit"
  let envelope ← orBail (TransportFrameJson.frameFromSlice frameBytes)
    "invalid collaboration transport frame"
  bailIf (frameToVec envelope ≠ frameBytes) "collaboration transport frame is not canonical JSON"
  bailIf (envelope.payload.schema ≠ COLLABORATION_TRANSPORT_FRAME_SCHEMA_V1)
    "unsupported collaboration transport frame schema"
  bailIf (envelope.signerDid ≠ envelope.payload.sourceEndpointDid)
    "collaboration transport frame signer does not match source endpoint DID"
  validateCanonicalDid envelope.payload.sourceEndpointDid
    "collaboration transport frame source endpoint DID"
  verifyDomainSeparatedSignature envelope.payload.sourceEndpointDid
    COLLABORATION_TRANSPORT_FRAME_SIGNATURE_DOMAIN_V1 (framePayloadText envelope.payload)
    envelope.signature
  validateTransportEnvelopeBytes (utf8Bytes envelope.payload.envelope)
  .ok ⟨utf8Bytes envelope.payload.envelope, envelope.payload.sourceEndpointDid⟩

def signCollaborationTransportFrame (signingKey : Bytes 32) (envelopeBytes : List UInt8) :
    Except String (List UInt8) := do
  validateTransportEnvelopeBytes envelopeBytes
  let envelope ← orBail (ofUtf8Bytes? envelopeBytes)
    "collaboration transport frame envelope is not UTF-8"
  let payload : CollaborationTransportFramePayload :=
    ⟨COLLABORATION_TRANSPORT_FRAME_SCHEMA_V1, encodeSigningKeyDid signingKey, envelope⟩
  let signed := domainSeparatedSign signingKey COLLABORATION_TRANSPORT_FRAME_SIGNATURE_DOMAIN_V1
    (framePayloadText payload)
  let frameBytes := frameToVec ⟨payload, signed.1, signed.2⟩
  let _ ← verifyCollaborationTransportFrame frameBytes
  .ok frameBytes

end

/-! ## 2. The length of a frame -/

theorem length_quote_did [Crypto] (signingKey : Bytes 32) :
    (Json.quote (encodeSigningKeyDid signingKey)).length = 58 := by
  unfold encodeSigningKeyDid
  rw [Json.length_quote_of_plainChar fun c hc => plainChar_of_mem_did hc, length_toList_did]
  rfl

theorem length_quote_hexEncode (bytes : List UInt8) :
    (Json.quote (Text.hexEncode bytes)).length = 2 * bytes.length + 2 := by
  refine (Json.length_quote_of_plainChar fun c hc => ?_).trans
    (congrArg (· + 2) (Text.length_toList_hexEncode bytes))
  have hdigit := Text.isAsciiHexdigit_of_mem_hexEncode hc
  have hquote : c ≠ '"' := by
    rintro rfl
    exact absurd hdigit (by decide)
  have hslash : c ≠ '\\' := by
    rintro rfl
    exact absurd hdigit (by decide)
  simp only [Text.isAsciiHexdigit, Text.isAsciiLowerHex, Text.isAsciiDigit, Bool.or_eq_true,
    Bool.and_eq_true, decide_eq_true_eq] at hdigit
  simp only [Json.plainChar, Bool.and_eq_true, decide_eq_true_eq, bne_iff_ne]
  exact ⟨⟨by omega, hquote⟩, hslash⟩

theorem validateTransportEnvelopeBytes_utf8Bytes {envelope : String}
    (hne : utf8Bytes envelope ≠ [])
    (hlength : (utf8Bytes envelope).length ≤ MAX_COLLABORATION_ENVELOPE_BYTES) :
    validateTransportEnvelopeBytes (utf8Bytes envelope) = .ok () := by
  unfold validateTransportEnvelopeBytes
  rw [ofUtf8Bytes?_utf8Bytes, bailIf, if_neg (not_or.mpr ⟨hne, Nat.not_lt.mpr hlength⟩)]
  rfl

theorem frameToVec_ne_nil [FloatText] (frame : SignedCollaborationTransportFrame) :
    frameToVec frame ≠ [] := by
  intro h
  cases h

/-- The frame of an envelope with a signature and a source. -/
def frameOf (sourceEndpointDid envelope signature : String) : SignedCollaborationTransportFrame :=
  ⟨⟨COLLABORATION_TRANSPORT_FRAME_SCHEMA_V1, sourceEndpointDid, envelope⟩, signature,
    sourceEndpointDid⟩

section

variable [FloatText] [Crypto]

/-- The frame that a key signs. -/
def signedFrame (signingKey : Bytes 32) (envelope : String) : SignedCollaborationTransportFrame :=
  frameOf (encodeSigningKeyDid signingKey) envelope
    (domainSeparatedSign signingKey COLLABORATION_TRANSPORT_FRAME_SIGNATURE_DOMAIN_V1
      (framePayloadText ⟨COLLABORATION_TRANSPORT_FRAME_SCHEMA_V1, encodeSigningKeyDid signingKey,
        envelope⟩)).1

/-- What a frame takes beside its envelope. -/
def FRAME_OVERHEAD : Nat := 375

/-- **The length of a frame**: the envelope counts as often as its bytes are escaped. -/
theorem length_frameToVec (signingKey : Bytes 32) (envelope : String) :
    (frameToVec (signedFrame signingKey envelope)).length =
      FRAME_OVERHEAD + Json.escapedLength (utf8Bytes envelope) := by
  have hpayload : (Json.quote "payload").length = 9 := by decide
  have hschema : (Json.quote "schema").length = 8 := by decide
  have hsource : (Json.quote "source_endpoint_did").length = 21 := by decide
  have henvelope : (Json.quote "envelope").length = 10 := by decide
  have hsignature : (Json.quote "signature").length = 11 := by decide
  have hsigner : (Json.quote "signer_did").length = 12 := by decide
  have hversion : (Json.quote COLLABORATION_TRANSPORT_FRAME_SCHEMA_V1).length = 42 := by decide
  have htext := Json.length_quote envelope
  simp only [frameToVec, signedFrame, frameOf, SignedCollaborationTransportFrame.toValue,
    CollaborationTransportFramePayload.toValue, Json.compact, Json.membersText, Json.asciiBytes,
    domainSeparatedSign, List.length_append, List.length_map, List.length_cons, List.length_nil,
    hpayload, hschema, hsource, henvelope, hsignature, hsigner, hversion, htext, length_quote_did,
    length_quote_hexEncode, Bytes.length_toList, FRAME_OVERHEAD]
  omega

/-! ## 3. What becomes of a signed frame -/

variable [Ed25519Points] [TransportFrameJson]

/-- **A signed frame is read as what was sent**, if the escaped envelope fits; otherwise it is
refused for its size. -/
theorem verifyCollaborationTransportFrame_signed [LawfulCrypto] [LawfulPoints] [LawfulFrameJson]
    (signingKey : Bytes 32) {envelope : String} (hne : utf8Bytes envelope ≠ [])
    (hlength : (utf8Bytes envelope).length ≤ MAX_COLLABORATION_ENVELOPE_BYTES) :
    verifyCollaborationTransportFrame (frameToVec (signedFrame signingKey envelope)) =
      if FRAME_OVERHEAD + Json.escapedLength (utf8Bytes envelope) ≤
          MAX_COLLABORATION_TRANSPORT_FRAME_BYTES then
        .ok ⟨utf8Bytes envelope, encodeSigningKeyDid signingKey⟩
      else .error "collaboration transport frame exceeds the byte limit" := by
  rw [← length_frameToVec signingKey]
  split
  · next hfits =>
    refine Codec.bind_eq_ok.mpr ⟨(), bailIf_eq_ok.mpr (not_or.mpr ⟨frameToVec_ne_nil _,
      Nat.not_lt.mpr hfits⟩), Codec.bind_eq_ok.mpr ⟨signedFrame signingKey envelope,
      orBail_eq_ok.mpr (LawfulFrameJson.frameFromSlice_frameToVec _), ?_⟩⟩
    refine Codec.bind_eq_ok.mpr ⟨(), bailIf_eq_ok.mpr (not_not_intro rfl),
      Codec.bind_eq_ok.mpr ⟨(), bailIf_eq_ok.mpr (not_not_intro rfl),
      Codec.bind_eq_ok.mpr ⟨(), bailIf_eq_ok.mpr (not_not_intro rfl),
      Codec.bind_eq_ok.mpr ⟨(), validateCanonicalDid_encode signingKey _, ?_⟩⟩⟩⟩
    refine Codec.bind_eq_ok.mpr ⟨(), verifyDomainSeparatedSignature_sign signingKey _ _,
      Codec.bind_eq_ok.mpr ⟨(), validateTransportEnvelopeBytes_utf8Bytes hne hlength, rfl⟩⟩
  · next hfits =>
    have hsize : MAX_COLLABORATION_TRANSPORT_FRAME_BYTES <
        (frameToVec (signedFrame signingKey envelope)).length := Nat.lt_of_not_le hfits
    unfold verifyCollaborationTransportFrame
    rw [bailIf, if_pos (Or.inr hsize)]
    rfl

theorem signCollaborationTransportFrame_utf8Bytes {envelope : String} (signingKey : Bytes 32)
    (hne : utf8Bytes envelope ≠ [])
    (hlength : (utf8Bytes envelope).length ≤ MAX_COLLABORATION_ENVELOPE_BYTES) :
    signCollaborationTransportFrame signingKey (utf8Bytes envelope) =
      (verifyCollaborationTransportFrame (frameToVec (signedFrame signingKey envelope))).map
        fun _ => frameToVec (signedFrame signingKey envelope) := by
  have hbind : ∀ {α β : Type} (a : α) (f : α → Except String β),
      (Except.ok a >>= f) = f a := fun _ _ => rfl
  have hmap : ∀ (x : Except String VerifiedCollaborationTransportFrame) (bytes : List UInt8),
      (x >>= fun _ => Except.ok bytes) = x.map fun _ => bytes := by
    rintro (_ | _) _ <;> rfl
  have hsigner : ∀ text, (domainSeparatedSign signingKey
      COLLABORATION_TRANSPORT_FRAME_SIGNATURE_DOMAIN_V1 text).2 = encodeSigningKeyDid signingKey :=
    fun _ => rfl
  unfold signCollaborationTransportFrame
  rw [validateTransportEnvelopeBytes_utf8Bytes hne hlength, ofUtf8Bytes?_utf8Bytes]
  simp only [orBail, hbind, hmap, hsigner, signedFrame, frameOf]

/-! ## 4. What is accepted -/

/-- The frame is accepted as what `source` has sent, with this text as its signature. -/
def AcceptedAs (frameBytes : List UInt8) (source : String) (envelopeBytes : List UInt8)
    (signature : String) : Prop :=
  verifyCollaborationTransportFrame frameBytes = .ok ⟨envelopeBytes, source⟩ ∧
    ∃ frame, TransportFrameJson.frameFromSlice frameBytes = some frame ∧
      frame.signature = signature

/-- What is accepted is the text of what it is read as, and that is a frame of its parts. -/
theorem verifyCollaborationTransportFrame_eq_ok {frameBytes : List UInt8}
    {received : VerifiedCollaborationTransportFrame}
    (h : verifyCollaborationTransportFrame frameBytes = .ok received) :
    ∃ envelope signature, TransportFrameJson.frameFromSlice frameBytes =
        some (frameOf received.sourceEndpointDid envelope signature) ∧
      frameToVec (frameOf received.sourceEndpointDid envelope signature) = frameBytes ∧
      utf8Bytes envelope = received.envelopeBytes := by
  simp only [verifyCollaborationTransportFrame, Codec.bind_eq_ok, bailIf_eq_ok, orBail_eq_ok,
    ne_eq, Decidable.not_not] at h
  obtain ⟨-, -, frame, hread, -, htext, -, hschema, -, hsigner, -, -, -, -, -, -, hreceived⟩ := h
  cases hreceived
  obtain ⟨⟨schema, source, envelope⟩, signature, signer⟩ := frame
  obtain rfl : signer = source := hsigner
  obtain rfl : schema = COLLABORATION_TRANSPORT_FRAME_SCHEMA_V1 := hschema
  exact ⟨envelope, signature, hread, htext, rfl⟩

theorem AcceptedAs.eq_frameToVec {frameBytes envelopeBytes : List UInt8} {source signature : String}
    (h : AcceptedAs frameBytes source envelopeBytes signature) :
    ∃ envelope, utf8Bytes envelope = envelopeBytes ∧
      frameBytes = frameToVec (frameOf source envelope signature) := by
  obtain ⟨hverify, frame, hframe, hsignature⟩ := h
  obtain ⟨envelope, signature', hread, htext, henvelope⟩ :=
    verifyCollaborationTransportFrame_eq_ok hverify
  rw [hframe] at hread
  cases hread
  cases hsignature
  exact ⟨envelope, henvelope, htext.symm⟩

/-- **Transport frames.**  An accepted envelope is framed by every key, and the frame is read as
what was sent, exactly when the escaped envelope fits into a frame.  A frame that is accepted is
the text of its parts, so no two frames are accepted as the same. -/
theorem transport_frame_round_trip [LawfulCrypto] [LawfulPoints] [LawfulFrameJson]
    [CollaborationJson] (signingKey : Bytes 32) (envelopeBytes : List UInt8)
    (networkProfile : VerifiedCollaborationNetworkProfile) (expectedSenderService : String)
    (now : UInt64) (verified : VerifiedCollaborationMessage)
    (h : verifyCollaborationMessage envelopeBytes networkProfile expectedSenderService now =
      .ok verified) :
    ((∃ frameBytes, signCollaborationTransportFrame signingKey envelopeBytes = .ok frameBytes ∧
        frameBytes.length ≤ MAX_COLLABORATION_TRANSPORT_FRAME_BYTES ∧
        verifyCollaborationTransportFrame frameBytes =
          .ok ⟨envelopeBytes, encodeSigningKeyDid signingKey⟩) ↔
      FRAME_OVERHEAD + Json.escapedLength envelopeBytes ≤
        MAX_COLLABORATION_TRANSPORT_FRAME_BYTES) ∧
    (∀ frameBytes received, verifyCollaborationTransportFrame frameBytes = .ok received →
      ∃ envelope signature, utf8Bytes envelope = received.envelopeBytes ∧
        AcceptedAs frameBytes received.sourceEndpointDid received.envelopeBytes signature ∧
        frameBytes = frameToVec (frameOf received.sourceEndpointDid envelope signature)) ∧
    ∀ frameBytes frameBytes' source envelope signature,
      AcceptedAs frameBytes source envelope signature →
        AcceptedAs frameBytes' source envelope signature → frameBytes = frameBytes' := by
  refine ⟨?_, fun frameBytes received hreceived => ?_,
    fun frameBytes frameBytes' source envelope signature haccepted haccepted' => ?_⟩
  · obtain ⟨envelope, rfl, hne, hlength⟩ := verifyCollaborationMessage_utf8 h
    rw [signCollaborationTransportFrame_utf8Bytes signingKey hne hlength,
      verifyCollaborationTransportFrame_signed signingKey hne hlength]
    constructor
    · rintro ⟨frameBytes, hsign, -, -⟩
      by_contra hlong
      rw [if_neg hlong] at hsign
      cases hsign
    · intro hfits
      refine ⟨_, by rw [if_pos hfits]; rfl, ?_, ?_⟩
      · rw [length_frameToVec]
        exact hfits
      · rw [verifyCollaborationTransportFrame_signed signingKey hne hlength, if_pos hfits]
  · obtain ⟨envelope, signature, hread, htext, henvelope⟩ :=
      verifyCollaborationTransportFrame_eq_ok hreceived
    exact ⟨envelope, signature, henvelope, ⟨hreceived, _, hread, rfl⟩, htext.symm⟩
  · obtain ⟨text, htext, hframe⟩ := haccepted.eq_frameToVec
    obtain ⟨text', htext', hframe'⟩ := haccepted'.eq_frameToVec
    obtain rfl : text = text' := utf8Bytes_injective (htext.trans htext'.symm)
    exact hframe.trans hframe'.symm

end

/-! ## 5. A payload of quotes

The witness and the counterexample of `transport_frame_round_trip` are one envelope with more or
fewer quotes in it. -/

theorem frameToVec_injective [FloatText] : Function.Injective frameToVec := by
  rintro ⟨⟨schema, source, envelope⟩, signature, signer⟩
    ⟨⟨schema', source', envelope'⟩, signature', signer'⟩ h
  simp only [frameToVec, SignedCollaborationTransportFrame.toValue,
    CollaborationTransportFramePayload.toValue, Json.compact, Json.membersText,
    List.append_assoc, List.append_cancel_left_eq] at h
  obtain ⟨rfl, h⟩ := Json.quote_append_inj h
  simp only [List.append_cancel_left_eq] at h
  obtain ⟨rfl, h⟩ := Json.quote_append_inj h
  simp only [List.append_cancel_left_eq] at h
  obtain ⟨rfl, h⟩ := Json.quote_append_inj h
  simp only [List.append_cancel_left_eq] at h
  obtain ⟨rfl, h⟩ := Json.quote_append_inj h
  simp only [List.append_cancel_left_eq] at h
  obtain ⟨rfl, -⟩ := Json.quote_append_inj h
  rfl

section

/-- No float occurs. -/
@[reducible] def noFloats : FloatText := ⟨fun _ => []⟩

attribute [local instance] keyEchoCrypto Identity.keyPoints noFloats

/-- Frames are read back from their texts, and nothing else is read. -/
@[reducible] noncomputable def frameTexts : TransportFrameJson :=
  ⟨Function.partialInv frameToVec⟩

theorem frameTexts_lawful : @LawfulFrameJson _ frameTexts :=
  letI := frameTexts
  ⟨fun frame => Function.partialInv_left frameToVec_injective frame⟩

def sampleKey : Bytes 32 := Bytes.zero 32

def sampleProfile : VerifiedCollaborationNetworkProfile := ⟨"net"⟩

/-- A message of `n` quotes. -/
def quotesMessage (n : Nat) : CollaborationMessage where
  schema := COLLABORATION_MESSAGE_SCHEMA_V1
  networkId := "net"
  conversationId := "talk"
  messageId := "0123456789abcdef0123456789abcdef"
  nonce := "0123456789abcdef0123456789abcdef"
  createdAt := 1
  expiresAt := 2
  senderProfileDid := encodeSigningKeyDid sampleKey
  senderService := "chat"
  recipient := ⟨.conversation, "talk"⟩
  payloadType := "text"
  payload := .string (String.ofList (List.replicate n '"'))

def quotesEnvelope (n : Nat) : SignedCollaborationMessage :=
  signMessage sampleKey (quotesMessage n)

def quotesEnvelopeBytes (n : Nat) : List UInt8 :=
  canonicalSignedCollaborationMessageBytes (quotesEnvelope n)

/-- A reader that knows one envelope. -/
@[reducible] def quotesJson (n : Nat) : CollaborationJson where
  messageFromStr := fun text =>
    if utf8Bytes text = quotesEnvelopeBytes n then some (quotesEnvelope n) else none
  valueFromStr := fun text =>
    if utf8Bytes text = quotesEnvelopeBytes n then some (quotesEnvelope n).toValue.sorted else none

theorem length_quote_quotes (n : Nat) :
    (Json.quote (String.ofList (List.replicate n '"'))).length = 2 * n + 2 := by
  rw [Json.quote, String.toList_ofList, List.length_append, List.length_append]
  have hflat : ((List.replicate n '"').flatMap Json.escape).length = 2 * n := by
    induction n with
    | zero => rfl
    | succ n ih =>
      rw [List.replicate_succ, List.flatMap_cons, List.length_append, ih]
      change 2 + 2 * n = 2 * (n + 1)
      omega
  rw [hflat]
  change 1 + 2 * n + 1 = 2 * n + 2
  omega

/-- The lengths of the names and the fixed values of the envelope. -/
theorem length_quote_literals :
    (Json.quote "conversation_id").length = 17 ∧
      (Json.quote "created_at").length = 12 ∧
      (Json.quote "expires_at").length = 12 ∧
      (Json.quote "message_id").length = 12 ∧
      (Json.quote "network_id").length = 12 ∧
      (Json.quote "nonce").length = 7 ∧
      (Json.quote "payload").length = 9 ∧
      (Json.quote "payload_type").length = 14 ∧
      (Json.quote "recipient").length = 11 ∧
      (Json.quote "schema").length = 8 ∧
      (Json.quote "sender_profile_did").length = 20 ∧
      (Json.quote "sender_service").length = 16 ∧
      (Json.quote "id").length = 4 ∧
      (Json.quote "kind").length = 6 ∧
      (Json.quote "signature").length = 11 ∧
      (Json.quote "signer_did").length = 12 ∧
      (Json.quote "talk").length = 6 ∧
      (Json.quote "0123456789abcdef0123456789abcdef").length = 34 ∧
      (Json.quote "chat").length = 6 ∧
      (Json.quote "text").length = 6 ∧
      (Json.quote "net").length = 5 ∧
      (Json.quote "conversation").length = 14 ∧
      (Json.quote COLLABORATION_MESSAGE_SCHEMA_V1).length = 34 := by
  decide

theorem length_quotesEnvelopeBytes (n : Nat) :
    (quotesEnvelopeBytes n).length = 624 + 2 * n := by
  have hdid := length_quote_did sampleKey
  have hsignature := fun bytes : Bytes 64 => length_quote_hexEncode bytes.toList
  have hone : (Json.decimal (1 : UInt64).toNat).length = 1 := by decide
  have htwo : (Json.decimal (2 : UInt64).toNat).length = 1 := by decide
  obtain ⟨h0, h1, h2, h3, h4, h5, h6, h7, h8, h9, h10, h11, h12, h13, h14, h15, h16, h17, h18, h19, h20, h21, h22⟩ :=
    length_quote_literals
  rw [quotesEnvelopeBytes, canonicalSignedCollaborationMessageBytes, canonicalJsonBytes,
    sorted_toValue_signed]
  simp only [quotesEnvelope, signMessage, domainSeparatedSign, sorted_toValue_message,
    quotesMessage, sorted_toValue_recipient, Json.sorted, Json.compact, Json.membersText,
    Json.numberText, Json.asciiBytes, CollaborationRecipientKind.toValue, List.length_append,
    List.length_map, List.length_cons, List.length_nil, Bytes.length_toList, hdid, hsignature,
    length_quote_quotes, hone, htwo, h0, h1, h2, h3, h4, h5, h6, h7, h8, h9, h10, h11, h12, h13, h14, h15, h16, h17, h18, h19, h20, h21, h22]
  omega

theorem quotesEnvelopeBytes_text (n : Nat) : ∃ text : String,
    utf8Bytes text = quotesEnvelopeBytes n :=
  Json.isText_compact (fun _ => ⟨"", rfl⟩) _

/-- As many quotes as a payload may have, and the envelope is accepted. -/
theorem quotes_accepted {n : Nat} (h : 2 * n + 2 ≤ MAX_COLLABORATION_PAYLOAD_BYTES) :
    letI := quotesJson n
    verifyCollaborationMessage (quotesEnvelopeBytes n) sampleProfile "chat" 1 =
      .ok ⟨quotesEnvelope n, collaborationMessageEnvelopeSha256 (quotesEnvelopeBytes n)⟩ := by
  let _ := quotesJson n
  have _ := keyEchoCrypto_lawful
  have _ := Identity.keyPoints_lawful
  have hlifetime : validateMessageLifetime 1 2 = .ok () := Codec.bind_eq_ok.mpr
    ⟨(), bailIf_eq_ok.mpr (by decide), bailIf_eq_ok.mpr (by decide)⟩
  have hnow : validateMessageAdmissibility (quotesMessage n) 1 = .ok () := Codec.bind_eq_ok.mpr
    ⟨(), bailIf_eq_ok.mpr (show ¬saturatingAddU64 1 MAX_COLLABORATION_CLOCK_SKEW_SECS < 1 by decide),
      bailIf_eq_ok.mpr (show ¬(2 : UInt64) ≤ 1 by decide)⟩
  have hmessage : validateMessage (quotesMessage n) sampleProfile.networkId "chat" = .ok () := by
    refine Codec.bind_eq_ok.mpr ⟨(), bailIf_eq_ok.mpr (not_not_intro rfl),
      Codec.bind_eq_ok.mpr ⟨(), by rfl, Codec.bind_eq_ok.mpr ⟨(),
      bailIf_eq_ok.mpr (not_not_intro rfl), Codec.bind_eq_ok.mpr ⟨(), by rfl,
      Codec.bind_eq_ok.mpr ⟨(), by rfl, Codec.bind_eq_ok.mpr ⟨(), by rfl, ?_⟩⟩⟩⟩⟩⟩
    refine Codec.bind_eq_ok.mpr ⟨(), hlifetime, Codec.bind_eq_ok.mpr ⟨(),
      validateCanonicalDid_encode sampleKey _, Codec.bind_eq_ok.mpr ⟨(), by rfl,
      Codec.bind_eq_ok.mpr ⟨(), bailIf_eq_ok.mpr (not_not_intro rfl),
      Codec.bind_eq_ok.mpr ⟨(), by rfl, Codec.bind_eq_ok.mpr ⟨(), by rfl, ?_⟩⟩⟩⟩⟩⟩
    refine bailIf_eq_ok.mpr (Nat.not_lt.mpr ?_)
    change (Json.quote (String.ofList (List.replicate n '"'))).length ≤ _
    rw [length_quote_quotes]
    exact h
  have hlength := length_quotesEnvelopeBytes n
  have hsize : validateEnvelopeSize (quotesEnvelopeBytes n) = .ok () := by
    refine bailIf_eq_ok.mpr (not_or.mpr ⟨fun hnil => ?_, Nat.not_lt.mpr ?_⟩)
    · rw [hnil, List.length_nil] at hlength
      omega
    · rw [hlength]
      simp only [MAX_COLLABORATION_PAYLOAD_BYTES, MAX_COLLABORATION_ENVELOPE_BYTES] at h ⊢
      omega
  obtain ⟨text, htext⟩ := quotesEnvelopeBytes_text n
  have hbytes : ofUtf8Bytes? (quotesEnvelopeBytes n) = some text := by
    rw [← htext, ofUtf8Bytes?_utf8Bytes]
  refine verifyCollaborationMessage_signed sampleKey (by rfl) hmessage hnow hsize ?_ ?_
  · change (ofUtf8Bytes? (quotesEnvelopeBytes n) >>= (quotesJson n).messageFromStr) = _
    rw [hbytes]
    exact if_pos htext
  · change (ofUtf8Bytes? (quotesEnvelopeBytes n) >>= (quotesJson n).valueFromStr) = _
    rw [hbytes]
    exact if_pos htext

/-- Each quote takes four bytes in a frame. -/
theorem escapedLength_quotesEnvelopeBytes (n : Nat) :
    4 * n ≤ Json.escapedLength (quotesEnvelopeBytes n) := by
  have hquotes : Json.escapedLength ((List.replicate n '"').flatMap Json.escape) = 4 * n := by
    induction n with
    | zero => rfl
    | succ n ih =>
      rw [List.replicate_succ, List.flatMap_cons, Json.escapedLength_append, ih]
      change 4 + 4 * n = 4 * (n + 1)
      omega
  have hquote : (List.replicate n '"').flatMap Json.escape <:+:
      Json.compact (.string (String.ofList (List.replicate n '"'))) := by
    rw [Json.compact, Json.quote, String.toList_ofList]
    exact (List.suffix_append _ _).isInfix.trans (List.prefix_append _ _).isInfix
  have hpayload : Json.compact (.string (String.ofList (List.replicate n '"'))) <:+:
      (quotesMessage n).toValue.sorted.compact := by
    rw [sorted_toValue_message]
    have hmember : ("payload", (quotesMessage n).payload.sorted) ∈
        [("payload", (quotesMessage n).payload.sorted)] := List.mem_singleton_self _
    exact Json.compact_infix_object (List.mem_append_left _ (List.mem_append_right
      [_, _, _, _, _, _] hmember))
  have hmessage : (quotesMessage n).toValue.sorted.compact <:+: quotesEnvelopeBytes n := by
    rw [quotesEnvelopeBytes, canonicalSignedCollaborationMessageBytes, canonicalJsonBytes,
      sorted_toValue_signed]
    exact Json.compact_infix_object List.mem_cons_self
  calc 4 * n = Json.escapedLength ((List.replicate n '"').flatMap Json.escape) := hquotes.symm
    _ ≤ Json.escapedLength (quotesEnvelopeBytes n) :=
      Json.escapedLength_le_of_infix ((hquote.trans hpayload).trans hmessage)

attribute [local instance] frameTexts

theorem transport_frame_round_trip_sample :
    letI := quotesJson 0
    ∃ frameBytes, signCollaborationTransportFrame sampleKey (quotesEnvelopeBytes 0) =
        .ok frameBytes ∧
      frameBytes.length ≤ MAX_COLLABORATION_TRANSPORT_FRAME_BYTES ∧
      verifyCollaborationTransportFrame frameBytes =
        .ok ⟨quotesEnvelopeBytes 0, encodeSigningKeyDid sampleKey⟩ := by
  let _ := quotesJson 0
  have _ := keyEchoCrypto_lawful
  have _ := Identity.keyPoints_lawful
  have _ := frameTexts_lawful
  refine (transport_frame_round_trip sampleKey (quotesEnvelopeBytes 0) sampleProfile "chat" 1 _
    (quotes_accepted (by decide))).1.mpr ?_
  have hescaped := Json.escapedLength_le (quotesEnvelopeBytes 0)
  have hmax : MAX_COLLABORATION_TRANSPORT_FRAME_BYTES = 100352 := rfl
  rw [length_quotesEnvelopeBytes] at hescaped
  rw [hmax, FRAME_OVERHEAD]
  omega

/-- An envelope of 60624 bytes is accepted, and no key can frame it. -/
theorem quotes_not_framed :
    letI := quotesJson 30000
    (∃ verified, verifyCollaborationMessage (quotesEnvelopeBytes 30000) sampleProfile "chat" 1 =
      .ok verified) ∧
    (quotesEnvelopeBytes 30000).length = 60624 ∧
    ∀ signingKey, signCollaborationTransportFrame signingKey (quotesEnvelopeBytes 30000) =
      .error "collaboration transport frame exceeds the byte limit" := by
  let _ := quotesJson 30000
  have _ := keyEchoCrypto_lawful
  have _ := Identity.keyPoints_lawful
  have _ := frameTexts_lawful
  have haccepted := quotes_accepted (n := 30000) (by decide)
  refine ⟨⟨_, haccepted⟩, length_quotesEnvelopeBytes 30000, fun signingKey => ?_⟩
  obtain ⟨envelope, htext, hne, hlength⟩ := verifyCollaborationMessage_utf8 haccepted
  have hescaped := escapedLength_quotesEnvelopeBytes 30000
  rw [← htext] at hne hlength hescaped ⊢
  have hlong : ¬FRAME_OVERHEAD + Json.escapedLength (utf8Bytes envelope) ≤
      MAX_COLLABORATION_TRANSPORT_FRAME_BYTES := by
    have hmax : MAX_COLLABORATION_TRANSPORT_FRAME_BYTES = 100352 := rfl
    rw [hmax, FRAME_OVERHEAD]
    omega
  rw [signCollaborationTransportFrame_utf8Bytes signingKey hne hlength,
    verifyCollaborationTransportFrame_signed signingKey hne hlength, if_neg hlong]
  rfl

end

end ElastosRuntime.Collaboration
