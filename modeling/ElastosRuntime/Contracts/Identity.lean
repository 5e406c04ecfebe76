/-
# Identities

The records that name a recipient, a Profile, the encrypted content, its key envelope and its
policy (`identity.rs`), and the binding that ties them to one wallet and one Runtime session.
-/
import ElastosRuntime.Contracts.Keys

namespace ElastosRuntime.Contracts

open Codec

def MAX_ENCRYPTED_CONTENT_BYTES : UInt64 := (1 : UInt64) <<< 50
def MAX_KEY_ENVELOPE_BYTES : UInt32 := (1 : UInt32) <<< 20
def MAX_RIGHTS_POLICY_BYTES : UInt32 := (1 : UInt32) <<< 20
def MAX_RECIPIENT_ENCRYPTION_SUITE_ID_BYTES : Nat := 96
def MAX_THRESHOLD_NODES : UInt8 := 16

/-! ## 1. Records of one field -/

/-- A newtype that is a record of its own: its bytes, checked when read. -/
@[reducible] def CanonicalBody.newtype {n : Nat} {ok : Bytes n → Bool} {field : String}
    (domain : String) : CanonicalBody (Checked ok field) where
  DOMAIN := domain
  validate := Checked.recheck
  encodeFields v := Encoder.fixed v.value
  decodeFields := do Checked.new (← Decoder.fixed n)

theorem lawful_newtype {n : Nat} {ok : Bytes n → Bool} {field domain : String} :
    @LawfulBody (Checked ok field) (.newtype domain) :=
  letI : CanonicalBody (Checked ok field) := .newtype domain
  ⟨fun v _ => (mirrors_fixed v.value).last v.new_value⟩

instance [Curves] : CanonicalBody ProfileIdentityV1 :=
  .newtype "elastos.protected-content.profile-identity/v1"

instance [Curves] : LawfulBody ProfileIdentityV1 := lawful_newtype

/-! ## 2. Content-addressed documents -/

/-- The domain of an identity, the largest document it may name, and the field that bound is
about. -/
structure IdentitySpec where
  domain : String
  maximum : UInt32
  field : String

/-- The hash and the length of a document. -/
structure SizedIdentity (s : IdentitySpec) where
  sha256 : Bytes 32
  bytes : UInt32
deriving DecidableEq

namespace SizedIdentity

variable {s : IdentitySpec}

def validate (v : SizedIdentity s) : Except ContractError Unit :=
  rejectIf (v.bytes = 0 ∨ s.maximum < v.bytes) (.invalidField s.field)

def new (sha256 : Digest32) (bytes : UInt32) : Except ContractError (SizedIdentity s) :=
  build validate ⟨sha256, bytes⟩

instance : CanonicalBody (SizedIdentity s) where
  DOMAIN := s.domain
  validate := validate
  encodeFields v := do
    Encoder.fixed v.sha256
    Encoder.u32 v.bytes
  decodeFields := do new (← Decoder.fixed 32) (← Decoder.u32)

instance : LawfulBody (SizedIdentity s) where
  mirrors v h := (mirrors_fixed v.sha256).bind <| (mirrors_u32 v.bytes).last (build_eq h)

/-- The content address of a document: the hash and the length of its canonical form. -/
def of {α : Type} [CanonicalBody α] [Crypto] (document : α) :
    Except ContractError (SizedIdentity s) := do
  let sha256 ← canonicalHash document
  let bytes ← canonicalBytes document
  rejectIf (UInt32.size ≤ bytes.length) (.invalidField s.field)
  new sha256 (UInt32.ofNat bytes.length)

/-- An identity that was made passes its check. -/
theorem valid_of_eq_ok {α : Type} [CanonicalBody α] [Crypto] {document : α} {v : SizedIdentity s}
    (h : of document = .ok v) : v.validate = .ok () := by
  obtain ⟨_, _, h⟩ := bind_eq_ok.mp h
  obtain ⟨_, _, h⟩ := bind_eq_ok.mp h
  obtain ⟨⟨⟩, _, h⟩ := bind_eq_ok.mp h
  obtain ⟨⟨⟩, hvalid, ⟨⟩⟩ := bind_eq_ok.mp h
  exact hvalid

/-- A document that encodes within the bound has an identity. -/
theorem exists_of {α : Type} [CanonicalBody α] [Crypto] {document : α} {n : Nat}
    (h : Encodes document n) (hpos : 0 < n) (hmax : n ≤ s.maximum.toNat) :
    ∃ identity : SizedIdentity s, of document = .ok identity := by
  obtain ⟨bytes, hbytes, rfl⟩ := h
  have hhash : canonicalHash document = .ok (Crypto.sha256 bytes) :=
    bind_eq_ok.mpr ⟨bytes, hbytes, rfl⟩
  have hlt : bytes.length < UInt32.size := hmax.trans_lt s.maximum.toNat_lt
  have hnat : (UInt32.ofNat bytes.length).toNat = bytes.length := UInt32.toNat_ofNat_of_lt' hlt
  have hvalid : validate (s := s) ⟨Crypto.sha256 bytes, UInt32.ofNat bytes.length⟩ = .ok () := by
    rw [validate, rejectIf_eq_ok, not_or, ← UInt32.toNat_inj, UInt32.lt_iff_toNat_lt, hnat]
    exact ⟨Nat.ne_of_gt hpos, Nat.not_lt.mpr hmax⟩
  exact ⟨_, bind_eq_ok.mpr ⟨_, hhash, bind_eq_ok.mpr ⟨bytes, hbytes, bind_eq_ok.mpr
    ⟨(), rejectIf_eq_ok.mpr (Nat.not_le.mpr hlt), build_eq hvalid⟩⟩⟩⟩

end SizedIdentity

/-- Content address of the immutable rule every node evaluates independently. -/
abbrev RightsPolicyIdentityV1 :=
  SizedIdentity
    ⟨"elastos.protected-content.rights-policy-identity/v1", MAX_RIGHTS_POLICY_BYTES, "policy_bytes"⟩

abbrev CustodyEpochIdentityV1 :=
  SizedIdentity
    ⟨"elastos.protected-content.custody-epoch-identity/v1", 65535, "epoch_bytes"⟩

abbrev CustodyPoolIdentityV1 :=
  SizedIdentity ⟨"elastos.protected-content.custody-pool.identity/v1", 65535, "pool_bytes"⟩

abbrev CustodyCommitteeAuthorizationIdentityV1 :=
  SizedIdentity
    ⟨"elastos.protected-content.custody-committee-authorization.identity/v1", 65535,
      "authorization_bytes"⟩

structure EncryptedContentIdentityV1 where
  ciphertextSha256 : Digest32
  ciphertextBytes : UInt64
deriving DecidableEq

namespace EncryptedContentIdentityV1

def validate (v : EncryptedContentIdentityV1) : Except ContractError Unit :=
  rejectIf (v.ciphertextBytes = 0 ∨ MAX_ENCRYPTED_CONTENT_BYTES < v.ciphertextBytes)
    (.invalidField "ciphertext_bytes")

def new (ciphertextSha256 : Digest32) (ciphertextBytes : UInt64) :
    Except ContractError EncryptedContentIdentityV1 :=
  build validate ⟨ciphertextSha256, ciphertextBytes⟩

instance : CanonicalBody EncryptedContentIdentityV1 where
  DOMAIN := "elastos.protected-content.encrypted-content/v1"
  validate := validate
  encodeFields v := do
    Encoder.fixed v.ciphertextSha256
    Encoder.u64 v.ciphertextBytes
  decodeFields := do new (← Decoder.fixed 32) (← Decoder.u64)

instance : LawfulBody EncryptedContentIdentityV1 where
  mirrors v h :=
    (mirrors_fixed v.ciphertextSha256).bind <| (mirrors_u64 v.ciphertextBytes).last (build_eq h)

end EncryptedContentIdentityV1

/-! ## 3. Recipients -/

/-- Exact recipient key selected by Runtime for one protected-content release. -/
structure RecipientKeyIdentityV1 where
  encryptionSuiteId : String
  keyId : Digest32
deriving DecidableEq

namespace RecipientKeyIdentityV1

def validate (v : RecipientKeyIdentityV1) : Except ContractError Unit :=
  validateAsciiIdentifier v.encryptionSuiteId "recipient_encryption_suite_id"
    MAX_RECIPIENT_ENCRYPTION_SUITE_ID_BYTES

def new (encryptionSuiteId : String) (keyId : Digest32) :
    Except ContractError RecipientKeyIdentityV1 :=
  build validate ⟨encryptionSuiteId, keyId⟩

def matchesPublicKey [Crypto] (v : RecipientKeyIdentityV1) (publicKeyBytes : List UInt8) : Bool :=
  Crypto.sha256 publicKeyBytes == v.keyId

instance : CanonicalBody RecipientKeyIdentityV1 where
  DOMAIN := "elastos.protected-content.recipient-key-identity/v1"
  validate := validate
  encodeFields v := do
    Encoder.string v.encryptionSuiteId
    Encoder.fixed v.keyId
  decodeFields := do
    new
      (← Decoder.string "recipient_encryption_suite_id" MAX_RECIPIENT_ENCRYPTION_SUITE_ID_BYTES)
      (← Decoder.fixed 32)

instance : LawfulBody RecipientKeyIdentityV1 where
  mirrors v h :=
    (mirrors_string (length_le_of_validateAsciiIdentifier h)).bind <|
      (mirrors_fixed v.keyId).last (build_eq h)

end RecipientKeyIdentityV1

/-! ## 4. Thresholds -/

structure ThresholdV1 where
  required : UInt8
  total : UInt8
deriving DecidableEq

namespace ThresholdV1

def validate (v : ThresholdV1) : Except ContractError Unit :=
  rejectIf (v.required < 2 ∨ v.total < v.required ∨ MAX_THRESHOLD_NODES < v.total)
    (.invalidField "threshold")

def new (required total : UInt8) : Except ContractError ThresholdV1 :=
  build validate ⟨required, total⟩

def encode (v : ThresholdV1) : Encoder Unit := do
  Encoder.u8 v.required
  Encoder.u8 v.total

def decode : Decoder ThresholdV1 := do new (← Decoder.u8) (← Decoder.u8)

theorem mirrors {v : ThresholdV1} (h : v.validate = .ok ()) : Mirrors v.encode decode v :=
  (mirrors_u8 v.required).bind <| (mirrors_u8 v.total).last (build_eq h)

theorem total_le {v : ThresholdV1} (h : v.validate = .ok ()) : v.total.toNat ≤ 16 := by
  have h' := rejectIf_eq_ok.mp h
  simp only [not_or, MAX_THRESHOLD_NODES] at h'
  exact UInt8.not_lt.mp h'.2.2

end ThresholdV1

/-! ## 5. Key envelopes and bindings -/

structure KeyEnvelopeIdentityV1 where
  encryptedContent : EncryptedContentIdentityV1
  envelopeSha256 : Digest32
  envelopeBytes : UInt32
  nodeSetId : Digest32
  threshold : ThresholdV1
  custodyPool : CustodyPoolIdentityV1
  custodyEpoch : CustodyEpochIdentityV1
  custodyCommitteeAuthorization : CustodyCommitteeAuthorizationIdentityV1
deriving DecidableEq

namespace KeyEnvelopeIdentityV1

def validate (v : KeyEnvelopeIdentityV1) : Except ContractError Unit := do
  v.encryptedContent.validate
  v.threshold.validate
  v.custodyPool.validate
  v.custodyEpoch.validate
  v.custodyCommitteeAuthorization.validate
  rejectIf (v.envelopeBytes = 0 ∨ MAX_KEY_ENVELOPE_BYTES < v.envelopeBytes)
    (.invalidField "envelope_bytes")

def new (encryptedContent : EncryptedContentIdentityV1) (envelopeSha256 : Digest32)
    (envelopeBytes : UInt32) (nodeSetId : Digest32) (threshold : ThresholdV1)
    (custodyPool : CustodyPoolIdentityV1) (custodyEpoch : CustodyEpochIdentityV1)
    (custodyCommitteeAuthorization : CustodyCommitteeAuthorizationIdentityV1) :
    Except ContractError KeyEnvelopeIdentityV1 :=
  build validate
    ⟨encryptedContent, envelopeSha256, envelopeBytes, nodeSetId, threshold, custodyPool,
      custodyEpoch, custodyCommitteeAuthorization⟩

instance : CanonicalBody KeyEnvelopeIdentityV1 where
  DOMAIN := "elastos.protected-content.key-envelope/v1"
  validate := validate
  encodeFields v := do
    Encoder.nested v.encryptedContent
    Encoder.fixed v.envelopeSha256
    Encoder.u32 v.envelopeBytes
    Encoder.fixed v.nodeSetId
    v.threshold.encode
    Encoder.nested v.custodyPool
    Encoder.nested v.custodyEpoch
    Encoder.nested v.custodyCommitteeAuthorization
  decodeFields := do
    new
      (← Decoder.nested "encrypted_content")
      (← Decoder.fixed 32)
      (← Decoder.u32)
      (← Decoder.fixed 32)
      (← ThresholdV1.decode)
      (← Decoder.nested "custody_pool")
      (← Decoder.nested "custody_epoch")
      (← Decoder.nested "custody_committee_authorization")

theorem threshold_valid {v : KeyEnvelopeIdentityV1} (h : v.validate = .ok ()) :
    v.threshold.validate = .ok () := by
  obtain ⟨⟨⟩, _, h⟩ := bind_eq_ok.mp h
  obtain ⟨⟨⟩, ht, _⟩ := bind_eq_ok.mp h
  exact ht

instance : LawfulBody KeyEnvelopeIdentityV1 where
  mirrors _ h :=
    (mirrors_nested _).bind <| (mirrors_fixed _).bind <| (mirrors_u32 _).bind <|
    (mirrors_fixed _).bind <| (ThresholdV1.mirrors (threshold_valid h)).bind <|
    (mirrors_nested _).bind <| (mirrors_nested _).bind <| (mirrors_nested _).last (build_eq h)

end KeyEnvelopeIdentityV1

variable [Curves]

structure ProtectedContentBindingV1 where
  encryptedContent : EncryptedContentIdentityV1
  keyEnvelope : KeyEnvelopeIdentityV1
  rightsPolicy : RightsPolicyIdentityV1
  profile : ProfileIdentityV1
  wallet : WalletAddress
  runtimeSessionBinding : RuntimeSessionBindingV1
deriving DecidableEq

namespace ProtectedContentBindingV1

def validate (v : ProtectedContentBindingV1) : Except ContractError Unit := do
  v.encryptedContent.validate
  v.keyEnvelope.validate
  v.rightsPolicy.validate
  v.profile.recheck
  v.runtimeSessionBinding.recheck
  rejectIf (v.keyEnvelope.encryptedContent ≠ v.encryptedContent)
    (.invalidField "key_envelope.encrypted_content")

def new (encryptedContent : EncryptedContentIdentityV1) (keyEnvelope : KeyEnvelopeIdentityV1)
    (rightsPolicy : RightsPolicyIdentityV1) (profile : ProfileIdentityV1) (wallet : WalletAddress)
    (runtimeSessionBinding : RuntimeSessionBindingV1) :
    Except ContractError ProtectedContentBindingV1 :=
  build validate
    ⟨encryptedContent, keyEnvelope, rightsPolicy, profile, wallet, runtimeSessionBinding⟩

instance : CanonicalBody ProtectedContentBindingV1 where
  DOMAIN := "elastos.protected-content.binding/v1"
  validate := validate
  encodeFields v := do
    Encoder.nested v.encryptedContent
    Encoder.nested v.keyEnvelope
    Encoder.nested v.rightsPolicy
    Encoder.nested v.profile
    Encoder.fixed v.wallet
    Encoder.fixed v.runtimeSessionBinding.value
  decodeFields := do
    new
      (← Decoder.nested "encrypted_content")
      (← Decoder.nested "key_envelope")
      (← Decoder.nested "rights_policy")
      (← Decoder.nested "profile")
      (← Decoder.fixed 20)
      (← RuntimeSessionBindingV1.new (← Decoder.fixed 32))

instance : LawfulBody ProtectedContentBindingV1 where
  mirrors v h :=
    (mirrors_nested _).bind <| (mirrors_nested _).bind <| (mirrors_nested _).bind <|
    (mirrors_nested _).bind <| (mirrors_fixed _).bind <|
    (mirrors_fixed _).checkLast v.runtimeSessionBinding.new_value (build_eq h)

end ProtectedContentBindingV1

end ElastosRuntime.Contracts
