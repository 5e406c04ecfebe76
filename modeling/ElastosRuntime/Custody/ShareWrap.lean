/-
# Wrapping a share to a key

How the custody crate seals the 32 bytes of a share to a hybrid key (`pq_hybrid.rs`,
`share_wrap.rs`), the content key that the shares make up (`secrets.rs`), and its errors
(`lib.rs`).

X-Wing, HKDF, AES-256-GCM and the random generators are third-party crates.  `XWing` and
`Aes256Gcm` name what is called of them; `LawfulXWing` and `LawfulAes256Gcm` are what they
document, and a generator is the bytes it is going to produce.
-/
import ElastosRuntime.Contracts.ReleaseChain

namespace ElastosRuntime.Custody

open Codec Contracts

/-! ## 1. Errors -/

inductive PqHybridError where
  | invalidPublicKey
  | invalidCiphertext
  | decapFailed
  | sealFailed
  | unsealFailed
deriving DecidableEq

inductive CustodyError where
  | contract (error : ContractError)
  | release (error : KeyReleaseError)
  | runtimeReleaseOperation (error : RuntimeReleaseOperationError)
  | pqHybrid (error : PqHybridError)
  | shamir
  | bindingMismatch (field : String)
  | malformedShare (field : String)
  | contentKeyCommitmentMismatch
  | invalidPayload (field : String)
  | payloadIo
  | randomnessUnavailable
deriving DecidableEq

/-! ## 2. Third-party primitives -/

/-- AES-256-GCM (`aes-gcm`): a key, a nonce, a message and its associated data. -/
class Aes256Gcm where
  encrypt : Bytes 32 → Bytes 12 → (msg aad : List UInt8) → Option (List UInt8)
  decrypt : Bytes 32 → Bytes 12 → (msg aad : List UInt8) → Option (List UInt8)

/-- The longest message and the longest associated data it takes. -/
def GCM_MAX_BYTES : Nat := 2 ^ 36

class LawfulAes256Gcm [Aes256Gcm] : Prop where
  exists_encrypt : ∀ (key : Bytes 32) (nonce : Bytes 12) (msg aad : List UInt8),
    msg.length ≤ GCM_MAX_BYTES → aad.length ≤ GCM_MAX_BYTES →
      ∃ c, Aes256Gcm.encrypt key nonce msg aad = some c
  length_encrypt : ∀ {key : Bytes 32} {nonce : Bytes 12} {msg aad c : List UInt8},
    Aes256Gcm.encrypt key nonce msg aad = some c → c.length = msg.length + 16
  decrypt_encrypt : ∀ {key : Bytes 32} {nonce : Bytes 12} {msg aad c : List UInt8},
    Aes256Gcm.encrypt key nonce msg aad = some c → Aes256Gcm.decrypt key nonce c aad = some msg

/-- X-Wing draft 06 (`x-wing`) and HKDF-SHA256 (`hkdf`), whose output of 32 bytes always exists. -/
class XWing where
  encapsulationKey : Bytes 32 → Bytes 1216
  encapsulateDeterministic : Bytes 1216 → Bytes 64 → Bytes 1120 × Bytes 32
  decapsulate : Bytes 32 → Bytes 1120 → Option (Bytes 32)
  hkdfExpand : (secret info : List UInt8) → Bytes 32

/-- The ciphertext ends with a public key of X25519, and opens under the secret key. -/
class LawfulXWing [Curves] [XWing] : Prop where
  ephemeral : ∀ (key : Bytes 1216) (randomness : Bytes 64),
    validatePqHybridWrapPublicKey key = true → validateCanonicalX25519PublicKey
      ((XWing.encapsulateDeterministic key randomness).1.drop 1088) = true
  decapsulate_encapsulate : ∀ (secret : Bytes 32) (randomness : Bytes 64),
    XWing.decapsulate secret
        (XWing.encapsulateDeterministic (XWing.encapsulationKey secret) randomness).1 =
      some (XWing.encapsulateDeterministic (XWing.encapsulationKey secret) randomness).2

/-- A random generator: what it produces, and how far it has come. -/
structure Rng where
  produces : Nat → UInt8
  drawn : Nat

/-- `fill_bytes` -/
def Rng.fillBytes (n : Nat) (rng : Rng) : Bytes n × Rng :=
  (⟨(List.range n).map fun i => rng.produces (rng.drawn + i), by simp⟩,
    { rng with drawn := rng.drawn + n })

/-- What draws random bytes and may fail. -/
abbrev Draws (α : Type) := StateT Rng (Except CustodyError) α

def drawBytes (n : Nat) : Draws (Bytes n) := fun rng => .ok (rng.fillBytes n)

/-! ## 3. Content keys -/

def CONTENT_KEY_COMMITMENT_DOMAIN_V1 : String :=
  "elastos.protected-content.content-key-commitment/v1"

structure ContentEncryptionKeyV1 where
  bytes : Bytes 32
deriving DecidableEq

namespace ContentEncryptionKeyV1

variable [Crypto]

def commitment (key : ContentEncryptionKeyV1) : Digest32 :=
  Crypto.sha256 (utf8Bytes CONTENT_KEY_COMMITMENT_DOMAIN_V1 ++ [0] ++ key.bytes.toList)

def matchesCommitment (key : ContentEncryptionKeyV1) (expected : Digest32) : Bool :=
  key.commitment == expected

end ContentEncryptionKeyV1

/-! ## 4. The hybrid envelope -/

def HKDF_DOMAIN_V1 : String := "elastos.protected-content.xwing-draft06.hkdf-sha256/v1"

structure PqSealedEnvelope where
  ciphertext : Bytes 1120
  nonce : Bytes 12
  wrappedShare : Bytes 48

namespace PqSealedEnvelope

def toBytes (v : PqSealedEnvelope) : List UInt8 :=
  v.ciphertext.toList ++ v.nonce.toList ++ v.wrappedShare.toList

def fromBytes (bytes : List UInt8) : Except PqHybridError PqSealedEnvelope :=
  if h : bytes.length = PQ_HYBRID_SEALED_SHARE_ENVELOPE_BYTES then
    .ok
      { ciphertext := ⟨bytes.take 1120, by simp [h]; decide⟩
        nonce := ⟨(bytes.drop 1120).take 12, by simp [h]; decide⟩
        wrappedShare := ⟨bytes.drop 1132, by simp [h]; decide⟩ }
  else .error .invalidCiphertext

end PqSealedEnvelope

section

variable [XWing] [Aes256Gcm]

def deriveWrapKey (sharedSecret : Bytes 32) (aad : List UInt8) : Bytes 32 :=
  XWing.hkdfExpand sharedSecret.toList
    (utf8Bytes HKDF_DOMAIN_V1 ++
      beBytes 2 (utf8Bytes CUSTODY_X_WING_AES256GCM_SUITE_ID_V1).length ++
      utf8Bytes CUSTODY_X_WING_AES256GCM_SUITE_ID_V1 ++ beBytes 4 aad.length ++ aad)

/-- `session_public_from_bytes` -/
def sessionPublicFromBytes [Curves] (bytes : Bytes 1216) : Except PqHybridError (Bytes 1216) := do
  let _ ← (NodeCustodyPublicKeyV1.new bytes).mapError fun _ => .invalidPublicKey
  failIf (¬Curves.encapsulationKeyFromSlice bytes) .invalidPublicKey
  pure bytes

def sealBound (publicKey : Bytes 1216) (share aad : List UInt8) : Draws PqSealedEnvelope := do
  let nonce ← drawBytes 12
  let randomness ← drawBytes 64
  let (ciphertext, sharedSecret) := XWing.encapsulateDeterministic publicKey randomness
  let wrapped ← liftM (okOr (Aes256Gcm.encrypt (deriveWrapKey sharedSecret aad) nonce share aad)
    (CustodyError.pqHybrid .sealFailed))
  liftM (if h : wrapped.length = 48 then .ok ⟨ciphertext, nonce, ⟨wrapped, h⟩⟩
    else .error (.pqHybrid .sealFailed) : Except CustodyError PqSealedEnvelope)

def hybridUnwrapBound (secret : Bytes 32) (envelope : PqSealedEnvelope) (aad : List UInt8) :
    Except PqHybridError (List UInt8) := do
  let sharedSecret ← okOr (XWing.decapsulate secret envelope.ciphertext) .decapFailed
  okOr (Aes256Gcm.decrypt (deriveWrapKey sharedSecret aad) envelope.nonce
    envelope.wrappedShare.toList aad) .unsealFailed

/-! ## 5. Shares -/

def boundAad (info : String) (aad : List UInt8) : List UInt8 := utf8Bytes info ++ aad

def STORED_SHARE_HPKE_INFO_V1 : String := "elastos.protected-content.stored-share/v1"

def RELEASED_SHARE_HPKE_INFO_V1 : String := "elastos.protected-content.released-share/v1"

def sealShare [Curves] (publicKeyBytes : Bytes 1216) (info : String) (aad : List UInt8)
    (plaintextShare : Bytes 32) : Draws PqHybridSealedShareV1 := do
  let publicKey ← liftM ((sessionPublicFromBytes publicKeyBytes).mapError fun _ =>
    CustodyError.bindingMismatch "pq_hybrid_kem")
  let envelope ← sealBound publicKey plaintextShare.toList (boundAad info aad)
  liftM ((PqHybridSealedShareV1.new envelope.toBytes).mapError CustodyError.contract)

def openShare (ciphertext : PqHybridSealedShareV1) (secretKeyBytes : Bytes 32) (info : String)
    (aad : List UInt8) : Except CustodyError (Bytes 32) := do
  let envelope ← (PqSealedEnvelope.fromBytes ciphertext.envelope).mapError fun _ =>
    CustodyError.malformedShare "pq_hybrid_envelope"
  let opened ← (hybridUnwrapBound secretKeyBytes envelope (boundAad info aad)).mapError .pqHybrid
  if h : opened.length = 32 then .ok ⟨opened, h⟩ else .error (.malformedShare "pq_hybrid_share_len")

/-! ## 6. What was sealed opens -/

omit [XWing] [Aes256Gcm] in
theorem PqSealedEnvelope.length_toBytes (v : PqSealedEnvelope) :
    v.toBytes.length = PQ_HYBRID_SEALED_SHARE_ENVELOPE_BYTES := by
  simp only [toBytes, List.length_append, Bytes.length_toList]
  rfl

omit [XWing] [Aes256Gcm] in
theorem PqSealedEnvelope.fromBytes_toBytes (v : PqSealedEnvelope) :
    fromBytes v.toBytes = .ok v := by
  obtain ⟨ciphertext, nonce, wrapped⟩ := v
  have h₁ : ciphertext.toList.length = 1120 := ciphertext.length_toList
  have h₂ : nonce.toList.length = 12 := nonce.length_toList
  have h₁₂ : (ciphertext.toList ++ nonce.toList).length = 1132 := by
    rw [List.length_append, h₁, h₂]
  rw [fromBytes, dif_pos (length_toBytes _)]
  congr 2 <;> apply List.Vector.eq <;> simp only [List.Vector.toList_mk, toBytes]
  · rw [List.append_assoc, List.take_left' h₁]
  · rw [List.append_assoc, List.drop_left' h₁, List.take_left' h₂]
  · rw [List.drop_left' h₁₂]

variable {key : Bytes 1216}

omit [XWing] [Aes256Gcm] in
theorem sessionPublicFromBytes_eq [Curves] (h : validatePqHybridWrapPublicKey key = true) :
    sessionPublicFromBytes key = .ok key := by
  have hslice : Curves.encapsulationKeyFromSlice key = true := (Bool.and_eq_true_iff.mp h).2
  have hnew : NodeCustodyPublicKeyV1.new key = .ok ⟨key, h⟩ := dif_pos h
  rw [sessionPublicFromBytes, hnew]
  exact bind_eq_ok.mpr ⟨_, rfl, bind_eq_ok.mpr ⟨(), failIf_eq_ok.mpr (not_not.mpr hslice), rfl⟩⟩

omit [Aes256Gcm] in
/-- An envelope whose first part was encapsulated to a key is a sealed share. -/
theorem PqSealedEnvelope.new_toBytes [Curves] [LawfulXWing]
    (h : validatePqHybridWrapPublicKey key = true) (randomness : Bytes 64) (nonce : Bytes 12)
    (wrapped : Bytes 48) :
    PqHybridSealedShareV1.new
      (PqSealedEnvelope.toBytes
        ⟨(XWing.encapsulateDeterministic key randomness).1, nonce, wrapped⟩) =
        .ok ⟨PqSealedEnvelope.toBytes
          ⟨(XWing.encapsulateDeterministic key randomness).1, nonce, wrapped⟩⟩ := by
  have hephemeral := LawfulXWing.ephemeral key randomness h
  generalize (XWing.encapsulateDeterministic key randomness).1 = ciphertext at hephemeral ⊢
  have hlen : ciphertext.toList.length = 1120 := ciphertext.length_toList
  have htail : PqHybridSealedShareV1.ephemeralKey ⟨toBytes ⟨ciphertext, nonce, wrapped⟩⟩ =
      (ciphertext.drop 1088).toList := by
    rw [PqHybridSealedShareV1.ephemeralKey, X_WING_DRAFT06_CIPHERTEXT_BYTES, toBytes,
      List.append_assoc, List.take_left' hlen, List.Vector.toList_drop]
  refine build_eq (bind_eq_ok.mpr ⟨(), rejectIf_eq_ok.mpr (not_not.mpr (length_toBytes _)), ?_⟩)
  have hlength : (PqHybridSealedShareV1.ephemeralKey
      ⟨toBytes ⟨ciphertext, nonce, wrapped⟩⟩).length = 32 := by
    rw [htail]
    exact List.Vector.toList_length (ciphertext.drop 1088)
  rw [dif_pos hlength, rejectIf_eq_ok, not_not]
  have hsame : (⟨_, hlength⟩ : Bytes 32) = ciphertext.drop 1088 := List.Vector.eq _ _ htail
  rw [hsame]
  exact hephemeral

/-- **A share is sealed to every key that passes its check**, and opens under its secret key with
what it was bound to. -/
theorem exists_sealShare [Curves] [LawfulXWing] [LawfulAes256Gcm] {info : String} {aad : List UInt8}
    (share : Bytes 32) (rng : Rng) (hkey : validatePqHybridWrapPublicKey key = true)
    (haad : (boundAad info aad).length ≤ GCM_MAX_BYTES) :
    ∃ sealed rng', (sealShare key info aad share).run rng = .ok (sealed, rng') ∧
      sealed.validate = .ok () ∧
        ∀ secret, XWing.encapsulationKey secret = key →
          openShare sealed secret info aad = .ok share := by
  let nonce := (rng.fillBytes 12).1
  let randomness := ((rng.fillBytes 12).2.fillBytes 64).1
  let wrapKey := deriveWrapKey (XWing.encapsulateDeterministic key randomness).2 (boundAad info aad)
  obtain ⟨wrapped, hwrapped⟩ := LawfulAes256Gcm.exists_encrypt wrapKey nonce share.toList
    (boundAad info aad) (by rw [share.length_toList]; decide) haad
  have hlen : wrapped.length = 48 := by
    rw [LawfulAes256Gcm.length_encrypt hwrapped, share.length_toList]
  let envelope : PqSealedEnvelope :=
    ⟨(XWing.encapsulateDeterministic key randomness).1, nonce, ⟨wrapped, hlen⟩⟩
  have hnew : PqHybridSealedShareV1.new envelope.toBytes = .ok ⟨envelope.toBytes⟩ :=
    PqSealedEnvelope.new_toBytes hkey randomness nonce ⟨wrapped, hlen⟩
  have hseal : (sealBound key share.toList (boundAad info aad)).run rng =
      .ok (envelope, ((rng.fillBytes 12).2.fillBytes 64).2) := by
    have hdone : (if h : wrapped.length = 48 then
        .ok ⟨(XWing.encapsulateDeterministic key randomness).1, nonce, ⟨wrapped, h⟩⟩
        else .error (.pqHybrid .sealFailed) : Except CustodyError PqSealedEnvelope) =
          .ok envelope := dif_pos hlen
    have hdrawn : (sealBound key share.toList (boundAad info aad)).run rng =
        ((okOr (Aes256Gcm.encrypt wrapKey nonce share.toList (boundAad info aad))
          (CustodyError.pqHybrid .sealFailed) >>= fun wrapped =>
            pure (wrapped, ((rng.fillBytes 12).2.fillBytes 64).2)) >>= fun r =>
          (liftM (if h : r.1.length = 48 then
              .ok ⟨(XWing.encapsulateDeterministic key randomness).1, nonce, ⟨r.1, h⟩⟩
            else .error (.pqHybrid .sealFailed) : Except CustodyError PqSealedEnvelope) :
              Draws PqSealedEnvelope).run r.2) := rfl
    rw [hdrawn]
    refine bind_eq_ok.mpr ⟨(wrapped, _), bind_eq_ok.mpr ⟨wrapped, okOr_eq_ok.mpr hwrapped, rfl⟩, ?_⟩
    exact bind_eq_ok.mpr ⟨envelope, hdone, rfl⟩
  refine ⟨⟨envelope.toBytes⟩, ((rng.fillBytes 12).2.fillBytes 64).2, ?_, ?_, ?_⟩
  · refine bind_eq_ok.mpr ⟨(key, rng), bind_eq_ok.mpr ⟨key, ?_, rfl⟩, ?_⟩
    · exact mapError_eq_ok.mpr (sessionPublicFromBytes_eq hkey)
    refine bind_eq_ok.mpr ⟨(envelope, _), hseal, ?_⟩
    exact bind_eq_ok.mpr ⟨_, mapError_eq_ok.mpr hnew, rfl⟩
  · obtain ⟨⟨⟩, hvalid, _⟩ := bind_eq_ok.mp hnew
    exact hvalid
  · rintro secret rfl
    have hopened : hybridUnwrapBound secret envelope (boundAad info aad) = .ok share.toList := by
      refine bind_eq_ok.mpr ⟨_, okOr_eq_ok.mpr (LawfulXWing.decapsulate_encapsulate secret _),
        okOr_eq_ok.mpr ?_⟩
      exact LawfulAes256Gcm.decrypt_encrypt hwrapped
    rw [openShare, PqSealedEnvelope.fromBytes_toBytes]
    refine bind_eq_ok.mpr ⟨envelope, rfl, bind_eq_ok.mpr ⟨share.toList, mapError_eq_ok.mpr hopened, ?_⟩⟩
    rw [dif_pos share.length_toList]
    exact congrArg Except.ok (List.Vector.eq _ _ rfl)

end

/-! ## 7. Primitives to evaluate the model with -/

/-- Sixteen bytes that no text contains, with the length of the message in them. -/
def lengthTag (n : Nat) : List UInt8 := List.replicate 8 0xff ++ beBytes 8 n

theorem length_lengthTag (n : Nat) : (lengthTag n).length = 16 := by
  rw [lengthTag, List.length_append, List.length_replicate, beBytes_length]

/-- A scheme that puts a tag before the message and encrypts nothing. -/
@[reducible] def taggingGcm : Aes256Gcm where
  encrypt := fun _ _ msg aad =>
    if msg.length ≤ GCM_MAX_BYTES ∧ aad.length ≤ GCM_MAX_BYTES then
      some (lengthTag msg.length ++ msg)
    else none
  decrypt := fun _ _ msg _ =>
    if msg.take 16 = lengthTag (msg.length - 16) then some (msg.drop 16) else none

theorem taggingGcm_lawful : @LawfulAes256Gcm taggingGcm := by
  let _ := taggingGcm
  have hencrypt : ∀ {key : Bytes 32} {nonce : Bytes 12} {msg aad c : List UInt8},
      Aes256Gcm.encrypt key nonce msg aad = some c → c = lengthTag msg.length ++ msg := by
    intro key nonce msg aad c h
    obtain ⟨_, hc⟩ := Option.ite_none_right_eq_some.mp h
    exact (Option.some.inj hc).symm
  refine ⟨fun key nonce msg aad hmsg haad => ⟨_, if_pos ⟨hmsg, haad⟩⟩, fun h => ?_, fun {key nonce msg
    aad c} h => ?_⟩
  · rw [hencrypt h, List.length_append, length_lengthTag, Nat.add_comm]
  · have hlen := length_lengthTag msg.length
    change (if c.take 16 = lengthTag (c.length - 16) then some (c.drop 16) else none) = some msg
    rw [hencrypt h, List.take_left' hlen, List.drop_left' hlen, List.length_append, hlen,
      Nat.add_sub_cancel_left, if_pos rfl]

/-- An encapsulation that always agrees on zeros. -/
@[reducible] def zeroXWing : XWing where
  encapsulationKey := fun _ => seedWrapBytes 0
  encapsulateDeterministic := fun _ _ => (Bytes.zero 1120, Bytes.zero 32)
  decapsulate := fun _ _ => some (Bytes.zero 32)
  hkdfExpand := fun _ _ => Bytes.zero 32

theorem zeroXWing_lawful : @LawfulXWing acceptingCurves zeroXWing := by
  let _ := acceptingCurves
  let _ := zeroXWing
  refine ⟨fun _ _ _ => ?_, fun _ _ => rfl⟩
  have hzero : (Bytes.zero 1120).drop 1088 = Bytes.zero 32 := by
    apply List.Vector.eq
    rw [List.Vector.toList_drop]
    exact List.drop_replicate
  change validateCanonicalX25519PublicKey ((Bytes.zero 1120).drop 1088) = true
  rw [hzero]
  exact validateCanonicalX25519PublicKey_zero

end ElastosRuntime.Custody
