/-
# Keys, addresses and identifiers that passed their check

The byte strings the contracts carry as authorities are newtypes whose only constructor checks
them: an Ed25519 key is canonical and not weak, a wrap key is a canonical hybrid key, an
identifier is not zero.  `Checked` is that pattern, the check being part of the type, so a value
that exists has passed.

The curve arithmetic itself belongs to third-party crates and enters as `Curves`; the byte
comparisons the contracts add to it (`le_bytes_ge`) are the source's own.
-/
import ElastosRuntime.Contracts.Canonical

namespace ElastosRuntime.Contracts

open Codec

/-! ## 1. Values that carry their check -/

/-- A value that passed the check of its constructor, which names `field` when it fails. -/
structure Checked {α : Type} (ok : α → Bool) (field : String) where
  value : α
  valid : ok value = true
deriving DecidableEq

namespace Checked

variable {α : Type} {ok : α → Bool} {field : String}

def new (value : α) : Except ContractError (Checked ok field) :=
  if h : ok value = true then .ok ⟨value, h⟩ else .error (.invalidField field)

/-- `Self::new(*value.as_bytes())?`, as the records check the keys they hold once more. -/
def recheck (k : Checked ok field) : Except ContractError Unit :=
  (new k.value : Except ContractError (Checked ok field)).map fun _ => ()

theorem new_value (k : Checked ok field) : new k.value = .ok k := dif_pos k.valid

theorem value_of_new {value : α} {k : Checked ok field} (h : new value = .ok k) :
    k.value = value := by
  unfold new at h
  split at h
  · cases h
    rfl
  · cases h

/-- A key that exists passes its check again. -/
theorem recheck_eq (k : Checked ok field) : k.recheck = .ok () := by
  rw [recheck, new_value]
  rfl

end Checked

/-! ## 2. What the curve libraries decide -/

/-- Edwards points and their encodings (`curve25519-dalek`, `ed25519-dalek`), the low-order
points of X25519, and the hybrid encapsulation keys (`x-wing`). -/
class Curves where
  EdwardsPoint : Type
  decompress : Bytes 32 → Option EdwardsPoint
  compress : EdwardsPoint → Bytes 32
  isSmallOrder : EdwardsPoint → Bool
  isTorsionFree : EdwardsPoint → Bool
  verifyingKeyFromBytes : Bytes 32 → Bool
  isX25519LowOrderPoint : Bytes 32 → Bool
  encapsulationKeyFromSlice : Bytes 1216 → Bool

/-- Libraries to evaluate the model with: every byte string is a key. -/
@[reducible] def acceptingCurves : Curves where
  EdwardsPoint := Bytes 32
  decompress := some
  compress := id
  isSmallOrder := fun _ => false
  isTorsionFree := fun _ => true
  verifyingKeyFromBytes := fun _ => true
  isX25519LowOrderPoint := fun _ => false
  encapsulationKeyFromSlice := fun _ => true

section

variable [Curves]

open Curves

/-- `validate_canonical_ed25519_verifying_key_bytes`, without its cache of keys already seen to
pass. -/
def validateCanonicalEd25519 (bytes : Bytes 32) : Bool :=
  match decompress bytes with
  | none => false
  | some point =>
    compress point == bytes && !isSmallOrder point && isTorsionFree point &&
      verifyingKeyFromBytes bytes

/-- Compare from the first byte on that differs; equal strings count as at least. -/
def beBytesGe : List UInt8 → List UInt8 → Bool
  | a :: as, b :: bs => if a ≠ b then decide (b < a) else beBytesGe as bs
  | _, _ => true

def leBytesGe (lhs rhs : Bytes 32) : Bool := beBytesGe lhs.toList.reverse rhs.toList.reverse

/-- 2²⁵⁵ − 19, least significant byte first. -/
def X25519_MODULUS : Bytes 32 :=
  ⟨0xed :: (List.replicate 30 0xff ++ [0x7f]), rfl⟩

/-- One canonical encoding only, and no point of low order. -/
def validateCanonicalX25519PublicKey (bytes : Bytes 32) : Bool :=
  !((bytes.get 31) &&& 0x80 != 0 || leBytesGe bytes X25519_MODULUS) && !isX25519LowOrderPoint bytes

def PQ_HYBRID_ML_KEM_768_EK_BYTES : Nat := 1184

/-- The X25519 half is canonical, the ML-KEM half is not all zero, and the whole is a key. -/
def validatePqHybridWrapPublicKey (bytes : Bytes 1216) : Bool :=
  validateCanonicalX25519PublicKey (bytes.drop PQ_HYBRID_ML_KEM_768_EK_BYTES) &&
    !(bytes.toList.take PQ_HYBRID_ML_KEM_768_EK_BYTES).all (· == 0) &&
    encapsulationKeyFromSlice bytes

/-! ## 3. The newtypes -/

abbrev Digest32 := Bytes 32

abbrev WalletAddress := Bytes 20

abbrev ReplayNonce16 := Bytes 16

/-- `validate_ed25519_public_key` under the name of one field. -/
abbrev Ed25519Key (field : String) := Checked validateCanonicalEd25519 field

abbrev ProfileIdentityV1 := Ed25519Key "profile_public_key"
abbrev NodePublicKey := Ed25519Key "node_public_key"
abbrev CustodyEpochIssuerKeyV1 := Ed25519Key "custody_epoch_issuer"
abbrev RightsReceiptIssuerKey := Ed25519Key "rights_receipt_issuer"
abbrev TerminalReceiptIssuerKey := Ed25519Key "terminal_receipt_issuer"
abbrev RuntimeOperationIssuerKeyV1 := Ed25519Key "runtime_operation_issuer"

abbrev ProfileIdentityV1.fromPublicKeyBytes :
    Bytes 32 → Except ContractError ProfileIdentityV1 := Checked.new
abbrev NodePublicKey.new : Bytes 32 → Except ContractError NodePublicKey := Checked.new
abbrev CustodyEpochIssuerKeyV1.new :
    Bytes 32 → Except ContractError CustodyEpochIssuerKeyV1 := Checked.new
abbrev RightsReceiptIssuerKey.new :
    Bytes 32 → Except ContractError RightsReceiptIssuerKey := Checked.new
abbrev TerminalReceiptIssuerKey.new :
    Bytes 32 → Except ContractError TerminalReceiptIssuerKey := Checked.new
abbrev RuntimeOperationIssuerKeyV1.new :
    Bytes 32 → Except ContractError RuntimeOperationIssuerKeyV1 := Checked.new

/-- `validate_pq_hybrid_wrap_public_key` under the name of one field. -/
abbrev WrapKey (field : String) := Checked validatePqHybridWrapPublicKey field

abbrev NodeCustodyPublicKeyV1 := WrapKey "node_custody_public_key"
abbrev RecipientPublicKeyBytesV1 := WrapKey "recipient_public_key"

abbrev NodeCustodyPublicKeyV1.new :
    Bytes 1216 → Except ContractError NodeCustodyPublicKeyV1 := Checked.new
abbrev RecipientPublicKeyBytesV1.new :
    Bytes 1216 → Except ContractError RecipientPublicKeyBytesV1 := Checked.new

/-- Anything but zero bytes. -/
abbrev Nonzero (n : Nat) (field : String) := Checked (fun b : Bytes n => b != Bytes.zero n) field

abbrev RuntimeSessionBindingV1 := Nonzero 32 "runtime_session_binding"
abbrev RuntimeReleaseAuditIdV1 := Nonzero 32 "runtime_release_audit_id"
abbrev RuntimeCustodyProvisioningIdV1 := Nonzero 32 "runtime_custody_provisioning_id"
abbrev ContentAccessIdV1 := Nonzero 16 "content_access_id"
abbrev EvmContractAddressV1 := Nonzero 20 "evm_contract_address"
abbrev EvmFunctionSelectorV1 := Nonzero 4 "evm_function_selector"

abbrev RuntimeSessionBindingV1.new :
    Digest32 → Except ContractError RuntimeSessionBindingV1 := Checked.new
abbrev RuntimeReleaseAuditIdV1.new :
    Digest32 → Except ContractError RuntimeReleaseAuditIdV1 := Checked.new
abbrev RuntimeCustodyProvisioningIdV1.new :
    Digest32 → Except ContractError RuntimeCustodyProvisioningIdV1 := Checked.new
abbrev ContentAccessIdV1.new : Bytes 16 → Except ContractError ContentAccessIdV1 := Checked.new
abbrev EvmContractAddressV1.new :
    Bytes 20 → Except ContractError EvmContractAddressV1 := Checked.new
abbrev EvmFunctionSelectorV1.new :
    Bytes 4 → Except ContractError EvmFunctionSelectorV1 := Checked.new

abbrev ShareCoordinateV1 := Checked (fun b : UInt8 => b != 0) "share_coordinate"

abbrev ShareCoordinateV1.new : UInt8 → Except ContractError ShareCoordinateV1 := Checked.new

end

/-! ## 4. Keys to evaluate the model with -/

section

attribute [local instance] acceptingCurves

/-- Under the accepting libraries any 32 bytes are a signing key. -/
theorem validateCanonicalEd25519_accepting (b : Bytes 32) : validateCanonicalEd25519 b = true := by
  have h : validateCanonicalEd25519 b = (b == b && !false && true && true) := rfl
  rw [h, beq_self_eq_true]
  rfl

/-- The signing key that starts with a byte. -/
def seedKey (field : String) (seed : UInt8) : Ed25519Key field :=
  ⟨⟨seed :: List.replicate 31 0, rfl⟩, validateCanonicalEd25519_accepting _⟩

/-- The bytes of a wrap key that starts with one and another byte. -/
def seedWrapBytes (seed : UInt8) : Bytes 1216 :=
  ⟨(1 :: seed :: List.replicate 1182 0) ++ List.replicate 32 0, by
    rw [List.length_append, List.length_cons, List.length_cons, List.length_replicate,
      List.length_replicate]⟩

theorem validateCanonicalX25519PublicKey_zero :
    validateCanonicalX25519PublicKey (Bytes.zero 32) = true := by decide +kernel

theorem validatePqHybridWrapPublicKey_seedWrapBytes (seed : UInt8) :
    validatePqHybridWrapPublicKey (seedWrapBytes seed) = true := by
  have hlen : (1 :: seed :: List.replicate 1182 (0 : UInt8)).length =
      PQ_HYBRID_ML_KEM_768_EK_BYTES := by
    rw [List.length_cons, List.length_cons, List.length_replicate, PQ_HYBRID_ML_KEM_768_EK_BYTES]
  have hcurve : (seedWrapBytes seed).drop PQ_HYBRID_ML_KEM_768_EK_BYTES = Bytes.zero 32 := by
    apply List.Vector.eq
    rw [List.Vector.toList_drop, seedWrapBytes, List.Vector.toList_mk, List.drop_left' hlen]
    rfl
  have hall : ((seedWrapBytes seed).toList.take PQ_HYBRID_ML_KEM_768_EK_BYTES).all (· == 0) =
      false := rfl
  rw [validatePqHybridWrapPublicKey, hcurve, hall, validateCanonicalX25519PublicKey_zero]
  rfl

/-- The wrap key of these bytes. -/
def seedWrapKey (field : String) (seed : UInt8) : WrapKey field :=
  ⟨seedWrapBytes seed, validatePqHybridWrapPublicKey_seedWrapBytes seed⟩

end

end ElastosRuntime.Contracts
