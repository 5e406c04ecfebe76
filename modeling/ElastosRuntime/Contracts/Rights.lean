/-
# Rights requests, policies and receipts

What a wallet asks for and signs (`rights.rs`), the rule a node evaluates and the evidence it
evaluates it on (`policy.rs`), the receipt it leaves for audit (`rights_receipt.rs`), and the
Profile's authorization of the recipient key (`recipient_authorization.rs`).
-/
import ElastosRuntime.Contracts.Identity
import ElastosRuntime.Contracts.Signed

namespace ElastosRuntime.Contracts

open Codec

def MAX_RIGHTS_REQUEST_LIFETIME_SECS : UInt64 := 5 * 60
def MAX_RIGHTS_EVIDENCE_LIFETIME_SECS : UInt64 := 30
def MAX_RIGHTS_RECEIPT_LIFETIME_SECS : UInt64 := 5 * 60
def MAX_RECIPIENT_KEY_AUTHORIZATION_LIFETIME_SECS : UInt64 := 5 * 60
def WALLET_SIGNATURE_BYTES : Nat := 65

/-! ## 1. Enumerations

Each is one byte on the wire, and its reader names the field in which it finds another. -/

inductive RightsActionV1 where
  | view
  | stream
  | download
  | execute
deriving DecidableEq

namespace RightsActionV1

def toByte : RightsActionV1 → UInt8
  | view => 1
  | stream => 2
  | download => 3
  | execute => 4

def decode (value : UInt8) : Except ContractError RightsActionV1 :=
  match value with
  | 1 => .ok view
  | 2 => .ok stream
  | 3 => .ok download
  | 4 => .ok execute
  | _ => .error (.invalidField "rights_action")

theorem decode_toByte (action : RightsActionV1) : decode action.toByte = .ok action := by
  cases action <;> rfl

end RightsActionV1

inductive RightsDecisionV1 where
  | denied
  | allowed
deriving DecidableEq

namespace RightsDecisionV1

def toByte : RightsDecisionV1 → UInt8
  | denied => 0
  | allowed => 1

def decode (value : UInt8) : Except ContractError RightsDecisionV1 :=
  match value with
  | 0 => .ok denied
  | 1 => .ok allowed
  | _ => .error (.invalidField "rights_decision")

theorem decode_toByte (decision : RightsDecisionV1) : decode decision.toByte = .ok decision := by
  cases decision <;> rfl

end RightsDecisionV1

inductive EvmRightsMethodAbiV1 where
  | hasAccessByContentIdAddressBytes16

namespace EvmRightsMethodAbiV1

def toByte : EvmRightsMethodAbiV1 → UInt8
  | hasAccessByContentIdAddressBytes16 => 1

def decode (value : UInt8) : Except ContractError EvmRightsMethodAbiV1 :=
  match value with
  | 1 => .ok hasAccessByContentIdAddressBytes16
  | _ => .error (.invalidField "evm_rights_method_abi")

theorem decode_toByte (abi : EvmRightsMethodAbiV1) : decode abi.toByte = .ok abi := rfl

end EvmRightsMethodAbiV1

inductive RightsSubjectSourceV1 where
  | walletAddress

namespace RightsSubjectSourceV1

def toByte : RightsSubjectSourceV1 → UInt8
  | walletAddress => 1

def decode (value : UInt8) : Except ContractError RightsSubjectSourceV1 :=
  match value with
  | 1 => .ok walletAddress
  | _ => .error (.invalidField "rights_subject_source")

theorem decode_toByte (source : RightsSubjectSourceV1) : decode source.toByte = .ok source := rfl

end RightsSubjectSourceV1

inductive RightsObservationFinalityV1 where
  | finalized

namespace RightsObservationFinalityV1

def toByte : RightsObservationFinalityV1 → UInt8
  | finalized => 1

def decode (value : UInt8) : Except ContractError RightsObservationFinalityV1 :=
  match value with
  | 1 => .ok finalized
  | _ => .error (.invalidField "rights_observation_finality")

theorem decode_toByte (finality : RightsObservationFinalityV1) :
    decode finality.toByte = .ok finality := rfl

instance : CanonicalBody RightsObservationFinalityV1 where
  DOMAIN := "elastos.protected-content.rights-observation-finality/v1"
  validate _ := pure ()
  encodeFields v := Encoder.u8 v.toByte
  decodeFields := do decode (← Decoder.u8)

instance : LawfulBody RightsObservationFinalityV1 where
  mirrors v _ := (mirrors_u8 _).last v.decode_toByte

end RightsObservationFinalityV1

/-- `u8::from(bool)` -/
def boolByte (b : Bool) : UInt8 := if b then 1 else 0

def decodeBool (field : String) (value : UInt8) : Except ContractError Bool :=
  match value with
  | 0 => .ok false
  | 1 => .ok true
  | _ => .error (.invalidField field)

theorem decodeBool_boolByte (field : String) (b : Bool) :
    decodeBool field (boolByte b) = .ok b := by
  cases b <;> rfl

/-! ## 2. Policies -/

instance : CanonicalBody ContentAccessIdV1 :=
  .newtype "elastos.protected-content.content-access-id/v1"

instance : LawfulBody ContentAccessIdV1 := lawful_newtype

structure RightsPolicyBodyV1 where
  encryptedContent : EncryptedContentIdentityV1
  contentAccessId : ContentAccessIdV1
  requiredAction : RightsActionV1
  subjectSource : RightsSubjectSourceV1
  chainId : UInt64
  contractAddress : EvmContractAddressV1
  functionSelector : EvmFunctionSelectorV1
  methodAbi : EvmRightsMethodAbiV1
  observationFinality : RightsObservationFinalityV1

namespace RightsPolicyBodyV1

def validate (v : RightsPolicyBodyV1) : Except ContractError Unit := do
  requireCanonical v.encryptedContent
  v.contentAccessId.recheck
  rejectIf (v.chainId = 0) (.invalidField "chain_id")
  v.contractAddress.recheck
  v.functionSelector.recheck
  requireCanonical v.observationFinality

def new (encryptedContent : EncryptedContentIdentityV1) (contentAccessId : ContentAccessIdV1)
    (requiredAction : RightsActionV1) (subjectSource : RightsSubjectSourceV1) (chainId : UInt64)
    (contractAddress : EvmContractAddressV1) (functionSelector : EvmFunctionSelectorV1)
    (methodAbi : EvmRightsMethodAbiV1) (observationFinality : RightsObservationFinalityV1) :
    Except ContractError RightsPolicyBodyV1 :=
  build validate
    ⟨encryptedContent, contentAccessId, requiredAction, subjectSource, chainId, contractAddress,
      functionSelector, methodAbi, observationFinality⟩

instance : CanonicalBody RightsPolicyBodyV1 where
  DOMAIN := "elastos.protected-content.rights-policy-body/v1"
  validate := validate
  encodeFields v := do
    Encoder.nested v.encryptedContent
    Encoder.fixed v.contentAccessId.value
    Encoder.u8 v.requiredAction.toByte
    Encoder.u8 v.subjectSource.toByte
    Encoder.u64 v.chainId
    Encoder.fixed v.contractAddress.value
    Encoder.fixed v.functionSelector.value
    Encoder.u8 v.methodAbi.toByte
    Encoder.nested v.observationFinality
  decodeFields := do
    new
      (← Decoder.nested "encrypted_content")
      (← ContentAccessIdV1.new (← Decoder.fixed 16))
      (← RightsActionV1.decode (← Decoder.u8))
      (← RightsSubjectSourceV1.decode (← Decoder.u8))
      (← Decoder.u64)
      (← EvmContractAddressV1.new (← Decoder.fixed 20))
      (← EvmFunctionSelectorV1.new (← Decoder.fixed 4))
      (← EvmRightsMethodAbiV1.decode (← Decoder.u8))
      (← Decoder.nested "observation_finality")

instance : LawfulBody RightsPolicyBodyV1 where
  mirrors v h :=
    (mirrors_nested _).bind <| (mirrors_fixed _).check v.contentAccessId.new_value <|
    (mirrors_u8 _).check v.requiredAction.decode_toByte <|
    (mirrors_u8 _).check v.subjectSource.decode_toByte <| (mirrors_u64 _).bind <|
    (mirrors_fixed _).check v.contractAddress.new_value <|
    (mirrors_fixed _).check v.functionSelector.new_value <|
    (mirrors_u8 _).check v.methodAbi.decode_toByte <| (mirrors_nested _).last (build_eq h)

/-- The content address of the policy. -/
def policyIdentity [Crypto] (v : RightsPolicyBodyV1) :
    Except ContractError RightsPolicyIdentityV1 := do
  let policySha256 ← canonicalHash v
  let bytes ← canonicalBytes v
  rejectIf (UInt32.size ≤ bytes.length) (.invalidField "policy_bytes")
  SizedIdentity.new policySha256 (UInt32.ofNat bytes.length)

end RightsPolicyBodyV1

/-! ## 3. Requests -/

variable [Curves]

structure RightsAuthorityScopeV1 where
  binding : ProtectedContentBindingV1
  action : RightsActionV1
  recipient : RecipientKeyIdentityV1

instance : CanonicalBody RightsAuthorityScopeV1 where
  DOMAIN := "elastos.protected-content.rights-authority-scope/v1"
  validate v := do
    requireCanonical v.binding
    requireCanonical v.recipient
  encodeFields v := do
    Encoder.nested v.binding
    Encoder.u8 v.action.toByte
    Encoder.nested v.recipient
  decodeFields := do
    let binding ← Decoder.nested "binding"
    let action ← RightsActionV1.decode (← Decoder.u8)
    let recipient ← Decoder.nested "recipient"
    pure ⟨binding, action, recipient⟩

instance : LawfulBody RightsAuthorityScopeV1 where
  mirrors v _ :=
    (mirrors_nested _).bind <| (mirrors_u8 _).check v.action.decode_toByte <|
    (mirrors_nested _).map (RightsAuthorityScopeV1.mk v.binding v.action)

structure RightsRequestV1 where
  binding : ProtectedContentBindingV1
  action : RightsActionV1
  recipient : RecipientKeyIdentityV1
  issuedAt : UInt64
  expiresAt : UInt64
  replayNonce : ReplayNonce16
deriving DecidableEq

namespace RightsRequestV1

def validate (v : RightsRequestV1) : Except ContractError Unit := do
  requireCanonical v.binding
  requireCanonical v.recipient
  validateTimeWindow v.issuedAt v.expiresAt MAX_RIGHTS_REQUEST_LIFETIME_SECS
    "rights_request_lifetime"

def new (binding : ProtectedContentBindingV1) (action : RightsActionV1)
    (recipient : RecipientKeyIdentityV1) (issuedAt expiresAt : UInt64)
    (replayNonce : ReplayNonce16) : Except ContractError RightsRequestV1 :=
  build validate ⟨binding, action, recipient, issuedAt, expiresAt, replayNonce⟩

instance : CanonicalBody RightsRequestV1 where
  DOMAIN := "elastos.protected-content.rights-request/v1"
  validate := validate
  encodeFields v := do
    Encoder.nested v.binding
    Encoder.u8 v.action.toByte
    Encoder.nested v.recipient
    Encoder.u64 v.issuedAt
    Encoder.u64 v.expiresAt
    Encoder.fixed v.replayNonce
  decodeFields := do
    let binding ← Decoder.nested "binding"
    let action ← RightsActionV1.decode (← Decoder.u8)
    new
      binding
      action
      (← Decoder.nested "recipient")
      (← Decoder.u64)
      (← Decoder.u64)
      (← Decoder.fixed 16)

instance : LawfulBody RightsRequestV1 where
  mirrors v h :=
    (mirrors_nested _).bind <| (mirrors_u8 _).check v.action.decode_toByte <|
    (mirrors_nested _).bind <| (mirrors_u64 _).bind <| (mirrors_u64 _).bind <|
    (mirrors_fixed _).last (build_eq h)

def requestHash [Crypto] (v : RightsRequestV1) : Except ContractError Digest32 := canonicalHash v

end RightsRequestV1

/-- A wallet's signature carries its recovery id in a last byte, so this document is not an
instance of `Signed`. -/
structure WalletSignedRightsRequestV1 where
  request : RightsRequestV1
  walletSignature : List UInt8
deriving DecidableEq

namespace WalletSignedRightsRequestV1

def validate (v : WalletSignedRightsRequestV1) : Except ContractError Unit := do
  requireCanonical v.request
  rejectIf
    (v.walletSignature.length ≠ WALLET_SIGNATURE_BYTES ∨
      ¬(v.walletSignature[64]? = some 0 ∨ v.walletSignature[64]? = some 1))
    (.invalidField "wallet_signature")

def new (request : RightsRequestV1) (walletSignature : List UInt8) :
    Except ContractError WalletSignedRightsRequestV1 :=
  build validate ⟨request, walletSignature⟩

instance : CanonicalBody WalletSignedRightsRequestV1 where
  DOMAIN := "elastos.protected-content.wallet-signed-rights-request/v1"
  validate := validate
  encodeFields v := do
    Encoder.nested v.request
    Encoder.bytes v.walletSignature
  decodeFields := do
    new
      (← Decoder.nested "request")
      (← Decoder.bytes "wallet_signature" WALLET_SIGNATURE_BYTES)

instance : LawfulBody WalletSignedRightsRequestV1 where
  mirrors v h := by
    obtain ⟨⟨⟩, _, hsig⟩ := bind_eq_ok.mp h
    rw [rejectIf_eq_ok, not_or, not_not] at hsig
    exact (mirrors_nested _).bind <| (mirrors_bytes fun _ => hsig.1.le).last (build_eq h)

end WalletSignedRightsRequestV1

/-! ## 4. Evidence -/

structure RightsEvaluationEvidenceRequestV1 where
  binding : ProtectedContentBindingV1
  policyIdentity : RightsPolicyIdentityV1

namespace RightsEvaluationEvidenceRequestV1

def validate (v : RightsEvaluationEvidenceRequestV1) : Except ContractError Unit := do
  requireCanonical v.binding
  requireCanonical v.policyIdentity
  rejectIf (v.binding.rightsPolicy ≠ v.policyIdentity) (.invalidField "evidence_request.binding")

def new (binding : ProtectedContentBindingV1) (policyIdentity : RightsPolicyIdentityV1) :
    Except ContractError RightsEvaluationEvidenceRequestV1 :=
  build validate ⟨binding, policyIdentity⟩

instance : CanonicalBody RightsEvaluationEvidenceRequestV1 where
  DOMAIN := "elastos.protected-content.rights-evaluation-evidence-request/v1"
  validate := validate
  encodeFields v := do
    Encoder.nested v.binding
    Encoder.nested v.policyIdentity
  decodeFields := do new (← Decoder.nested "binding") (← Decoder.nested "policy_identity")

instance : LawfulBody RightsEvaluationEvidenceRequestV1 where
  mirrors _ h := (mirrors_nested _).bind <| (mirrors_nested _).last (build_eq h)

def validateAgainstPolicy [Crypto] (v : RightsEvaluationEvidenceRequestV1)
    (policy : RightsPolicyBodyV1) : Except ContractError Unit := do
  let policyIdentity ← policy.policyIdentity
  rejectIf (v.policyIdentity ≠ policyIdentity) (.invalidField "evidence_request.policy_identity")
  rejectIf (v.binding.rightsPolicy ≠ v.policyIdentity) (.invalidField "evidence_request.binding")

end RightsEvaluationEvidenceRequestV1

structure RightsEvaluationEvidenceV1 where
  runtimeOperationHash : Digest32
  releaseRequestHash : Digest32
  binding : ProtectedContentBindingV1
  policyIdentity : RightsPolicyIdentityV1
  subjectWallet : WalletAddress
  observedChainId : UInt64
  finalizedBlockNumber : UInt64
  finalizedBlockHash : Digest32
  hasAccess : Bool
  acquiredAt : UInt64
  expiresAt : UInt64

namespace RightsEvaluationEvidenceV1

def validate (v : RightsEvaluationEvidenceV1) : Except ContractError Unit := do
  requireCanonical v.binding
  requireCanonical v.policyIdentity
  validateTimeWindow v.acquiredAt v.expiresAt MAX_RIGHTS_EVIDENCE_LIFETIME_SECS
    "rights_evaluation_evidence_lifetime"
  rejectIf (v.binding.rightsPolicy ≠ v.policyIdentity) (.invalidField "evidence.binding")
  rejectIf (v.subjectWallet ≠ v.binding.wallet) (.invalidField "evidence.subject_wallet")
  rejectIf (v.observedChainId = 0) (.invalidField "evidence.observed_chain_id")
  rejectIf (v.finalizedBlockHash = Bytes.zero 32) (.invalidField "evidence.finalized_block_hash")

def new (runtimeOperationHash releaseRequestHash : Digest32) (binding : ProtectedContentBindingV1)
    (policyIdentity : RightsPolicyIdentityV1) (subjectWallet : WalletAddress)
    (observedChainId finalizedBlockNumber : UInt64) (finalizedBlockHash : Digest32)
    (hasAccess : Bool) (acquiredAt expiresAt : UInt64) :
    Except ContractError RightsEvaluationEvidenceV1 :=
  build validate
    ⟨runtimeOperationHash, releaseRequestHash, binding, policyIdentity, subjectWallet,
      observedChainId, finalizedBlockNumber, finalizedBlockHash, hasAccess, acquiredAt, expiresAt⟩

instance : CanonicalBody RightsEvaluationEvidenceV1 where
  DOMAIN := "elastos.protected-content.rights-evaluation-evidence/v1"
  validate := validate
  encodeFields v := do
    Encoder.fixed v.runtimeOperationHash
    Encoder.fixed v.releaseRequestHash
    Encoder.nested v.binding
    Encoder.nested v.policyIdentity
    Encoder.fixed v.subjectWallet
    Encoder.u64 v.observedChainId
    Encoder.u64 v.finalizedBlockNumber
    Encoder.fixed v.finalizedBlockHash
    Encoder.u8 (boolByte v.hasAccess)
    Encoder.u64 v.acquiredAt
    Encoder.u64 v.expiresAt
  decodeFields := do
    new
      (← Decoder.fixed 32)
      (← Decoder.fixed 32)
      (← Decoder.nested "binding")
      (← Decoder.nested "policy_identity")
      (← Decoder.fixed 20)
      (← Decoder.u64)
      (← Decoder.u64)
      (← Decoder.fixed 32)
      (← decodeBool "has_access" (← Decoder.u8))
      (← Decoder.u64)
      (← Decoder.u64)

instance : LawfulBody RightsEvaluationEvidenceV1 where
  mirrors v h :=
    (mirrors_fixed _).bind <| (mirrors_fixed _).bind <| (mirrors_nested _).bind <|
    (mirrors_nested _).bind <| (mirrors_fixed _).bind <| (mirrors_u64 _).bind <|
    (mirrors_u64 _).bind <| (mirrors_fixed _).bind <|
    (mirrors_u8 _).check (decodeBool_boolByte _ v.hasAccess) <| (mirrors_u64 _).bind <|
    (mirrors_u64 _).last (build_eq h)

end RightsEvaluationEvidenceV1

/-! ## 5. Receipts -/

/-- Signed preliminary evidence for Runtime audit. -/
structure RightsReceiptStatementV1 where
  requestHash : Digest32
  binding : ProtectedContentBindingV1
  action : RightsActionV1
  issuer : RightsReceiptIssuerKey
  decision : RightsDecisionV1
  evidenceHash : Digest32
  issuedAt : UInt64
  expiresAt : UInt64

namespace RightsReceiptStatementV1

def validate (v : RightsReceiptStatementV1) : Except ContractError Unit := do
  requireCanonical v.binding
  v.issuer.recheck
  validateTimeWindow v.issuedAt v.expiresAt MAX_RIGHTS_RECEIPT_LIFETIME_SECS
    "rights_receipt_lifetime"

def new (requestHash : Digest32) (binding : ProtectedContentBindingV1) (action : RightsActionV1)
    (issuer : RightsReceiptIssuerKey) (decision : RightsDecisionV1) (evidenceHash : Digest32)
    (issuedAt expiresAt : UInt64) : Except ContractError RightsReceiptStatementV1 :=
  build validate
    ⟨requestHash, binding, action, issuer, decision, evidenceHash, issuedAt, expiresAt⟩

instance : CanonicalBody RightsReceiptStatementV1 where
  DOMAIN := "elastos.protected-content.rights-receipt-statement/v1"
  validate := validate
  encodeFields v := do
    Encoder.fixed v.requestHash
    Encoder.nested v.binding
    Encoder.u8 v.action.toByte
    Encoder.fixed v.issuer.value
    Encoder.u8 v.decision.toByte
    Encoder.fixed v.evidenceHash
    Encoder.u64 v.issuedAt
    Encoder.u64 v.expiresAt
  decodeFields := do
    new
      (← Decoder.fixed 32)
      (← Decoder.nested "binding")
      (← RightsActionV1.decode (← Decoder.u8))
      (← RightsReceiptIssuerKey.new (← Decoder.fixed 32))
      (← RightsDecisionV1.decode (← Decoder.u8))
      (← Decoder.fixed 32)
      (← Decoder.u64)
      (← Decoder.u64)

instance : LawfulBody RightsReceiptStatementV1 where
  mirrors v h :=
    (mirrors_fixed _).bind <| (mirrors_nested _).bind <|
    (mirrors_u8 _).check v.action.decode_toByte <| (mirrors_fixed _).check v.issuer.new_value <|
    (mirrors_u8 _).check v.decision.decode_toByte <| (mirrors_fixed _).bind <|
    (mirrors_u64 _).bind <| (mirrors_u64 _).last (build_eq h)

end RightsReceiptStatementV1

abbrev SignedRightsReceiptV1 :=
  Signed RightsReceiptStatementV1
    ⟨"elastos.protected-content.signed-rights-receipt/v1", "rights_receipt_statement",
      "rights_receipt_signature", "rights_receipt_signature"⟩

/-! ## 6. Authorizations of recipient keys -/

structure RecipientKeyAuthorizationStatementV1 where
  binding : ProtectedContentBindingV1
  action : RightsActionV1
  recipientPublicKey : RecipientPublicKeyBytesV1
  recipientIdentity : RecipientKeyIdentityV1
  runtimeOperationIssuer : RuntimeOperationIssuerKeyV1
  issuedAt : UInt64
  expiresAt : UInt64

namespace RecipientKeyAuthorizationStatementV1

def validate [Crypto] (v : RecipientKeyAuthorizationStatementV1) : Except ContractError Unit := do
  requireCanonical v.binding
  requireCanonical v.recipientIdentity
  v.recipientPublicKey.recheck
  v.runtimeOperationIssuer.recheck
  validateTimeWindow v.issuedAt v.expiresAt MAX_RECIPIENT_KEY_AUTHORIZATION_LIFETIME_SECS
    "recipient_key_authorization_lifetime"
  rejectIf (¬v.recipientIdentity.matchesPublicKey v.recipientPublicKey.value.toList)
    (.invalidField "recipient_key_identity")

def new [Crypto] (binding : ProtectedContentBindingV1) (action : RightsActionV1)
    (recipientPublicKey : RecipientPublicKeyBytesV1) (recipientIdentity : RecipientKeyIdentityV1)
    (runtimeOperationIssuer : RuntimeOperationIssuerKeyV1) (issuedAt expiresAt : UInt64) :
    Except ContractError RecipientKeyAuthorizationStatementV1 :=
  build validate
    ⟨binding, action, recipientPublicKey, recipientIdentity, runtimeOperationIssuer, issuedAt,
      expiresAt⟩

instance [Crypto] : CanonicalBody RecipientKeyAuthorizationStatementV1 where
  DOMAIN := "elastos.protected-content.recipient-key-authorization-statement/v1"
  validate := validate
  encodeFields v := do
    Encoder.nested v.binding
    Encoder.u8 v.action.toByte
    Encoder.fixed v.recipientPublicKey.value
    Encoder.nested v.recipientIdentity
    Encoder.fixed v.runtimeOperationIssuer.value
    Encoder.u64 v.issuedAt
    Encoder.u64 v.expiresAt
  decodeFields := do
    new
      (← Decoder.nested "binding")
      (← RightsActionV1.decode (← Decoder.u8))
      (← RecipientPublicKeyBytesV1.new (← Decoder.fixed 1216))
      (← Decoder.nested "recipient_key_identity")
      (← RuntimeOperationIssuerKeyV1.new (← Decoder.fixed 32))
      (← Decoder.u64)
      (← Decoder.u64)

instance [Crypto] : LawfulBody RecipientKeyAuthorizationStatementV1 where
  mirrors v h :=
    (mirrors_nested _).bind <| (mirrors_u8 _).check v.action.decode_toByte <|
    (mirrors_fixed _).check v.recipientPublicKey.new_value <| (mirrors_nested _).bind <|
    (mirrors_fixed _).check v.runtimeOperationIssuer.new_value <| (mirrors_u64 _).bind <|
    (mirrors_u64 _).last (build_eq h)

end RecipientKeyAuthorizationStatementV1

abbrev SignedRecipientKeyAuthorizationV1 :=
  Signed RecipientKeyAuthorizationStatementV1
    ⟨"elastos.protected-content.recipient-key-authorization/v1", "statement", "profile_signature",
      "profile_signature"⟩

end ElastosRuntime.Contracts
