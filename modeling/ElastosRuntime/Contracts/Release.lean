/-
# Key release

The documents of one release, in the order they arise: the request (`release_request.rs`), each
node's decision (`node_decision.rs`) and sealed contribution (`node_contribution.rs`), the
receipt that ends it (`terminal_receipt.rs`), and the operation by which Runtime hands all of it
to the nodes (`runtime_release_operation.rs`).
-/
import ElastosRuntime.Contracts.CustodyAuthority
import ElastosRuntime.Contracts.Rights

namespace ElastosRuntime.Contracts

open Codec

def MAX_RELEASE_REQUEST_LIFETIME_SECS : UInt64 := 60
def MAX_NODE_DECISION_LIFETIME_SECS : UInt64 := 60
def MAX_NODE_CONTRIBUTION_LIFETIME_SECS : UInt64 := 60
def MAX_TERMINAL_RECEIPT_LIFETIME_SECS : UInt64 := 60
def MAX_RUNTIME_RELEASE_OPERATION_LIFETIME_SECS : UInt64 := 60
def MAX_RECIPIENT_SEALED_CONTRIBUTION_BYTES : Nat := 16 * 1024

/-! ## 1. Contributions sealed to a recipient -/

/-- Provider-private bytes labeled for one custody-selected recipient. -/
structure RecipientSealedContributionV1 where
  recipient : RecipientKeyIdentityV1
  sealedBytes : List UInt8
deriving DecidableEq

namespace RecipientSealedContributionV1

def checkSealedBytes (sealedBytes : List UInt8) : Except ContractError Unit :=
  rejectIf (sealedBytes = [] ∨ MAX_RECIPIENT_SEALED_CONTRIBUTION_BYTES < sealedBytes.length)
    (.invalidField "recipient_sealed_contribution")

/-- Unlike the other constructors this one checks the bytes alone, not the recipient. -/
def new (recipient : RecipientKeyIdentityV1) (sealedBytes : List UInt8) :
    Except ContractError RecipientSealedContributionV1 := do
  checkSealedBytes sealedBytes
  pure ⟨recipient, sealedBytes⟩

def validate (v : RecipientSealedContributionV1) : Except ContractError Unit := do
  requireCanonical v.recipient
  checkSealedBytes v.sealedBytes

instance : CanonicalBody RecipientSealedContributionV1 where
  DOMAIN := "elastos.protected-content.recipient-sealed-contribution/v1"
  validate := validate
  encodeFields v := do
    Encoder.nested v.recipient
    Encoder.bytes v.sealedBytes
  decodeFields := do
    new
      (← Decoder.nested "recipient")
      (← Decoder.bytes "recipient_sealed_contribution" MAX_RECIPIENT_SEALED_CONTRIBUTION_BYTES)

instance : LawfulBody RecipientSealedContributionV1 where
  mirrors v h := by
    obtain ⟨⟨⟩, _, hbytes⟩ := bind_eq_ok.mp h
    have hlen : v.sealedBytes.length ≤ MAX_RECIPIENT_SEALED_CONTRIBUTION_BYTES :=
      Nat.le_of_not_lt (not_or.mp (rejectIf_eq_ok.mp hbytes)).2
    exact (mirrors_nested _).bind <| (mirrors_bytes fun _ => hlen).last <|
      bind_eq_ok.mpr ⟨(), hbytes, rfl⟩

end RecipientSealedContributionV1

/-! ## 2. Requests -/

variable [Curves]

structure ReleaseAuthorityScopeV1 where
  binding : ProtectedContentBindingV1
  rightsRequestHash : Digest32
  action : RightsActionV1
  recipient : RecipientKeyIdentityV1

instance : CanonicalBody ReleaseAuthorityScopeV1 where
  DOMAIN := "elastos.protected-content.release-authority-scope/v1"
  validate v := do
    requireCanonical v.binding
    requireCanonical v.recipient
  encodeFields v := do
    Encoder.nested v.binding
    Encoder.fixed v.rightsRequestHash
    Encoder.u8 v.action.toByte
    Encoder.nested v.recipient
  decodeFields := do
    let binding ← Decoder.nested "binding"
    let rightsRequestHash ← Decoder.fixed 32
    let action ← RightsActionV1.decode (← Decoder.u8)
    let recipient ← Decoder.nested "recipient"
    pure ⟨binding, rightsRequestHash, action, recipient⟩

instance : LawfulBody ReleaseAuthorityScopeV1 where
  mirrors v _ :=
    (mirrors_nested _).bind <| (mirrors_fixed _).bind <|
    (mirrors_u8 _).check v.action.decode_toByte <|
    (mirrors_nested _).map (ReleaseAuthorityScopeV1.mk v.binding v.rightsRequestHash v.action)

structure KeyReleaseRequestV1 where
  binding : ProtectedContentBindingV1
  rightsRequestHash : Digest32
  action : RightsActionV1
  recipient : RecipientKeyIdentityV1
  issuedAt : UInt64
  expiresAt : UInt64
  replayNonce : ReplayNonce16

namespace KeyReleaseRequestV1

def validate (v : KeyReleaseRequestV1) : Except ContractError Unit := do
  requireCanonical v.binding
  requireCanonical v.recipient
  validateTimeWindow v.issuedAt v.expiresAt MAX_RELEASE_REQUEST_LIFETIME_SECS
    "key_release_request_lifetime"

def new (binding : ProtectedContentBindingV1) (rightsRequestHash : Digest32)
    (action : RightsActionV1) (recipient : RecipientKeyIdentityV1) (issuedAt expiresAt : UInt64)
    (replayNonce : ReplayNonce16) : Except ContractError KeyReleaseRequestV1 :=
  build validate ⟨binding, rightsRequestHash, action, recipient, issuedAt, expiresAt, replayNonce⟩

instance : CanonicalBody KeyReleaseRequestV1 where
  DOMAIN := "elastos.protected-content.key-release-request/v1"
  validate := validate
  encodeFields v := do
    Encoder.nested v.binding
    Encoder.fixed v.rightsRequestHash
    Encoder.u8 v.action.toByte
    Encoder.nested v.recipient
    Encoder.u64 v.issuedAt
    Encoder.u64 v.expiresAt
    Encoder.fixed v.replayNonce
  decodeFields := do
    new
      (← Decoder.nested "binding")
      (← Decoder.fixed 32)
      (← RightsActionV1.decode (← Decoder.u8))
      (← Decoder.nested "recipient")
      (← Decoder.u64)
      (← Decoder.u64)
      (← Decoder.fixed 16)

instance : LawfulBody KeyReleaseRequestV1 where
  mirrors v h :=
    (mirrors_nested _).bind <| (mirrors_fixed _).bind <|
    (mirrors_u8 _).check v.action.decode_toByte <| (mirrors_nested _).bind <|
    (mirrors_u64 _).bind <| (mirrors_u64 _).bind <| (mirrors_fixed _).last (build_eq h)

end KeyReleaseRequestV1

/-! ## 3. Decisions -/

structure NodeRightsDecisionStatementV1 where
  releaseRequestHash : Digest32
  rightsRequestHash : Digest32
  binding : ProtectedContentBindingV1
  action : RightsActionV1
  nodePublicKey : NodePublicKey
  decision : RightsDecisionV1
  evidenceHash : Digest32
  issuedAt : UInt64
  expiresAt : UInt64
deriving DecidableEq

namespace NodeRightsDecisionStatementV1

def validate (v : NodeRightsDecisionStatementV1) : Except ContractError Unit := do
  requireCanonical v.binding
  v.nodePublicKey.recheck
  validateTimeWindow v.issuedAt v.expiresAt MAX_NODE_DECISION_LIFETIME_SECS
    "node_rights_decision_lifetime"

def new (releaseRequestHash rightsRequestHash : Digest32) (binding : ProtectedContentBindingV1)
    (action : RightsActionV1) (nodePublicKey : NodePublicKey) (decision : RightsDecisionV1)
    (evidenceHash : Digest32) (issuedAt expiresAt : UInt64) :
    Except ContractError NodeRightsDecisionStatementV1 :=
  build validate
    ⟨releaseRequestHash, rightsRequestHash, binding, action, nodePublicKey, decision, evidenceHash,
      issuedAt, expiresAt⟩

instance : CanonicalBody NodeRightsDecisionStatementV1 where
  DOMAIN := "elastos.protected-content.node-rights-decision/v1"
  validate := validate
  encodeFields v := do
    Encoder.fixed v.releaseRequestHash
    Encoder.fixed v.rightsRequestHash
    Encoder.nested v.binding
    Encoder.u8 v.action.toByte
    Encoder.fixed v.nodePublicKey.value
    Encoder.u8 v.decision.toByte
    Encoder.fixed v.evidenceHash
    Encoder.u64 v.issuedAt
    Encoder.u64 v.expiresAt
  decodeFields := do
    new
      (← Decoder.fixed 32)
      (← Decoder.fixed 32)
      (← Decoder.nested "binding")
      (← RightsActionV1.decode (← Decoder.u8))
      (← NodePublicKey.new (← Decoder.fixed 32))
      (← RightsDecisionV1.decode (← Decoder.u8))
      (← Decoder.fixed 32)
      (← Decoder.u64)
      (← Decoder.u64)

instance : LawfulBody NodeRightsDecisionStatementV1 where
  mirrors v h :=
    (mirrors_fixed _).bind <| (mirrors_fixed _).bind <| (mirrors_nested _).bind <|
    (mirrors_u8 _).check v.action.decode_toByte <|
    (mirrors_fixed _).check v.nodePublicKey.new_value <|
    (mirrors_u8 _).check v.decision.decode_toByte <| (mirrors_fixed _).bind <|
    (mirrors_u64 _).bind <| (mirrors_u64 _).last (build_eq h)

end NodeRightsDecisionStatementV1

abbrev SignedNodeRightsDecisionV1 :=
  Signed NodeRightsDecisionStatementV1
    ⟨"elastos.protected-content.signed-node-rights-decision/v1", "node_rights_decision",
      "node_decision_signature", "node_decision_signature"⟩

/-! ## 4. Contributions -/

structure NodeContributionStatementV1 where
  releaseRequestHash : Digest32
  binding : ProtectedContentBindingV1
  signedRightsDecision : SignedNodeRightsDecisionV1
  recipientSealedContribution : RecipientSealedContributionV1
  issuedAt : UInt64
  expiresAt : UInt64
deriving DecidableEq

namespace NodeContributionStatementV1

def validate (v : NodeContributionStatementV1) : Except ContractError Unit := do
  requireCanonical v.binding
  requireCanonical v.signedRightsDecision
  requireCanonical v.recipientSealedContribution
  validateTimeWindow v.issuedAt v.expiresAt MAX_NODE_CONTRIBUTION_LIFETIME_SECS
    "node_contribution_lifetime"

def new (releaseRequestHash : Digest32) (binding : ProtectedContentBindingV1)
    (signedRightsDecision : SignedNodeRightsDecisionV1)
    (recipientSealedContribution : RecipientSealedContributionV1) (issuedAt expiresAt : UInt64) :
    Except ContractError NodeContributionStatementV1 :=
  build validate
    ⟨releaseRequestHash, binding, signedRightsDecision, recipientSealedContribution, issuedAt,
      expiresAt⟩

instance : CanonicalBody NodeContributionStatementV1 where
  DOMAIN := "elastos.protected-content.node-contribution/v1"
  validate := validate
  encodeFields v := do
    Encoder.fixed v.releaseRequestHash
    Encoder.nested v.binding
    Encoder.nested v.signedRightsDecision
    Encoder.nested v.recipientSealedContribution
    Encoder.u64 v.issuedAt
    Encoder.u64 v.expiresAt
  decodeFields := do
    new
      (← Decoder.fixed 32)
      (← Decoder.nested "binding")
      (← Decoder.nested "signed_rights_decision")
      (← Decoder.nested "recipient_sealed_contribution")
      (← Decoder.u64)
      (← Decoder.u64)

instance : LawfulBody NodeContributionStatementV1 where
  mirrors _ h :=
    (mirrors_fixed _).bind <| (mirrors_nested _).bind <| (mirrors_nested _).bind <|
    (mirrors_nested _).bind <| (mirrors_u64 _).bind <| (mirrors_u64 _).last (build_eq h)

end NodeContributionStatementV1

abbrev SignedNodeContributionV1 :=
  Signed NodeContributionStatementV1
    ⟨"elastos.protected-content.signed-node-contribution/v1", "node_contribution",
      "node_contribution_signature", "node_contribution_signature"⟩

/-! ## 5. Terminal receipts -/

inductive KeyReleaseOutcomeV1 where
  | denied
  | released

namespace KeyReleaseOutcomeV1

def toByte : KeyReleaseOutcomeV1 → UInt8
  | denied => 0
  | released => 1

def decode (value : UInt8) : Except ContractError KeyReleaseOutcomeV1 :=
  match value with
  | 0 => .ok denied
  | 1 => .ok released
  | _ => .error (.invalidField "key_release_outcome")

omit [Curves] in
theorem decode_toByte (outcome : KeyReleaseOutcomeV1) : decode outcome.toByte = .ok outcome := by
  cases outcome <;> rfl

end KeyReleaseOutcomeV1

/-- Capsule-visible reference to provider-private node evidence. -/
structure NodeContributionRefV1 where
  nodePublicKey : NodePublicKey
  decisionHash : Digest32
  contributionHash : Digest32
  contributionCommitment : Digest32
deriving DecidableEq

namespace NodeContributionRefV1

/-- The derived order compares the four fields in turn; they have fixed lengths, so it is the
order of their concatenation. -/
def order (v : NodeContributionRefV1) : List UInt8 :=
  v.nodePublicKey.order ++ v.decisionHash.toList ++ v.contributionHash.toList ++
    v.contributionCommitment.toList

def encode (v : NodeContributionRefV1) : Encoder Unit := do
  Encoder.fixed v.nodePublicKey.value
  Encoder.fixed v.decisionHash
  Encoder.fixed v.contributionHash
  Encoder.fixed v.contributionCommitment

def decode : Decoder NodeContributionRefV1 := do
  let nodePublicKey ← NodePublicKey.new (← Decoder.fixed 32)
  let decisionHash ← Decoder.fixed 32
  let contributionHash ← Decoder.fixed 32
  let contributionCommitment ← Decoder.fixed 32
  pure ⟨nodePublicKey, decisionHash, contributionHash, contributionCommitment⟩

theorem mirrors (v : NodeContributionRefV1) : Mirrors v.encode decode v :=
  (mirrors_fixed _).check v.nodePublicKey.new_value <| (mirrors_fixed _).bind <|
  (mirrors_fixed _).bind <|
  (mirrors_fixed _).map (NodeContributionRefV1.mk v.nodePublicKey v.decisionHash v.contributionHash)

end NodeContributionRefV1

structure TerminalReceiptStatementV1 where
  releaseRequestHash : Digest32
  binding : ProtectedContentBindingV1
  issuer : TerminalReceiptIssuerKey
  outcome : KeyReleaseOutcomeV1
  contributionRefs : List NodeContributionRefV1
  issuedAt : UInt64
  expiresAt : UInt64

namespace TerminalReceiptStatementV1

/-- No two references agree on any of their four fields. -/
def DistinctRefs (refs : List NodeContributionRefV1) : Prop :=
  (refs.map (·.nodePublicKey)).Nodup ∧ (refs.map (·.decisionHash)).Nodup ∧
    (refs.map (·.contributionHash)).Nodup ∧ (refs.map (·.contributionCommitment)).Nodup

instance (refs : List NodeContributionRefV1) : Decidable (DistinctRefs refs) :=
  inferInstanceAs (Decidable (_ ∧ _ ∧ _ ∧ _))

/-- A denial refers to no contribution, a release to exactly the threshold. -/
def checkOutcome (v : TerminalReceiptStatementV1) : Except ContractError Unit :=
  match v.outcome with
  | .denied => rejectIf (v.contributionRefs ≠ []) (.invalidField "denied_contribution_refs")
  | .released =>
    rejectIf (v.contributionRefs.length ≠ v.binding.keyEnvelope.threshold.required.toNat)
      (.invalidField "release_threshold")

def validate (v : TerminalReceiptStatementV1) : Except ContractError Unit := do
  requireCanonical v.binding
  v.issuer.recheck
  validateTimeWindow v.issuedAt v.expiresAt MAX_TERMINAL_RECEIPT_LIFETIME_SECS
    "terminal_receipt_lifetime"
  rejectIf
    (¬Ascending NodeContributionRefV1.order v.contributionRefs ∨
      v.binding.keyEnvelope.threshold.total.toNat < v.contributionRefs.length)
    (.invalidField "node_contribution_refs")
  rejectIf (¬DistinctRefs v.contributionRefs) (.invalidField "node_contribution_refs")
  v.checkOutcome

def new (releaseRequestHash : Digest32) (binding : ProtectedContentBindingV1)
    (issuer : TerminalReceiptIssuerKey) (outcome : KeyReleaseOutcomeV1)
    (contributionRefs : List NodeContributionRefV1) (issuedAt expiresAt : UInt64) :
    Except ContractError TerminalReceiptStatementV1 :=
  build validate
    ⟨releaseRequestHash, binding, issuer, outcome,
      sortByKey NodeContributionRefV1.order contributionRefs, issuedAt, expiresAt⟩

instance : CanonicalBody TerminalReceiptStatementV1 where
  DOMAIN := "elastos.protected-content.terminal-receipt-statement/v1"
  validate := validate
  encodeFields v := do
    Encoder.fixed v.releaseRequestHash
    Encoder.nested v.binding
    Encoder.fixed v.issuer.value
    Encoder.u8 v.outcome.toByte
    Encoder.u8 (UInt8.ofNat v.contributionRefs.length)
    v.contributionRefs.forM NodeContributionRefV1.encode
    Encoder.u64 v.issuedAt
    Encoder.u64 v.expiresAt
  decodeFields := do
    let releaseRequestHash ← Decoder.fixed 32
    let binding : ProtectedContentBindingV1 ← Decoder.nested "binding"
    let issuer ← TerminalReceiptIssuerKey.new (← Decoder.fixed 32)
    let outcome ← KeyReleaseOutcomeV1.decode (← Decoder.u8)
    let count ← Decoder.u8
    rejectIf (binding.keyEnvelope.threshold.total.toNat < count.toNat)
      (.invalidField "node_contribution_refs")
    let contributionRefs ← many NodeContributionRefV1.decode count.toNat
    new releaseRequestHash binding issuer outcome contributionRefs (← Decoder.u64) (← Decoder.u64)

theorem refs_valid {v : TerminalReceiptStatementV1} (h : v.validate = .ok ()) :
    Ascending NodeContributionRefV1.order v.contributionRefs ∧
      v.contributionRefs.length ≤ v.binding.keyEnvelope.threshold.total.toNat := by
  obtain ⟨⟨⟩, _, h⟩ := bind_eq_ok.mp h
  obtain ⟨⟨⟩, _, h⟩ := bind_eq_ok.mp h
  obtain ⟨⟨⟩, _, h⟩ := bind_eq_ok.mp h
  obtain ⟨⟨⟩, hrefs, _⟩ := bind_eq_ok.mp h
  rw [rejectIf_eq_ok, not_or, not_not] at hrefs
  exact ⟨hrefs.1, Nat.le_of_not_lt hrefs.2⟩

instance : LawfulBody TerminalReceiptStatementV1 where
  mirrors v h := by
    obtain ⟨hasc, hlen⟩ := refs_valid h
    have hsmall : v.contributionRefs.length < 256 :=
      hlen.trans_lt v.binding.keyEnvelope.threshold.total.toNat_lt
    have hnew : new v.releaseRequestHash v.binding v.issuer v.outcome v.contributionRefs v.issuedAt
        v.expiresAt = .ok v := by
      rw [new, hasc.sortByKey_eq]
      exact build_eq h
    refine (mirrors_fixed _).bind <| (mirrors_nested _).bind <|
      (mirrors_fixed _).check v.issuer.new_value <| (mirrors_u8 _).check v.outcome.decode_toByte <|
      (mirrors_u8 _).bind <| .skip (b := ()) ?_ <|
      (mirrors_counted hsmall fun ref _ => ref.mirrors).bind <| (mirrors_u64 _).bind <|
      (mirrors_u64 _).last hnew
    rw [UInt8.toNat_ofNat_of_lt' hsmall, rejectIf_eq_ok]
    exact Nat.not_lt.mpr hlen

end TerminalReceiptStatementV1

abbrev SignedTerminalReceiptV1 :=
  Signed TerminalReceiptStatementV1
    ⟨"elastos.protected-content.signed-terminal-receipt/v1", "terminal_receipt_statement",
      "terminal_receipt_signature", "terminal_receipt_signature"⟩

/-! ## 6. The Runtime operation -/

variable [Crypto]

structure RuntimeReleaseOperationStatementV1 where
  runtimeOperationIssuer : RuntimeOperationIssuerKeyV1
  rightsRequest : WalletSignedRightsRequestV1
  releaseRequest : KeyReleaseRequestV1
  recipientPublicKey : RecipientPublicKeyBytesV1
  recipientAuthorization : SignedRecipientKeyAuthorizationV1
  policyBody : RightsPolicyBodyV1
  evidenceRequest : RightsEvaluationEvidenceRequestV1
  custodyEpoch : SignedCustodyEpochV1
  auditRequestId : RuntimeReleaseAuditIdV1
  issuedAt : UInt64
  expiresAt : UInt64

namespace RuntimeReleaseOperationStatementV1

def validate (v : RuntimeReleaseOperationStatementV1) : Except ContractError Unit := do
  v.runtimeOperationIssuer.recheck
  requireCanonical v.rightsRequest
  requireCanonical v.releaseRequest
  v.recipientPublicKey.recheck
  requireCanonical v.recipientAuthorization
  requireCanonical v.policyBody
  requireCanonical v.evidenceRequest
  v.evidenceRequest.validateAgainstPolicy v.policyBody
  requireCanonical v.custodyEpoch
  v.auditRequestId.recheck
  validateTimeWindow v.issuedAt v.expiresAt MAX_RUNTIME_RELEASE_OPERATION_LIFETIME_SECS
    "runtime_release_operation_lifetime"
  rejectIf (v.rightsRequest.request.binding ≠ v.releaseRequest.binding)
    (.invalidField "release_request.binding")
  let requestHash ← v.rightsRequest.request.requestHash
  rejectIf (requestHash ≠ v.releaseRequest.rightsRequestHash)
    (.invalidField "release_request.rights_request_hash")
  rejectIf (v.rightsRequest.request.action ≠ v.releaseRequest.action)
    (.invalidField "release_request.action")
  rejectIf (v.rightsRequest.request.recipient ≠ v.releaseRequest.recipient)
    (.invalidField "release_request.recipient")
  rejectIf (v.rightsRequest.request.binding ≠ v.evidenceRequest.binding)
    (.invalidField "evidence_request.binding")
  rejectIf (v.rightsRequest.request.binding ≠ v.recipientAuthorization.statement.binding)
    (.invalidField "recipient_authorization.binding")
  rejectIf (v.rightsRequest.request.action ≠ v.recipientAuthorization.statement.action)
    (.invalidField "recipient_authorization.action")
  rejectIf (v.releaseRequest.recipient ≠ v.recipientAuthorization.statement.recipientIdentity)
    (.invalidField "recipient_authorization.recipient_key_identity")
  rejectIf (v.recipientPublicKey ≠ v.recipientAuthorization.statement.recipientPublicKey)
    (.invalidField "recipient_authorization.recipient_public_key")
  rejectIf (v.runtimeOperationIssuer ≠ v.recipientAuthorization.statement.runtimeOperationIssuer)
    (.invalidField "recipient_authorization.runtime_operation_issuer")
  rejectIf (¬v.releaseRequest.recipient.matchesPublicKey v.recipientPublicKey.value.toList)
    (.invalidField "recipient_public_key")
  rejectIf (v.policyBody.requiredAction ≠ v.releaseRequest.action)
    (.invalidField "policy_body.required_action")
  let policyIdentity ← v.policyBody.policyIdentity
  rejectIf (policyIdentity ≠ v.releaseRequest.binding.rightsPolicy) (.invalidField "policy_body")
  rejectIf (v.issuedAt < v.releaseRequest.issuedAt ∨ v.releaseRequest.expiresAt < v.expiresAt)
    (.invalidField "runtime_release_operation_lifetime")
  rejectIf
    (v.issuedAt < v.recipientAuthorization.statement.issuedAt ∨
      v.recipientAuthorization.statement.expiresAt < v.expiresAt)
    (.invalidField "runtime_release_operation_lifetime")

def new (runtimeOperationIssuer : RuntimeOperationIssuerKeyV1)
    (rightsRequest : WalletSignedRightsRequestV1) (releaseRequest : KeyReleaseRequestV1)
    (recipientPublicKey : RecipientPublicKeyBytesV1)
    (recipientAuthorization : SignedRecipientKeyAuthorizationV1) (policyBody : RightsPolicyBodyV1)
    (evidenceRequest : RightsEvaluationEvidenceRequestV1) (custodyEpoch : SignedCustodyEpochV1)
    (auditRequestId : RuntimeReleaseAuditIdV1) (issuedAt expiresAt : UInt64) :
    Except ContractError RuntimeReleaseOperationStatementV1 :=
  build validate
    ⟨runtimeOperationIssuer, rightsRequest, releaseRequest, recipientPublicKey,
      recipientAuthorization, policyBody, evidenceRequest, custodyEpoch, auditRequestId, issuedAt,
      expiresAt⟩

instance : CanonicalBody RuntimeReleaseOperationStatementV1 where
  DOMAIN := "elastos.protected-content.runtime-release-operation-statement/v1"
  validate := validate
  encodeFields v := do
    Encoder.fixed v.runtimeOperationIssuer.value
    Encoder.nested v.rightsRequest
    Encoder.nested v.releaseRequest
    Encoder.fixed v.recipientPublicKey.value
    Encoder.nested v.recipientAuthorization
    Encoder.nested v.policyBody
    Encoder.nested v.evidenceRequest
    Encoder.nested v.custodyEpoch
    Encoder.fixed v.auditRequestId.value
    Encoder.u64 v.issuedAt
    Encoder.u64 v.expiresAt
  decodeFields := do
    new
      (← RuntimeOperationIssuerKeyV1.new (← Decoder.fixed 32))
      (← Decoder.nested "rights_request")
      (← Decoder.nested "release_request")
      (← RecipientPublicKeyBytesV1.new (← Decoder.fixed 1216))
      (← Decoder.nested "recipient_authorization")
      (← Decoder.nested "policy_body")
      (← Decoder.nested "evidence_request")
      (← Decoder.nested "custody_epoch")
      (← RuntimeReleaseAuditIdV1.new (← Decoder.fixed 32))
      (← Decoder.u64)
      (← Decoder.u64)

instance : LawfulBody RuntimeReleaseOperationStatementV1 where
  mirrors v h :=
    (mirrors_fixed _).check v.runtimeOperationIssuer.new_value <| (mirrors_nested _).bind <|
    (mirrors_nested _).bind <| (mirrors_fixed _).check v.recipientPublicKey.new_value <|
    (mirrors_nested _).bind <| (mirrors_nested _).bind <| (mirrors_nested _).bind <|
    (mirrors_nested _).bind <| (mirrors_fixed _).check v.auditRequestId.new_value <|
    (mirrors_u64 _).bind <| (mirrors_u64 _).last (build_eq h)

end RuntimeReleaseOperationStatementV1

abbrev SignedRuntimeReleaseOperationV1 :=
  Signed RuntimeReleaseOperationStatementV1
    ⟨"elastos.protected-content.runtime-release-operation/v1", "statement", "runtime_signature",
      "runtime_signature"⟩

end ElastosRuntime.Contracts
