/-
# What the coordinator and its providers send each other

A rights provider is asked to decide on an operation and a custody provider to contribute to it, each
for one node.  A request carries its documents in canonical form and so does a response; the
coordinator checks a response against the request it sent, at a time that it reads from its clock
(`rights.rs` and `custody.rs` of the provider contracts).
-/
import ElastosRuntime.Contracts.ReleaseChain

namespace ElastosRuntime.ReleaseCoordinator

open Codec Contracts

/-! ## 1. Blobs -/

def MAX_SIGNED_RUNTIME_RELEASE_OPERATION_BYTES_V1 : Nat :=
  MAX_RIGHTS_POLICY_BYTES.toNat + 32 * 1024
def MAX_SIGNED_NODE_RIGHTS_DECISION_BYTES_V1 : Nat := 8 * 1024
def MAX_SIGNED_NODE_CONTRIBUTION_BYTES_V1 : Nat :=
  MAX_RECIPIENT_SEALED_CONTRIBUTION_BYTES + 8 * 1024

/-- A document in canonical form, of limited length. -/
structure CanonicalBlob (max : Nat) where
  bytes : List UInt8
  bounds : ¬(bytes = [] ∨ max < bytes.length)
deriving DecidableEq

namespace CanonicalBlob

variable {max : Nat} {α : Type} [CanonicalBody α]

def new (value : List UInt8) : Except ContractError (CanonicalBlob max) :=
  if h : value = [] ∨ max < value.length then .error (.fieldTooLong "provider_canonical_blob")
  else .ok ⟨value, h⟩

def fromContract (value : α) : Except ContractError (CanonicalBlob max) := do
  let bytes ← canonicalBytes value
  new bytes

def decode (v : CanonicalBlob max) : Except ContractError α := fromCanonicalBytes v.bytes

/-- **A blob spells the document it was made from.** -/
theorem decode_fromContract [LawfulBody α] {value : α} {blob : CanonicalBlob max}
    (h : fromContract value = .ok blob) : blob.decode = .ok value := by
  obtain ⟨bytes, hbytes, h⟩ := bind_eq_ok.mp h
  unfold new at h
  split at h
  · exact nomatch h
  · cases h
    exact fromCanonicalBytes_of_canonicalBytes hbytes

/-- A document of moderate length fits. -/
theorem fromContract_of_encodes [LawfulBody α] {value : α} {n : Nat} (h : EncodesWithin value n)
    (hn : n ≤ max) : ∃ blob : CanonicalBlob max, fromContract value = .ok blob := by
  obtain ⟨_, hle, bytes, hbytes, rfl⟩ := h
  have hbounds : ¬(bytes = [] ∨ max < bytes.length) :=
    not_or.mpr ⟨ne_nil_of_canonicalBytes hbytes, Nat.not_lt.mpr (hle.trans hn)⟩
  exact ⟨⟨bytes, hbounds⟩, bind_eq_ok.mpr ⟨bytes, hbytes, dif_neg hbounds⟩⟩

/-- Some blob of at most `max` bytes is made from the document and spells it. -/
def Carries (max : Nat) (value : α) : Prop :=
  ∃ blob : CanonicalBlob max, fromContract value = .ok blob ∧ blob.decode = .ok value

theorem carries_iff [LawfulBody α] {value : α} {n : Nat}
    (h : CanonicalBody.validate value = .ok () → EncodesWithin value n) (hn : n ≤ max) :
    Carries max value ↔ CanonicalBody.validate value = .ok () := by
  constructor
  · rintro ⟨blob, hblob, -⟩
    obtain ⟨bytes, hbytes, -⟩ := bind_eq_ok.mp hblob
    exact (canonicalBytes_eq_ok.mp hbytes).1
  · intro hvalid
    obtain ⟨blob, hblob⟩ := fromContract_of_encodes (h hvalid) hn
    exact ⟨blob, hblob, decode_fromContract hblob⟩

end CanonicalBlob

variable [Curves] [Crypto]

/-! ## 2. Rights -/

structure RightsProviderRequestV1 where
  selectedNodePublicKey : Bytes 32
  signedRuntimeReleaseOperation : CanonicalBlob MAX_SIGNED_RUNTIME_RELEASE_OPERATION_BYTES_V1

namespace RightsProviderRequestV1

def validateStructure (v : RightsProviderRequestV1) : Except ContractError Unit := do
  let selectedNode ← NodePublicKey.new v.selectedNodePublicKey
  let signedOperation : SignedRuntimeReleaseOperationV1 ← v.signedRuntimeReleaseOperation.decode
  let nodeSet ← signedOperation.statement.custodyEpoch.statement.nodeSet.mapError fun _ =>
    .invalidField "signed_runtime_release_operation"
  rejectIf (¬nodeSet.contains selectedNode) (.invalidField "selected_node_public_key")

def newEvaluate (selectedNodePublicKey : NodePublicKey)
    (signedRuntimeReleaseOperation : SignedRuntimeReleaseOperationV1) :
    Except ContractError RightsProviderRequestV1 := do
  let blob ← CanonicalBlob.fromContract signedRuntimeReleaseOperation
  build validateStructure ⟨selectedNodePublicKey.value, blob⟩

end RightsProviderRequestV1

structure ValidatedRightsProviderRequestV1 where
  selectedNodePublicKey : NodePublicKey
  authenticatedRuntimeReleaseOperation : AuthenticatedRuntimeReleaseOperationV1

/-- What became of a request for a decision.  The failure code is not looked at. -/
inductive RightsProviderResponseV1 where
  | decision
      (signedNodeRightsDecision : CanonicalBlob MAX_SIGNED_NODE_RIGHTS_DECISION_BYTES_V1)
  | failure (auditRequestId runtimeOperationHash selectedNodePublicKey : Bytes 32)

def RightsProviderResponseV1.signedNodeRightsDecision :
    RightsProviderResponseV1 → Except ContractError SignedNodeRightsDecisionV1
  | decision signedNodeRightsDecision => signedNodeRightsDecision.decode
  | failure _ _ _ => .error (.invalidField "signed_node_rights_decision")

section

variable [WalletCurve]

/-- `into_validated_at`: the operation is verified against the issuer it declares. -/
def RightsProviderRequestV1.intoValidatedAt (v : RightsProviderRequestV1) (now : UInt64) :
    Except ContractError ValidatedRightsProviderRequestV1 := do
  let selectedNodePublicKey ← NodePublicKey.new v.selectedNodePublicKey
  let signedRuntimeReleaseOperation : SignedRuntimeReleaseOperationV1 ←
    v.signedRuntimeReleaseOperation.decode
  let authenticated ← (signedRuntimeReleaseOperation.verify
    signedRuntimeReleaseOperation.statement.runtimeOperationIssuer now).mapError fun _ =>
      .invalidField "signed_runtime_release_operation"
  let nodeSet ← authenticated.statement.custodyEpoch.statement.nodeSet.mapError fun _ =>
    .invalidField "signed_runtime_release_operation"
  rejectIf (¬nodeSet.contains selectedNodePublicKey) (.invalidField "selected_node_public_key")
  pure ⟨selectedNodePublicKey, authenticated⟩

def RightsProviderResponseV1.validateAgainstRequestAt (v : RightsProviderResponseV1)
    (request : RightsProviderRequestV1) (now : UInt64) : Except ContractError Unit :=
  match v with
  | decision signedNodeRightsDecision => do
    let validated ← request.intoValidatedAt now
    let nodeSet ← validated.authenticatedRuntimeReleaseOperation.statement.custodyEpoch.statement
      |>.nodeSet.mapError fun _ => .invalidField "signed_runtime_release_operation"
    let signedDecision : SignedNodeRightsDecisionV1 ← signedNodeRightsDecision.decode
    rejectIf (signedDecision.statement.nodePublicKey ≠ validated.selectedNodePublicKey)
      (.invalidField "signed_node_rights_decision")
    let _ ← (validated.authenticatedRuntimeReleaseOperation.verifyNodeRightsDecision signedDecision
      nodeSet now).mapError fun _ => .invalidField "signed_node_rights_decision"
  | failure auditRequestId runtimeOperationHash selectedNodePublicKey => do
    let validated ← request.intoValidatedAt now
    let authenticated := validated.authenticatedRuntimeReleaseOperation
    let auditId ← RuntimeReleaseAuditIdV1.new auditRequestId
    rejectIf (auditId ≠ authenticated.statement.auditRequestId) (.invalidField "audit_request_id")
    rejectIf (runtimeOperationHash ≠ authenticated.operationHash)
      (.invalidField "runtime_operation_hash")
    let failedNode ← NodePublicKey.new selectedNodePublicKey
    let selectedNode ← NodePublicKey.new request.selectedNodePublicKey
    rejectIf (failedNode ≠ selectedNode) (.invalidField "selected_node_public_key")

end

/-! ## 3. Contributions -/

/-- The request to release a contribution; the other request that custody providers take does not
come from this coordinator. -/
structure CustodyProviderRequestV1 where
  signedRuntimeReleaseOperation : CanonicalBlob MAX_SIGNED_RUNTIME_RELEASE_OPERATION_BYTES_V1
  signedNodeRightsDecision : CanonicalBlob MAX_SIGNED_NODE_RIGHTS_DECISION_BYTES_V1

namespace CustodyProviderRequestV1

def validateStructure (v : CustodyProviderRequestV1) : Except ContractError Unit := do
  let signedOperation : SignedRuntimeReleaseOperationV1 ← v.signedRuntimeReleaseOperation.decode
  let signedDecision : SignedNodeRightsDecisionV1 ← v.signedNodeRightsDecision.decode
  let nodeSet ← signedOperation.statement.custodyEpoch.statement.nodeSet.mapError fun _ =>
    .invalidField "signed_runtime_release_operation"
  rejectIf (¬nodeSet.contains signedDecision.statement.nodePublicKey)
    (.invalidField "signed_node_rights_decision")

def newReleaseContribution (signedRuntimeReleaseOperation : SignedRuntimeReleaseOperationV1)
    (signedNodeRightsDecision : SignedNodeRightsDecisionV1) :
    Except ContractError CustodyProviderRequestV1 := do
  let operationBlob ← CanonicalBlob.fromContract signedRuntimeReleaseOperation
  let decisionBlob ← CanonicalBlob.fromContract signedNodeRightsDecision
  build validateStructure ⟨operationBlob, decisionBlob⟩

end CustodyProviderRequestV1

inductive CustodyProviderRequestValidationErrorV1 where
  | contract
  | rightsDenied
deriving DecidableEq

/-- `From<ContractError>` -/
def orContract {ε α : Type} (x : Except ε α) : Except CustodyProviderRequestValidationErrorV1 α :=
  x.mapError fun _ => .contract

omit [Curves] [Crypto] in
@[simp] theorem orContract_eq_ok {ε α : Type} {x : Except ε α} {a : α} :
    orContract x = .ok a ↔ x = .ok a := mapError_eq_ok

structure ValidatedCustodyReleaseContributionRequestV1 where
  selectedNodePublicKey : NodePublicKey
  authenticatedRuntimeReleaseOperation : AuthenticatedRuntimeReleaseOperationV1
  signedNodeRightsDecision : SignedNodeRightsDecisionV1

/-- What became of a request for a contribution.  A receipt for a share is a response as well, to
the request that is not modelled; its fields are not looked at. -/
inductive CustodyProviderResponseV1 where
  | provisioned
  | contribution (signedNodeContribution : CanonicalBlob MAX_SIGNED_NODE_CONTRIBUTION_BYTES_V1)
  | failure (auditRequestId releaseRequestHash selectedNodePublicKey : Bytes 32)

def CustodyProviderResponseV1.signedNodeContribution :
    CustodyProviderResponseV1 → Except ContractError SignedNodeContributionV1
  | contribution signedNodeContribution => signedNodeContribution.decode
  | _ => .error (.invalidField "signed_node_contribution")

variable [WalletCurve]

def CustodyProviderRequestV1.intoValidatedAt (v : CustodyProviderRequestV1)
    (expectedLocalNodePublicKey : NodePublicKey) (now : UInt64) :
    Except CustodyProviderRequestValidationErrorV1
      ValidatedCustodyReleaseContributionRequestV1 := do
  let signedNodeRightsDecision : SignedNodeRightsDecisionV1 ←
    orContract v.signedNodeRightsDecision.decode
  let signedRuntimeReleaseOperation : SignedRuntimeReleaseOperationV1 ←
    orContract v.signedRuntimeReleaseOperation.decode
  let authenticated ← orContract (signedRuntimeReleaseOperation.verify
    signedRuntimeReleaseOperation.statement.runtimeOperationIssuer now)
  let nodeSet ← orContract authenticated.statement.custodyEpoch.statement.nodeSet
  let selectedNodePublicKey := signedNodeRightsDecision.statement.nodePublicKey
  failIf (selectedNodePublicKey ≠ expectedLocalNodePublicKey)
    CustodyProviderRequestValidationErrorV1.contract
  failIf (¬nodeSet.contains selectedNodePublicKey) CustodyProviderRequestValidationErrorV1.contract
  let decision ←
    (authenticated.verifyNodeRightsDecision signedNodeRightsDecision nodeSet now).mapError fun
      | .rightsDenied => .rightsDenied
      | _ => .contract
  failIf (decision.decision ≠ .allowed) CustodyProviderRequestValidationErrorV1.rightsDenied
  pure ⟨selectedNodePublicKey, authenticated, signedNodeRightsDecision⟩

def CustodyProviderResponseV1.validateAgainstRequestAt (v : CustodyProviderResponseV1)
    (request : CustodyProviderRequestV1) (expectedLocalNodePublicKey : NodePublicKey)
    (now : UInt64) : Except ContractError Unit := do
  let release ← (request.intoValidatedAt expectedLocalNodePublicKey now).mapError fun _ =>
    .invalidField "custody_provider_request"
  let authenticated := release.authenticatedRuntimeReleaseOperation
  match v with
  | provisioned => .error (.invalidField "provision_node_share")
  | contribution signedNodeContribution => do
    let nodeSet ← authenticated.statement.custodyEpoch.statement.nodeSet.mapError fun _ =>
      .invalidField "signed_runtime_release_operation"
    let contribution : SignedNodeContributionV1 ← signedNodeContribution.decode
    let verified ← (authenticated.verifyNodeContribution contribution nodeSet now).mapError
      fun _ => .invalidField "signed_node_contribution"
    rejectIf (verified.nodePublicKey ≠ release.selectedNodePublicKey)
      (.invalidField "signed_node_contribution")
  | failure auditRequestId releaseRequestHash selectedNodePublicKey => do
    let auditId ← RuntimeReleaseAuditIdV1.new auditRequestId
    rejectIf (auditId ≠ authenticated.statement.auditRequestId) (.invalidField "audit_request_id")
    rejectIf (releaseRequestHash ≠ authenticated.releaseRequestHash)
      (.invalidField "release_request_hash")
    let failedNode ← NodePublicKey.new selectedNodePublicKey
    rejectIf (failedNode ≠ release.selectedNodePublicKey) (.invalidField "selected_node_public_key")

/-! ## 4. What can be sent -/

omit [WalletCurve]

open CanonicalBlob in
/-- **What passes its check can be sent, and nothing else**: the limits on what providers are sent
and send back never stand in the way of a valid document. -/
theorem documents_fit :
    (∀ v : SignedRuntimeReleaseOperationV1,
      Carries MAX_SIGNED_RUNTIME_RELEASE_OPERATION_BYTES_V1 v ↔ v.validate = .ok ()) ∧
    (∀ v : SignedNodeRightsDecisionV1,
      Carries MAX_SIGNED_NODE_RIGHTS_DECISION_BYTES_V1 v ↔ v.validate = .ok ()) ∧
    ∀ v : SignedNodeContributionV1,
      Carries MAX_SIGNED_NODE_CONTRIBUTION_BYTES_V1 v ↔ v.validate = .ok () :=
  ⟨fun _ => carries_iff SignedRuntimeReleaseOperationV1.encodes (by decide),
    fun _ => carries_iff SignedNodeRightsDecisionV1.encodes (by decide),
    fun _ => carries_iff SignedNodeContributionV1.encodes (by decide)⟩

end ElastosRuntime.ReleaseCoordinator
