/-
# The authority chain of a release

A signed Runtime operation is verified once (`SignedRuntimeReleaseOperationV1::verify`), which
verifies the four documents inside it against each other; the decisions, contributions and receipts
that follow are verified against what it carries (`runtime_release_operation.rs`).

`release_chain` puts the checks of all of them together: one binding, one recipient, one release
request throughout, and windows that lie inside each other.
-/
import ElastosRuntime.Contracts.Verification

namespace ElastosRuntime.Contracts

open Codec

/-! ## 1. Errors -/

inductive RuntimeReleaseOperationError where
  | contract (error : ContractError)
  | rights (error : RightsError)
  | keyRelease (error : KeyReleaseError)
  | recipientAuthorization (error : RecipientAuthorizationError)
  | custodyEpoch (error : CustodyEpochError)
  | bindingMismatch (field : String)
  | invalidRuntimeSignature
  | notYetValid
  | expired
deriving DecidableEq

/-- How the operation reports a window that is not in force. -/
def RuntimeReleaseOperationError.ofActive : RightsError → RuntimeReleaseOperationError
  | .notYetValid => .notYetValid
  | .expired => .expired
  | .contract error => .contract error
  | other => .rights other

/-- `map_runtime_release_key_release_error` -/
def KeyReleaseError.ofOperation : RuntimeReleaseOperationError → KeyReleaseError
  | .contract error => .contract error
  | .rights error => .rights error
  | .keyRelease error => error
  | .recipientAuthorization _ => .bindingMismatch "recipient_authorization"
  | .custodyEpoch _ => .bindingMismatch "custody_epoch"
  | .bindingMismatch field => .bindingMismatch field
  | .invalidRuntimeSignature => .bindingMismatch "runtime_signature"
  | .notYetValid => .rights .notYetValid
  | .expired => .rights .expired

/-! ## 2. What an operation's check establishes -/

section

variable [Curves] [Crypto]

namespace RuntimeReleaseOperationStatementV1

/-- What holds of a statement that passes its check. -/
structure Valid (v : RuntimeReleaseOperationStatementV1) : Prop where
  rightsRequest : requireCanonical v.rightsRequest = .ok ()
  releaseRequest : requireCanonical v.releaseRequest = .ok ()
  recipientAuthorization : requireCanonical v.recipientAuthorization = .ok ()
  policyBody : requireCanonical v.policyBody = .ok ()
  evidenceRequest : requireCanonical v.evidenceRequest = .ok ()
  againstPolicy : v.evidenceRequest.validateAgainstPolicy v.policyBody = .ok ()
  custodyEpoch : requireCanonical v.custodyEpoch = .ok ()
  window : validateTimeWindow v.issuedAt v.expiresAt MAX_RUNTIME_RELEASE_OPERATION_LIFETIME_SECS
    "runtime_release_operation_lifetime" = .ok ()
  releaseBinding : v.rightsRequest.request.binding = v.releaseRequest.binding
  requestHash : v.rightsRequest.request.requestHash = .ok v.releaseRequest.rightsRequestHash
  releaseAction : v.rightsRequest.request.action = v.releaseRequest.action
  releaseRecipient : v.rightsRequest.request.recipient = v.releaseRequest.recipient
  evidenceBinding : v.rightsRequest.request.binding = v.evidenceRequest.binding
  authorizationBinding :
    v.rightsRequest.request.binding = v.recipientAuthorization.statement.binding
  authorizationAction : v.rightsRequest.request.action = v.recipientAuthorization.statement.action
  authorizationRecipient :
    v.releaseRequest.recipient = v.recipientAuthorization.statement.recipientIdentity
  authorizationKey :
    v.recipientPublicKey = v.recipientAuthorization.statement.recipientPublicKey
  authorizationIssuer :
    v.runtimeOperationIssuer = v.recipientAuthorization.statement.runtimeOperationIssuer
  matchesKey : v.releaseRequest.recipient.matchesPublicKey v.recipientPublicKey.value.toList
  policyAction : v.policyBody.requiredAction = v.releaseRequest.action
  policyIdentity : v.policyBody.policyIdentity = .ok v.releaseRequest.binding.rightsPolicy
  withinRelease : Window.Within ⟨v.issuedAt, v.expiresAt⟩
    ⟨v.releaseRequest.issuedAt, v.releaseRequest.expiresAt⟩
  withinAuthorization : Window.Within ⟨v.issuedAt, v.expiresAt⟩
    ⟨v.recipientAuthorization.statement.issuedAt, v.recipientAuthorization.statement.expiresAt⟩

theorem validate_eq_ok {v : RuntimeReleaseOperationStatementV1} :
    v.validate = .ok () ↔ v.Valid := by
  simp only [validate, bind_eq_ok, rejectIf_eq_ok, not_not, exists_unit, Checked.recheck_eq,
    true_and]
  constructor
  · rintro ⟨h₁, h₂, h₃, h₄, h₅, h₆, h₇, h₈, h₉, _, h₁₀, rfl, h₁₁, h₁₂, h₁₃, h₁₄, h₁₅, h₁₆, h₁₇,
      h₁₈, h₁₉, h₂₀, _, h₂₁, rfl, h₂₂, h₂₃⟩
    exact ⟨h₁, h₂, h₃, h₄, h₅, h₆, h₇, h₈, h₉, h₁₀, h₁₁, h₁₂, h₁₃, h₁₄, h₁₅, h₁₆, h₁₇, h₁₈, h₁₉,
      h₂₀, h₂₁, within_iff.mpr h₂₂, within_iff.mpr h₂₃⟩
  · rintro ⟨h₁, h₂, h₃, h₄, h₅, h₆, h₇, h₈, h₉, h₁₀, h₁₁, h₁₂, h₁₃, h₁₄, h₁₅, h₁₆, h₁₇, h₁₈, h₁₉,
      h₂₀, h₂₁, h₂₂, h₂₃⟩
    exact ⟨h₁, h₂, h₃, h₄, h₅, h₆, h₇, h₈, h₉, _, h₁₀, rfl, h₁₁, h₁₂, h₁₃, h₁₄, h₁₅, h₁₆, h₁₇, h₁₈,
      h₁₉, h₂₀, _, h₂₁, rfl, within_iff.mp h₂₂, within_iff.mp h₂₃⟩

end RuntimeReleaseOperationStatementV1

variable {v : RuntimeReleaseOperationStatementV1}

/-- The binding of a valid operation names one content. -/
theorem RuntimeReleaseOperationStatementV1.Valid.content (h : v.Valid) :
    v.releaseRequest.binding.keyEnvelope.encryptedContent =
      v.releaseRequest.binding.encryptedContent := by
  obtain ⟨⟨⟩, hbinding, _⟩ := bind_eq_ok.mp (valid_of_requireCanonical h.releaseRequest)
  obtain ⟨⟨⟩, _, h⟩ := bind_eq_ok.mp (valid_of_requireCanonical hbinding)
  obtain ⟨⟨⟩, _, h⟩ := bind_eq_ok.mp h
  obtain ⟨⟨⟩, _, h⟩ := bind_eq_ok.mp h
  obtain ⟨⟨⟩, _, h⟩ := bind_eq_ok.mp h
  obtain ⟨⟨⟩, _, h⟩ := bind_eq_ok.mp h
  exact not_not.mp (rejectIf_eq_ok.mp h)

/-- Its evidence request names the policy of the binding. -/
theorem RuntimeReleaseOperationStatementV1.Valid.evidencePolicy (h : v.Valid) :
    v.evidenceRequest.policyIdentity = v.releaseRequest.binding.rightsPolicy := by
  obtain ⟨_, _, hpolicy⟩ := bind_eq_ok.mp h.againstPolicy
  obtain ⟨⟨⟩, _, hbinding⟩ := bind_eq_ok.mp hpolicy
  rw [rejectIf_eq_ok, not_not] at hbinding
  rw [← hbinding, ← h.evidenceBinding, h.releaseBinding]

/-! ## 3. Verifying an operation -/

/-- The exact authority scope and request nonce claimed by a request. -/
structure ReplayClaimKeyV1 where
  authorityScopeHash : Digest32
  nonce : ReplayNonce16
deriving DecidableEq

def RightsRequestV1.replayClaimKey (v : RightsRequestV1) :
    Except ContractError ReplayClaimKeyV1 := do
  let scope : RightsAuthorityScopeV1 := ⟨v.binding, v.action, v.recipient⟩
  let authorityScopeHash ← canonicalHash scope
  pure ⟨authorityScopeHash, v.replayNonce⟩

def KeyReleaseRequestV1.replayClaimKey (v : KeyReleaseRequestV1) :
    Except ContractError ReplayClaimKeyV1 := do
  let scope : ReleaseAuthorityScopeV1 := ⟨v.binding, v.rightsRequestHash, v.action, v.recipient⟩
  let authorityScopeHash ← canonicalHash scope
  pure ⟨authorityScopeHash, v.replayNonce⟩

/-- What verifying the statement of an operation hands on. -/
structure VerifiedReleaseOperationStatementV1 where
  release : VerifiedKeyReleaseRequestV1
  epoch : VerifiedCustodyEpochV1

/-- Signature-checked Runtime release operation with exact replay claim keys. -/
structure AuthenticatedRuntimeReleaseOperationV1 where
  statement : RuntimeReleaseOperationStatementV1
  operationHash : Digest32
  rightsRequestHash : Digest32
  rightsRequestReplayClaimKey : ReplayClaimKeyV1
  releaseRequestHash : Digest32
  releaseRequestReplayClaimKey : ReplayClaimKeyV1
  recipientAuthorizationHash : Digest32
  custodyEpochIdentity : CustodyEpochIdentityV1

variable [WalletCurve]

namespace RuntimeReleaseOperationStatementV1

/-- What the wallet's request is checked against: its own claims and the clock. -/
def rightsContext (v : RuntimeReleaseOperationStatementV1) (now : UInt64) :
    RightsVerificationContextV1 where
  expectedBinding := v.rightsRequest.request.binding
  expectedAction := v.rightsRequest.request.action
  expectedRecipient := v.rightsRequest.request.recipient
  now := now

def recipientContext (v : RuntimeReleaseOperationStatementV1)
    (release : VerifiedKeyReleaseRequestV1) (now : UInt64) :
    RecipientKeyAuthorizationContextV1 where
  expectedBinding := release.binding
  expectedAction := release.action
  expectedRecipientPublicKey := v.recipientPublicKey
  expectedRuntimeOperationIssuer := v.runtimeOperationIssuer
  now := now

/-- `verify_release_operation_statement`.  It does not look at the operation's own window. -/
def verify (v : RuntimeReleaseOperationStatementV1) (now : UInt64) :
    Except RuntimeReleaseOperationError VerifiedReleaseOperationStatementV1 := do
  let rights ← (v.rightsRequest.verifyUnclaimed (v.rightsContext now)).mapError .rights
  let release ← (v.releaseRequest.verifyUnclaimed rights now).mapError .keyRelease
  let authorization ← (v.recipientAuthorization.verify (v.recipientContext release now)).mapError
    .recipientAuthorization
  let epoch ← (v.custodyEpoch.verifyAgainstKeyEnvelope release.binding.keyEnvelope).mapError
    .custodyEpoch
  failIf (epoch.approvedSuites.recipientEncryptionSuiteId ≠
    authorization.recipientIdentity.encryptionSuiteId)
    (.bindingMismatch "recipient_encryption_suite_id")
  let keyIdentity ←
    (v.recipientPublicKey.keyIdentity epoch.approvedSuites.recipientEncryptionSuiteId).mapError
      .contract
  failIf (keyIdentity ≠ authorization.recipientIdentity) (.bindingMismatch "recipient_public_key")
  pure ⟨release, epoch⟩

/-- What holds of the statement of an operation that verified. -/
structure Verified (v : RuntimeReleaseOperationStatementV1) (now : UInt64)
    (verified : VerifiedReleaseOperationStatementV1) : Prop where
  rights : v.rightsRequest.Verified (v.rightsContext now)
  release : ∃ rightsHash, v.rightsRequest.request.requestHash = .ok rightsHash ∧
    v.releaseRequest.Verified (v.rightsRequest.toVerified rightsHash) now
  releaseHash : v.releaseRequest.requestHash = .ok verified.release.requestHash
  releaseEq : v.releaseRequest.toVerified verified.release.requestHash = verified.release
  authorization : v.recipientAuthorization.Verified (v.recipientContext verified.release now)
  authorizationHash : ∃ hash, canonicalHash v.recipientAuthorization.statement = .ok hash
  epoch : v.custodyEpoch.Verified verified.release.binding.keyEnvelope
  epochEq :
    v.custodyEpoch.toVerified verified.release.binding.keyEnvelope.custodyEpoch = verified.epoch
  suite : v.custodyEpoch.statement.approvedSuites.recipientEncryptionSuiteId =
    v.recipientAuthorization.statement.recipientIdentity.encryptionSuiteId
  keyIdentity :
    v.recipientPublicKey.keyIdentity
      v.custodyEpoch.statement.approvedSuites.recipientEncryptionSuiteId =
        .ok v.recipientAuthorization.statement.recipientIdentity

theorem verify_eq_ok {v : RuntimeReleaseOperationStatementV1} {now : UInt64}
    {verified : VerifiedReleaseOperationStatementV1} :
    v.verify now = .ok verified ↔ v.Verified now verified := by
  simp only [verify, bind_eq_ok, mapError_eq_ok, failIf_eq_ok, not_not, exists_unit, pure_eq_ok,
    WalletSignedRightsRequestV1.verifyUnclaimed_eq_ok, KeyReleaseRequestV1.verifyUnclaimed_eq_ok,
    SignedRecipientKeyAuthorizationV1.verify_eq_ok,
    SignedCustodyEpochV1.verifyAgainstKeyEnvelope_eq_ok]
  constructor
  · rintro ⟨_, ⟨hrights, rightsHash, hrightsHash, rfl⟩, _, ⟨hrelease, _, hreleaseHash, rfl⟩, _,
      ⟨hauth, _, hauthHash, rfl⟩, _, ⟨hepoch, rfl⟩, hsuite, _, hkey, rfl, rfl⟩
    exact ⟨hrights, ⟨rightsHash, hrightsHash, hrelease⟩, hreleaseHash, rfl, hauth, ⟨_, hauthHash⟩,
      hepoch, rfl, hsuite, hkey⟩
  · rintro ⟨hrights, ⟨rightsHash, hrightsHash, hrelease⟩, hreleaseHash, hreleaseEq, hauth,
      ⟨_, hauthHash⟩, hepoch, hepochEq, hsuite, hkey⟩
    refine ⟨_, ⟨hrights, rightsHash, hrightsHash, rfl⟩, _, ⟨hrelease, _, hreleaseHash, rfl⟩, _,
      ⟨?_, _, hauthHash, rfl⟩, _, ⟨?_, rfl⟩, hsuite, _, hkey, rfl, ?_⟩
    · rw [hreleaseEq]
      exact hauth
    · rw [hreleaseEq]
      exact hepoch
    · rw [hreleaseEq, hepochEq]

end RuntimeReleaseOperationStatementV1

namespace SignedRuntimeReleaseOperationV1

def verify (v : SignedRuntimeReleaseOperationV1)
    (expectedRuntimeIssuer : RuntimeOperationIssuerKeyV1) (now : UInt64) :
    Except RuntimeReleaseOperationError AuthenticatedRuntimeReleaseOperationV1 := do
  (requireCanonical v).mapError .contract
  let statement := v.statement
  (validateActive statement.issuedAt statement.expiresAt now).mapError
    RuntimeReleaseOperationError.ofActive
  failIf (statement.runtimeOperationIssuer ≠ expectedRuntimeIssuer)
    (.bindingMismatch "runtime_operation_issuer")
  verifySignature RuntimeReleaseOperationError.contract .invalidRuntimeSignature
    statement.runtimeOperationIssuer statement v.signature
  let verified ← statement.verify now
  let operationHash ← (canonicalHash statement).mapError .contract
  let rightsRequestHash ← statement.rightsRequest.request.requestHash.mapError .contract
  let rightsRequestReplayClaimKey ←
    statement.rightsRequest.request.replayClaimKey.mapError .contract
  let releaseRequestReplayClaimKey ← statement.releaseRequest.replayClaimKey.mapError .contract
  let recipientAuthorizationHash ←
    (canonicalHash statement.recipientAuthorization.statement).mapError .contract
  pure
    { statement, operationHash, rightsRequestHash, rightsRequestReplayClaimKey,
      releaseRequestHash := verified.release.requestHash, releaseRequestReplayClaimKey,
      recipientAuthorizationHash, custodyEpochIdentity := verified.epoch.epochIdentity }

/-- What holds of an operation that verified, and of the record it was verified into. -/
structure Verified (v : SignedRuntimeReleaseOperationV1)
    (expectedRuntimeIssuer : RuntimeOperationIssuerKeyV1) (now : UInt64)
    (operation : AuthenticatedRuntimeReleaseOperationV1) : Prop where
  canonical : requireCanonical v = .ok ()
  active : Window.Active ⟨v.statement.issuedAt, v.statement.expiresAt⟩ now
  issuer : v.statement.runtimeOperationIssuer = expectedRuntimeIssuer
  signed : SignedBy v.statement.runtimeOperationIssuer.value v.statement v.signature
  statementEq : operation.statement = v.statement
  statement : ∃ verified, v.statement.Verified now verified ∧
    operation.releaseRequestHash = verified.release.requestHash ∧
      operation.custodyEpochIdentity = verified.epoch.epochIdentity
  operationHash : canonicalHash v.statement = .ok operation.operationHash
  rightsRequestHash :
    v.statement.rightsRequest.request.requestHash = .ok operation.rightsRequestHash
  rightsKey :
    v.statement.rightsRequest.request.replayClaimKey = .ok operation.rightsRequestReplayClaimKey
  releaseKey :
    v.statement.releaseRequest.replayClaimKey = .ok operation.releaseRequestReplayClaimKey
  authorizationHash : canonicalHash v.statement.recipientAuthorization.statement =
    .ok operation.recipientAuthorizationHash

theorem verify_eq_ok {v : SignedRuntimeReleaseOperationV1}
    {expectedRuntimeIssuer : RuntimeOperationIssuerKeyV1} {now : UInt64}
    {operation : AuthenticatedRuntimeReleaseOperationV1} :
    v.verify expectedRuntimeIssuer now = .ok operation ↔
      v.Verified expectedRuntimeIssuer now operation := by
  simp only [verify, bind_eq_ok, mapError_eq_ok, failIf_eq_ok, not_not, validateActive_eq_ok,
    verifySignature_eq_ok, exists_unit, pure_eq_ok, RuntimeReleaseOperationStatementV1.verify_eq_ok]
  constructor
  · rintro ⟨hcanonical, hactive, hissuer, hsigned, verified, hverified, _, hoperation, _, hrights,
      _, hrightsKey, _, hreleaseKey, _, hauth, rfl⟩
    exact ⟨hcanonical, hactive, hissuer, hsigned, rfl, ⟨verified, hverified, rfl, rfl⟩, hoperation,
      hrights, hrightsKey, hreleaseKey, hauth⟩
  · rintro ⟨hcanonical, hactive, hissuer, hsigned, hstatement, ⟨verified, hverified, hrelease,
      hepoch⟩, hoperation, hrights, hrightsKey, hreleaseKey, hauth⟩
    refine ⟨hcanonical, hactive, hissuer, hsigned, verified, hverified, _, hoperation, _, hrights,
      _, hrightsKey, _, hreleaseKey, _, hauth, ?_⟩
    rw [← hstatement, ← hrelease, ← hepoch]

end SignedRuntimeReleaseOperationV1

/-! ## 4. Verifying what follows an operation -/

namespace AuthenticatedRuntimeReleaseOperationV1

def binding (v : AuthenticatedRuntimeReleaseOperationV1) : ProtectedContentBindingV1 :=
  v.statement.releaseRequest.binding

def action (v : AuthenticatedRuntimeReleaseOperationV1) : RightsActionV1 :=
  v.statement.releaseRequest.action

def recipient (v : AuthenticatedRuntimeReleaseOperationV1) : RecipientKeyIdentityV1 :=
  v.statement.releaseRequest.recipient

def verifyNodeRightsDecision (v : AuthenticatedRuntimeReleaseOperationV1)
    (decision : SignedNodeRightsDecisionV1) (nodeSet : NodeSetV1) (now : UInt64) :
    Except KeyReleaseError VerifiedNodeRightsDecisionV1 := do
  let verified ← (v.statement.verify now).mapError KeyReleaseError.ofOperation
  decision.verify verified.release nodeSet now

def validateNodeContributionActiveWindow (v : AuthenticatedRuntimeReleaseOperationV1)
    (issuedAt expiresAt : UInt64) (decision : VerifiedNodeRightsDecisionV1) (now : UInt64) :
    Except KeyReleaseError Unit := do
  let verified ← (v.statement.verify now).mapError KeyReleaseError.ofOperation
  Contracts.validateNodeContributionActiveWindow issuedAt expiresAt verified.release decision now

def verifyNodeContribution (v : AuthenticatedRuntimeReleaseOperationV1)
    (contribution : SignedNodeContributionV1) (nodeSet : NodeSetV1) (now : UInt64) :
    Except KeyReleaseError VerifiedNodeContributionV1 := do
  let verified ← (v.statement.verify now).mapError KeyReleaseError.ofOperation
  contribution.verify verified.release nodeSet now

def verifyTerminalReceipt (v : AuthenticatedRuntimeReleaseOperationV1)
    (terminalReceipt : SignedTerminalReceiptV1) (contributions : List VerifiedNodeContributionV1)
    (expectedIssuer : TerminalReceiptIssuerKey) (now : UInt64) : Except KeyReleaseError Unit := do
  let verified ← (v.statement.verify now).mapError KeyReleaseError.ofOperation
  terminalReceipt.verify verified.release contributions expectedIssuer now

end AuthenticatedRuntimeReleaseOperationV1

/-! ## 5. The chain -/

/-- **One release throughout**: every document of it carries the same protected-content binding
(and with it the same policy, content, node set and custody epoch), the same recipient and action,
and the hash of the same release request. -/
structure SameRelease (operation : RuntimeReleaseOperationStatementV1)
    (contribution : NodeContributionStatementV1) (receipt : TerminalReceiptStatementV1)
    (nodeSet : NodeSetV1) : Prop where
  rightsBinding : operation.rightsRequest.request.binding = operation.releaseRequest.binding
  authorizationBinding :
    operation.recipientAuthorization.statement.binding = operation.releaseRequest.binding
  evidenceBinding : operation.evidenceRequest.binding = operation.releaseRequest.binding
  decisionBinding :
    contribution.signedRightsDecision.statement.binding = operation.releaseRequest.binding
  contributionBinding : contribution.binding = operation.releaseRequest.binding
  receiptBinding : receipt.binding = operation.releaseRequest.binding
  policy : operation.policyBody.policyIdentity = .ok operation.releaseRequest.binding.rightsPolicy
  evidencePolicy :
    operation.evidenceRequest.policyIdentity = operation.releaseRequest.binding.rightsPolicy
  content : operation.releaseRequest.binding.keyEnvelope.encryptedContent =
    operation.releaseRequest.binding.encryptedContent
  nodeSetId : nodeSet.nodeSetId = .ok operation.releaseRequest.binding.keyEnvelope.nodeSetId
  member : contribution.signedRightsDecision.statement.nodePublicKey ∈ nodeSet.members
  epoch :
    operation.custodyEpoch.epochIdentity =
      .ok operation.releaseRequest.binding.keyEnvelope.custodyEpoch
  epochNodeSetId :
    (operation.custodyEpoch.toVerified
      operation.releaseRequest.binding.keyEnvelope.custodyEpoch).nodeSetId =
        .ok operation.releaseRequest.binding.keyEnvelope.nodeSetId
  rightsRecipient : operation.rightsRequest.request.recipient = operation.releaseRequest.recipient
  authorizationRecipient : operation.recipientAuthorization.statement.recipientIdentity =
    operation.releaseRequest.recipient
  sealedRecipient :
    contribution.recipientSealedContribution.recipient = operation.releaseRequest.recipient
  recipientKey :
    operation.releaseRequest.recipient.matchesPublicKey operation.recipientPublicKey.value.toList
  rightsAction : operation.rightsRequest.request.action = operation.releaseRequest.action
  decisionAction :
    contribution.signedRightsDecision.statement.action = operation.releaseRequest.action
  rightsHash :
    operation.rightsRequest.request.requestHash = .ok operation.releaseRequest.rightsRequestHash
  decisionRightsHash : contribution.signedRightsDecision.statement.rightsRequestHash =
    operation.releaseRequest.rightsRequestHash
  decisionHash : operation.releaseRequest.requestHash =
    .ok contribution.signedRightsDecision.statement.releaseRequestHash
  contributionHash : operation.releaseRequest.requestHash = .ok contribution.releaseRequestHash
  receiptHash : operation.releaseRequest.requestHash = .ok receipt.releaseRequestHash

/-- The windows of the documents of one release. -/
structure ReleaseWindows where
  rights : Window
  release : Window
  authorization : Window
  operation : Window
  decision : Window
  contribution : Window
  receipt : Window

namespace ReleaseWindows

def of (operation : RuntimeReleaseOperationStatementV1)
    (contribution : NodeContributionStatementV1) (receipt : TerminalReceiptStatementV1) :
    ReleaseWindows where
  rights := ⟨operation.rightsRequest.request.issuedAt, operation.rightsRequest.request.expiresAt⟩
  release := ⟨operation.releaseRequest.issuedAt, operation.releaseRequest.expiresAt⟩
  authorization := ⟨operation.recipientAuthorization.statement.issuedAt,
    operation.recipientAuthorization.statement.expiresAt⟩
  operation := ⟨operation.issuedAt, operation.expiresAt⟩
  decision := ⟨contribution.signedRightsDecision.statement.issuedAt,
    contribution.signedRightsDecision.statement.expiresAt⟩
  contribution := ⟨contribution.issuedAt, contribution.expiresAt⟩
  receipt := ⟨receipt.issuedAt, receipt.expiresAt⟩

/-- **Each window lies inside the one above it**, and the operation's inside two. -/
structure Nested (w : ReleaseWindows) : Prop where
  receipt : w.receipt.Within w.contribution
  contribution : w.contribution.Within w.decision
  decision : w.decision.Within w.release
  release : w.release.Within w.rights
  operationRelease : w.operation.Within w.release
  operationAuthorization : w.operation.Within w.authorization

/-- Every document is in force. -/
structure Active (w : ReleaseWindows) (now : UInt64) : Prop where
  rights : w.rights.Active now
  release : w.release.Active now
  authorization : w.authorization.Active now
  operation : w.operation.Active now
  decision : w.decision.Active now
  contribution : w.contribution.Active now
  receipt : w.receipt.Active now

end ReleaseWindows

/-- The replay claims of an operation are made under its requests' own nonces. -/
structure OwnNonces (statement : RuntimeReleaseOperationStatementV1)
    (operation : AuthenticatedRuntimeReleaseOperationV1) : Prop where
  rights :
    operation.rightsRequestReplayClaimKey.nonce = statement.rightsRequest.request.replayNonce
  release : operation.releaseRequestReplayClaimKey.nonce = statement.releaseRequest.replayNonce

section

variable {signed : SignedRuntimeReleaseOperationV1}
  {expectedIssuer : RuntimeOperationIssuerKeyV1} {now : UInt64}
  {operation : AuthenticatedRuntimeReleaseOperationV1} {nodeSet : NodeSetV1}
  {contribution : SignedNodeContributionV1} {verified : VerifiedNodeContributionV1}
  {contributions : List VerifiedNodeContributionV1} {receipt : SignedTerminalReceiptV1}
  {receiptIssuer : TerminalReceiptIssuerKey}

/-- An operation that verified has a valid statement. -/
theorem SignedRuntimeReleaseOperationV1.Verified.valid
    (h : signed.Verified expectedIssuer now operation) : signed.statement.Valid := by
  obtain ⟨⟨⟩, hstatement, _⟩ := bind_eq_ok.mp (valid_of_requireCanonical h.canonical)
  exact RuntimeReleaseOperationStatementV1.validate_eq_ok.mp (valid_of_requireCanonical hstatement)

theorem SignedRuntimeReleaseOperationV1.Verified.ownNonces
    (h : signed.Verified expectedIssuer now operation) : OwnNonces signed.statement operation := by
  obtain ⟨_, _, hrights⟩ := bind_eq_ok.mp h.rightsKey
  obtain ⟨_, _, hrelease⟩ := bind_eq_ok.mp h.releaseKey
  constructor
  · rw [← pure_eq_ok.mp hrights]
  · rw [← pure_eq_ok.mp hrelease]

/-- The two documents that follow an operation were verified against the request it carries. -/
theorem verified_of_operation
    (hc : operation.verifyNodeContribution contribution nodeSet now = .ok verified)
    (hr : operation.verifyTerminalReceipt receipt contributions receiptIssuer now = .ok ()) :
    ∃ v, operation.statement.Verified now v ∧ contribution.Verified v.release nodeSet now ∧
      receipt.Verified v.release contributions receiptIssuer now ∧
        verified.issuedAt = contribution.statement.issuedAt ∧
          verified.expiresAt = contribution.statement.expiresAt := by
  obtain ⟨v, hv, hc⟩ := bind_eq_ok.mp hc
  obtain ⟨w, hw, hr⟩ := bind_eq_ok.mp hr
  rw [mapError_eq_ok] at hv hw
  obtain rfl : v = w := Except.ok.inj (hv.symm.trans hw)
  obtain ⟨hcontribution, _, _, _, _, rfl⟩ := SignedNodeContributionV1.verify_eq_ok.mp hc
  exact ⟨v, RuntimeReleaseOperationStatementV1.verify_eq_ok.mp hv, hcontribution,
    SignedTerminalReceiptV1.verify_eq_ok.mp hr, rfl, rfl⟩

/-- **The authority chain of a release.**  Once an operation, a node's contribution and a receipt
that settles it have verified at one time, they are about one release, their windows lie inside
each other, and every one of them contains that time.  Each request keeps its own nonce. -/
theorem release_chain (hop : signed.verify expectedIssuer now = .ok operation)
    (hc : operation.verifyNodeContribution contribution nodeSet now = .ok verified)
    (hmem : verified ∈ contributions)
    (hr : operation.verifyTerminalReceipt receipt contributions receiptIssuer now = .ok ()) :
    SameRelease signed.statement contribution.statement receipt.statement nodeSet ∧
      (ReleaseWindows.of signed.statement contribution.statement receipt.statement).Nested ∧
        (ReleaseWindows.of signed.statement contribution.statement receipt.statement).Active
          now ∧ OwnNonces signed.statement operation := by
  have hop := SignedRuntimeReleaseOperationV1.verify_eq_ok.mp hop
  have hvalid := hop.valid
  obtain ⟨v, hv, hcontribution, hreceipt, hissued, hexpires⟩ := verified_of_operation hc hr
  rw [hop.statementEq] at hv
  have hdecision := hcontribution.decision
  obtain ⟨rightsHash, _, hrelease⟩ := hv.release
  -- the request the later documents were checked against is the operation's own
  have hbinding : v.release.binding = signed.statement.releaseRequest.binding := by
    rw [← hv.releaseEq]; rfl
  have hrecipient : v.release.recipient = signed.statement.releaseRequest.recipient := by
    rw [← hv.releaseEq]; rfl
  have haction : v.release.action = signed.statement.releaseRequest.action := by
    rw [← hv.releaseEq]; rfl
  have hrightsHash : v.release.rightsRequestHash =
      signed.statement.releaseRequest.rightsRequestHash := by
    rw [← hv.releaseEq]; rfl
  have hwindow : (⟨v.release.issuedAt, v.release.expiresAt⟩ : Window) =
      ⟨signed.statement.releaseRequest.issuedAt, signed.statement.releaseRequest.expiresAt⟩ := by
    rw [← hv.releaseEq]; rfl
  have hsettled := hreceipt.withinContribution verified hmem
  rw [hissued, hexpires] at hsettled
  have hepoch := hv.epoch
  rw [hbinding] at hepoch
  refine ⟨?_, ?_, ?_, hop.ownNonces⟩
  · constructor
    · exact hvalid.releaseBinding
    · exact hvalid.authorizationBinding.symm.trans hvalid.releaseBinding
    · exact hvalid.evidenceBinding.symm.trans hvalid.releaseBinding
    · exact hdecision.binding.trans hbinding
    · exact hcontribution.binding.trans hbinding
    · exact hreceipt.binding.trans hbinding
    · exact hvalid.policyIdentity
    · exact hvalid.evidencePolicy
    · exact hvalid.content
    · rw [← hbinding]
      exact hdecision.nodeSetId
    · exact hdecision.member
    · exact hepoch.epochIdentity
    · exact hepoch.nodeSetId
    · exact hvalid.releaseRecipient
    · exact hvalid.authorizationRecipient.symm
    · exact hcontribution.recipient.trans hrecipient
    · exact hvalid.matchesKey
    · exact hvalid.releaseAction
    · exact hdecision.action.trans haction
    · exact hvalid.requestHash
    · exact hdecision.rightsRequestHash.trans hrightsHash
    · rw [hdecision.releaseRequestHash]
      exact hv.releaseHash
    · rw [hcontribution.releaseRequestHash]
      exact hv.releaseHash
    · rw [hreceipt.releaseRequestHash]
      exact hv.releaseHash
  · constructor
    · exact hsettled
    · exact hcontribution.withinDecision
    · rw [ReleaseWindows.of, ← hwindow]
      exact hdecision.within
    · exact hrelease.within
    · exact hvalid.withinRelease
    · exact hvalid.withinAuthorization
  · constructor
    · exact hv.rights.active
    · exact hrelease.active
    · exact hv.authorization.active
    · exact hop.active
    · exact hdecision.active
    · exact hcontribution.active
    · exact hreceipt.active

end

end

/-! ## 6. A release to evaluate the model with -/

/-- A recovery that ends at the same wallet for every signature. -/
@[reducible] def constantWallet : WalletCurve where
  keccak256 := fun _ => Bytes.zero 32
  Signature := Unit
  signatureFromSlice := fun _ => some ()
  normalizeS := fun _ => none
  recoverFromPrehash := fun _ _ _ => some (4 :: List.replicate 64 0)

/-- The value of a computation that succeeds. -/
def okValue {ε α : Type} (fallback : α) (x : Except ε α) : α :=
  match x with
  | .ok a => a
  | .error _ => fallback

theorem eq_okValue {ε α : Type} {x : Except ε α} (fallback : α) (h : ∃ a, x = .ok a) :
    x = .ok (okValue fallback x) := by
  obtain ⟨a, rfl⟩ := h
  rfl

/-- What the samples differ in: the envelope they are for, when they start, how long the operation
lasts, and what makes their requests fresh. -/
structure ReleaseSample where
  envelopeSha256 : Digest32
  envelopeBytes : UInt32
  start : UInt64
  lifetime : UInt64
  rightsNonce : ReplayNonce16
  releaseNonce : ReplayNonce16
  auditRequestId : RuntimeReleaseAuditIdV1

namespace ReleaseSample

/-- What its bounds have to satisfy. -/
structure Ok (s : ReleaseSample) : Prop where
  envelopeBytes : ¬(s.envelopeBytes = 0 ∨ MAX_KEY_ENVELOPE_BYTES < s.envelopeBytes)
  start : s.start ≠ 0
  room : s.start.toNat + 300 < UInt64.size
  lifetime : 0 < s.lifetime ∧ s.lifetime ≤ 60

instance (s : ReleaseSample) : Decidable s.Ok :=
  decidable_of_iff
    (¬(s.envelopeBytes = 0 ∨ MAX_KEY_ENVELOPE_BYTES < s.envelopeBytes) ∧ s.start ≠ 0 ∧
      s.start.toNat + 300 < UInt64.size ∧ 0 < s.lifetime ∧ s.lifetime ≤ 60)
    ⟨fun h => ⟨h.1, h.2.1, h.2.2.1, h.2.2.2⟩, fun h => ⟨h.1, h.2, h.3, h.4⟩⟩

section

attribute [local instance] acceptingCurves tailEchoCrypto constantWallet

def content : EncryptedContentIdentityV1 := ⟨Bytes.zero 32, 1⟩

def policyBody : RightsPolicyBodyV1 where
  encryptedContent := content
  contentAccessId := ⟨⟨1 :: List.replicate 15 0, rfl⟩, by decide⟩
  requiredAction := .view
  subjectSource := .walletAddress
  chainId := 1
  contractAddress := ⟨⟨1 :: List.replicate 19 0, rfl⟩, by decide⟩
  functionSelector := ⟨⟨1 :: List.replicate 3 0, rfl⟩, by decide⟩
  methodAbi := .hasAccessByContentIdAddressBytes16
  observationFinality := .finalized

@[irreducible] def rightsPolicy : RightsPolicyIdentityV1 :=
  okValue ⟨Bytes.zero 32, 1⟩ policyBody.policyIdentity

def threshold : ThresholdV1 := ⟨2, 3⟩

def node (seed : UInt8) (h : (seed != 0) = true) : CustodyNodeIdentityV1 where
  nodePublicKey := seedKey _ seed
  custodyPublicKey := seedWrapKey _ seed
  shareCoordinate := ⟨seed, h⟩

def nodes : List CustodyNodeIdentityV1 := [node 1 rfl, node 2 rfl, node 3 rfl]

def nodeSet : NodeSetV1 := ⟨threshold, nodes.map (·.nodePublicKey)⟩

/-- The signature the toy scheme makes with a key. -/
def signatureOf (seed : UInt8) : List UInt8 :=
  (seed :: List.replicate 31 0) ++ (seed :: List.replicate 31 0)

def suites : CustodyApprovedSuitesV1 :=
  ⟨CUSTODY_X_WING_AES256GCM_SUITE_ID_V1, CUSTODY_X_WING_AES256GCM_SUITE_ID_V1,
    CUSTODY_X_WING_AES256GCM_SUITE_ID_V1⟩

def epoch : SignedCustodyEpochV1 := ⟨⟨seedKey _ 9, suites, threshold, nodes⟩, signatureOf 9⟩

@[irreducible] def epochIdentity : CustodyEpochIdentityV1 :=
  okValue ⟨Bytes.zero 32, 1⟩ epoch.epochIdentity

@[irreducible] def nodeSetId : Digest32 := okValue (Bytes.zero 32) nodeSet.nodeSetId

theorem policyBody_valid : policyBody.validate = .ok () := by decide

theorem policyIdentity_eq : policyBody.policyIdentity = .ok rightsPolicy := by
  unfold rightsPolicy
  exact eq_okValue _ ((RightsPolicyBodyV1.encodes policyBody_valid).exists_of (by decide))

theorem content_valid : content.validate = .ok () := by decide

theorem threshold_valid : threshold.validate = .ok () := by decide

theorem rightsPolicy_valid : rightsPolicy.validate = .ok () :=
  SizedIdentity.valid_of_eq_ok (show SizedIdentity.of policyBody = .ok _ from policyIdentity_eq)

theorem epochStatement_valid : epoch.statement.validate = .ok () := by decide +kernel

theorem epoch_valid : epoch.validate = .ok () :=
  bind_eq_ok.mpr ⟨(), (CustodyEpochStatementV1.encodes epochStatement_valid).requireCanonical, rfl⟩

theorem epochIdentity_eq : epoch.epochIdentity = .ok epochIdentity := by
  unfold epochIdentity
  exact eq_okValue _ ((SignedCustodyEpochV1.encodes epoch_valid).exists_of (by decide))

theorem epochIdentity_valid : epochIdentity.validate = .ok () :=
  SizedIdentity.valid_of_eq_ok (show SizedIdentity.of epoch = .ok _ from epochIdentity_eq)

theorem nodeSet_valid : nodeSet.validate = .ok () := by decide

theorem nodeSetId_eq : nodeSet.nodeSetId = .ok nodeSetId := by
  unfold nodeSetId
  exact eq_okValue _ (NodeSetV1.encodes nodeSet_valid).canonicalHash

/-- The toy scheme accepts the signature of the key that signs. -/
theorem signedBy {α : Type} [CanonicalBody α] {statement : α} {n : Nat} (field : String)
    (seed : UInt8) (h : EncodesWithin statement n) :
    SignedBy (seedKey field seed).value statement (signatureOf seed) := by
  obtain ⟨_, _, bytes, hbytes, _⟩ := h
  exact ⟨bytes, rfl, hbytes, beq_self_eq_true (signatureOf seed)⟩

variable {seed : UInt8}

/-- The hash of a signed document is the hash of its signature, which comes last. -/
theorem canonicalHash_signed {α : Type} [CanonicalBody α] {spec : SignedSpec} {v : Signed α spec}
    {n : Nat} (h : EncodesWithin v n) (hsignature : v.signature = signatureOf seed) :
    canonicalHash v = .ok (tailDigest (signatureOf seed)) := by
  obtain ⟨_, _, bytes, hbytes, _⟩ := h
  obtain ⟨front, rfl⟩ := Signed.signature_suffix hbytes
  refine bind_eq_ok.mpr ⟨_, hbytes, congrArg Except.ok ?_⟩
  rw [hsignature]
  apply List.Vector.eq
  change List.take 32 (List.reverse _ ++ _) = List.take 32 (List.reverse _ ++ _)
  have hlen : 32 ≤ (signatureOf seed).reverse.length := by
    rw [List.length_reverse, signatureOf, List.length_append, List.length_cons,
      List.length_replicate]
    omega
  rw [List.reverse_append, List.append_assoc, List.take_append_of_le_length hlen,
    List.take_append_of_le_length hlen]

variable (s : ReleaseSample)

def keyEnvelope : KeyEnvelopeIdentityV1 where
  encryptedContent := content
  envelopeSha256 := s.envelopeSha256
  envelopeBytes := s.envelopeBytes
  nodeSetId := nodeSetId
  threshold := threshold
  custodyPool := ⟨Bytes.zero 32, 1⟩
  custodyEpoch := epochIdentity
  custodyCommitteeAuthorization := ⟨Bytes.zero 32, 1⟩

def binding : ProtectedContentBindingV1 where
  encryptedContent := content
  keyEnvelope := s.keyEnvelope
  rightsPolicy := rightsPolicy
  profile := seedKey _ 8
  wallet := Bytes.zero 20
  runtimeSessionBinding := ⟨⟨1 :: List.replicate 31 0, rfl⟩, by decide⟩

def recipientKey : RecipientPublicKeyBytesV1 := seedWrapKey _ 7

def recipient : RecipientKeyIdentityV1 :=
  ⟨CUSTODY_X_WING_AES256GCM_SUITE_ID_V1, Crypto.sha256 recipientKey.value.toList⟩

def rightsRequest : RightsRequestV1 where
  binding := s.binding
  action := .view
  recipient := recipient
  issuedAt := s.start
  expiresAt := s.start + 300
  replayNonce := s.rightsNonce

@[irreducible] def rightsRequestHash : Digest32 :=
  okValue (Bytes.zero 32) s.rightsRequest.requestHash

def releaseRequest : KeyReleaseRequestV1 where
  binding := s.binding
  rightsRequestHash := s.rightsRequestHash
  action := .view
  recipient := recipient
  issuedAt := s.start
  expiresAt := s.start + 60
  replayNonce := s.releaseNonce

@[irreducible] def releaseRequestHash : Digest32 :=
  okValue (Bytes.zero 32) s.releaseRequest.requestHash

def authorization : RecipientKeyAuthorizationStatementV1 where
  binding := s.binding
  action := .view
  recipientPublicKey := recipientKey
  recipientIdentity := recipient
  runtimeOperationIssuer := seedKey _ 6
  issuedAt := s.start
  expiresAt := s.start + 300

def statement : RuntimeReleaseOperationStatementV1 where
  runtimeOperationIssuer := seedKey _ 6
  rightsRequest := ⟨s.rightsRequest, List.replicate 65 0⟩
  releaseRequest := s.releaseRequest
  recipientPublicKey := recipientKey
  recipientAuthorization := ⟨s.authorization, signatureOf 8⟩
  policyBody := policyBody
  evidenceRequest := ⟨s.binding, rightsPolicy⟩
  custodyEpoch := epoch
  auditRequestId := s.auditRequestId
  issuedAt := s.start
  expiresAt := s.start + s.lifetime

def signed : SignedRuntimeReleaseOperationV1 := ⟨s.statement, signatureOf 6⟩

variable {s}

variable {d now : UInt64}

theorem window_valid (h : s.Ok) {maximum : UInt64} (field : String) (hd : 0 < d) (hle : d ≤ maximum)
    (hmax : maximum ≤ 300) :
    validateTimeWindow s.start (s.start + d) maximum field = .ok () := by
  have hroom := h.room
  have hsize : UInt64.size = 18446744073709551616 := rfl
  have h300 : (300 : UInt64).toNat = 300 := rfl
  have h0 : (0 : UInt64).toNat = 0 := rfl
  have hcancel : s.start + d - s.start = d := by rw [UInt64.add_comm, UInt64.add_sub_cancel]
  rw [UInt64.le_iff_toNat_le] at hle hmax
  rw [UInt64.lt_iff_toNat_lt] at hd
  rw [validateTimeWindow, rejectIf_eq_ok, hcancel]
  simp only [not_or, UInt64.le_iff_toNat_le, UInt64.lt_iff_toNat_lt, UInt64.toNat_add]
  exact ⟨h.start, by omega, by omega⟩

theorem window_within (h : s.Ok) {e : UInt64} (hde : d ≤ e) (he : e ≤ 300) :
    Window.Within ⟨s.start, s.start + d⟩ ⟨s.start, s.start + e⟩ := by
  have hroom := h.room
  have hsize : UInt64.size = 18446744073709551616 := rfl
  have h300 : (300 : UInt64).toNat = 300 := rfl
  rw [UInt64.le_iff_toNat_le] at hde he
  refine ⟨UInt64.le_refl _, ?_⟩
  rw [UInt64.le_iff_toNat_le, UInt64.toNat_add, UInt64.toNat_add]
  omega

/-- The sample is in force from five seconds before it starts. -/
theorem window_active (h : s.Ok) (hd : d ≤ 300) (hstart : s.start.toNat ≤ now.toNat + 5)
    (hend : now.toNat < s.start.toNat + d.toNat) : Window.Active ⟨s.start, s.start + d⟩ now := by
  have hroom := h.room
  have hsize : UInt64.size = 18446744073709551616 := rfl
  have h300 : (300 : UInt64).toNat = 300 := rfl
  rw [UInt64.le_iff_toNat_le] at hd
  refine ⟨hstart, ?_⟩
  rw [UInt64.lt_iff_toNat_lt, UInt64.toNat_add]
  omega

theorem keyEnvelope_valid (h : s.Ok) : s.keyEnvelope.validate = .ok () := by
  have hpool : s.keyEnvelope.custodyPool.validate = .ok () := rfl
  have hauth : s.keyEnvelope.custodyCommitteeAuthorization.validate = .ok () := rfl
  exact bind_eq_ok.mpr ⟨(), content_valid, bind_eq_ok.mpr ⟨(), threshold_valid, bind_eq_ok.mpr
    ⟨(), hpool, bind_eq_ok.mpr ⟨(), epochIdentity_valid, bind_eq_ok.mpr
      ⟨(), hauth, rejectIf_eq_ok.mpr h.envelopeBytes⟩⟩⟩⟩⟩

theorem binding_valid (h : s.Ok) : s.binding.validate = .ok () :=
  bind_eq_ok.mpr ⟨(), content_valid, bind_eq_ok.mpr ⟨(), keyEnvelope_valid h, bind_eq_ok.mpr
    ⟨(), rightsPolicy_valid, bind_eq_ok.mpr ⟨(), Checked.recheck_eq _, bind_eq_ok.mpr
      ⟨(), Checked.recheck_eq _, rejectIf_eq_ok.mpr (not_not.mpr rfl)⟩⟩⟩⟩⟩

theorem recipient_valid : recipient.validate = .ok () := by decide

theorem binding_canonical (h : s.Ok) : requireCanonical s.binding = .ok () :=
  (ProtectedContentBindingV1.encodes (binding_valid h)).requireCanonical

theorem recipient_canonical : requireCanonical recipient = .ok () :=
  (RecipientKeyIdentityV1.encodes recipient_valid).requireCanonical

theorem rightsRequest_encodes (h : s.Ok) : EncodesWithin s.rightsRequest 1441 :=
  RightsRequestV1.encodes <| bind_eq_ok.mpr ⟨(), binding_canonical h, bind_eq_ok.mpr
    ⟨(), recipient_canonical, window_valid h _ (by decide) (by decide) (by decide)⟩⟩

theorem rightsRequestHash_eq (h : s.Ok) :
    s.rightsRequest.requestHash = .ok s.rightsRequestHash := by
  unfold rightsRequestHash
  exact eq_okValue _ (rightsRequest_encodes h).canonicalHash

theorem releaseRequest_encodes (h : s.Ok) : EncodesWithin s.releaseRequest 1473 :=
  KeyReleaseRequestV1.encodes <| bind_eq_ok.mpr ⟨(), binding_canonical h, bind_eq_ok.mpr
    ⟨(), recipient_canonical, window_valid h _ (by decide) (by decide) (by decide)⟩⟩

theorem releaseRequestHash_eq (h : s.Ok) :
    s.releaseRequest.requestHash = .ok s.releaseRequestHash := by
  unfold releaseRequestHash
  exact eq_okValue _ (releaseRequest_encodes h).canonicalHash

theorem matchesKey : recipient.matchesPublicKey recipientKey.value.toList = true :=
  beq_self_eq_true (Crypto.sha256 recipientKey.value.toList)

theorem authorization_encodes (h : s.Ok) : EncodesWithin s.authorization 2673 :=
  RecipientKeyAuthorizationStatementV1.encodes <| bind_eq_ok.mpr ⟨(), binding_canonical h,
    bind_eq_ok.mpr ⟨(), recipient_canonical, bind_eq_ok.mpr ⟨(), Checked.recheck_eq _,
      bind_eq_ok.mpr ⟨(), Checked.recheck_eq _, bind_eq_ok.mpr
        ⟨(), window_valid h _ (by decide) (by decide) (by decide),
          rejectIf_eq_ok.mpr (not_not.mpr matchesKey)⟩⟩⟩⟩⟩

theorem wallet_encodes (h : s.Ok) : EncodesWithin s.statement.rightsRequest 1590 := by
  have hsignature : rejectIf ((List.replicate 65 (0 : UInt8)).length ≠ WALLET_SIGNATURE_BYTES ∨
      ¬((List.replicate 65 (0 : UInt8))[64]? = some 0 ∨
        (List.replicate 65 (0 : UInt8))[64]? = some 1))
      (.invalidField "wallet_signature") = .ok () := by decide
  exact WalletSignedRightsRequestV1.encodes
    (bind_eq_ok.mpr ⟨(), (rightsRequest_encodes h).requireCanonical, hsignature⟩)

theorem signed_valid {α : Type} [CanonicalBody α] {spec : SignedSpec} {statement : α} {n : Nat}
    (h : EncodesWithin statement n) (seed : UInt8) :
    (⟨statement, signatureOf seed⟩ : Signed α spec).validate = .ok () :=
  bind_eq_ok.mpr ⟨(), h.requireCanonical, rfl⟩

theorem authorizationSigned_encodes (h : s.Ok) :
    EncodesWithin s.statement.recipientAuthorization 2821 :=
  SignedRecipientKeyAuthorizationV1.encodes (signed_valid (authorization_encodes h) 8)

theorem evidenceRequest_encodes (h : s.Ok) : EncodesWithin s.statement.evidenceRequest 1314 :=
  RightsEvaluationEvidenceRequestV1.encodes (bind_eq_ok.mpr ⟨(), binding_canonical h,
    bind_eq_ok.mpr ⟨(), (RightsPolicyIdentityV1.encodes rightsPolicy_valid).requireCanonical,
      rejectIf_eq_ok.mpr (not_not.mpr rfl)⟩⟩)

theorem againstPolicy (s : ReleaseSample) :
    s.statement.evidenceRequest.validateAgainstPolicy policyBody = .ok () :=
  bind_eq_ok.mpr ⟨_, policyIdentity_eq, bind_eq_ok.mpr
    ⟨(), rejectIf_eq_ok.mpr (not_not.mpr rfl), rejectIf_eq_ok.mpr (not_not.mpr rfl)⟩⟩

theorem statement_valid (h : s.Ok) : s.statement.Valid where
  rightsRequest := (wallet_encodes h).requireCanonical
  releaseRequest := (releaseRequest_encodes h).requireCanonical
  recipientAuthorization := (authorizationSigned_encodes h).requireCanonical
  policyBody := (RightsPolicyBodyV1.encodes policyBody_valid).requireCanonical
  evidenceRequest := (evidenceRequest_encodes h).requireCanonical
  againstPolicy := againstPolicy s
  custodyEpoch := (SignedCustodyEpochV1.encodes epoch_valid).requireCanonical
  window := window_valid h _ h.lifetime.1 h.lifetime.2 (by decide)
  releaseBinding := rfl
  requestHash := rightsRequestHash_eq h
  releaseAction := rfl
  releaseRecipient := rfl
  evidenceBinding := rfl
  authorizationBinding := rfl
  authorizationAction := rfl
  authorizationRecipient := rfl
  authorizationKey := rfl
  authorizationIssuer := rfl
  matchesKey := matchesKey
  policyAction := rfl
  policyIdentity := policyIdentity_eq
  withinRelease := window_within h h.lifetime.2 (by decide)
  withinAuthorization := window_within h (UInt64.le_trans h.lifetime.2 (by decide)) (by decide)

theorem epoch_nodeSet : epoch.statement.nodeSet = .ok nodeSet := by
  have hasc : Ascending NodePublicKey.order (nodes.map (·.nodePublicKey)) := by decide
  have hnew : NodeSetV1.new threshold (nodes.map (·.nodePublicKey)) = .ok nodeSet := by
    rw [NodeSetV1.new, hasc.sortByKey_eq]
    exact build_eq nodeSet_valid
  exact hnew

theorem epoch_verified : epoch.Verified s.keyEnvelope where
  canonical := (SignedCustodyEpochV1.encodes epoch_valid).requireCanonical
  signed := signedBy _ 9 (CustodyEpochStatementV1.encodes epochStatement_valid)
  epochIdentity := epochIdentity_eq
  nodeSetId := bind_eq_ok.mpr ⟨nodeSet, epoch_nodeSet, nodeSetId_eq⟩
  threshold := rfl

def verifiedStatement (s : ReleaseSample) : VerifiedReleaseOperationStatementV1 where
  release := s.releaseRequest.toVerified s.releaseRequestHash
  epoch := epoch.toVerified epochIdentity

theorem recovered (bytes : List UInt8) :
    recoverWallet bytes (List.replicate 65 0) = .ok (Bytes.zero 20) := rfl

/-- **The statement verifies** as long as the release request is in force. -/
theorem statement_verify (h : s.Ok) (hstart : s.start.toNat ≤ now.toNat + 5)
    (hend : now.toNat < s.start.toNat + 60) : s.statement.verify now = .ok s.verifiedStatement := by
  have hshort : Window.Active ⟨s.start, s.start + 60⟩ now :=
    window_active h (by decide) hstart hend
  have hlong : Window.Active ⟨s.start, s.start + 300⟩ now :=
    hshort.of_within (window_within h (by decide) (by decide))
  obtain ⟨_, _, bytes, hbytes, _⟩ := rightsRequest_encodes h
  obtain ⟨hash, hhash⟩ := (authorization_encodes h).canonicalHash
  refine RuntimeReleaseOperationStatementV1.verify_eq_ok.mpr
    { rights := ?_, release := ⟨_, rightsRequestHash_eq h, ?_⟩,
      releaseHash := releaseRequestHash_eq h, releaseEq := rfl, authorization := ?_,
      authorizationHash := ⟨hash, hhash⟩, epoch := epoch_verified, epochEq := rfl, suite := rfl,
      keyIdentity := build_eq recipient_valid }
  · exact ⟨(wallet_encodes h).requireCanonical, rfl, rfl, rfl, hlong, bytes, hbytes,
      recovered bytes⟩
  · exact ⟨(releaseRequest_encodes h).requireCanonical, rfl, rfl, rfl, rfl,
      window_within h (by decide) (by decide), hshort⟩
  · exact ⟨(authorizationSigned_encodes h).requireCanonical, rfl, rfl, rfl, rfl, matchesKey, hlong,
      signedBy _ 8 (authorization_encodes h)⟩

def operation (s : ReleaseSample) : AuthenticatedRuntimeReleaseOperationV1 where
  statement := s.statement
  operationHash := okValue (Bytes.zero 32) (canonicalHash s.statement)
  rightsRequestHash := s.rightsRequestHash
  rightsRequestReplayClaimKey :=
    okValue ⟨Bytes.zero 32, s.rightsNonce⟩ s.rightsRequest.replayClaimKey
  releaseRequestHash := s.releaseRequestHash
  releaseRequestReplayClaimKey :=
    okValue ⟨Bytes.zero 32, s.releaseNonce⟩ s.releaseRequest.replayClaimKey
  recipientAuthorizationHash := okValue (Bytes.zero 32) (canonicalHash s.authorization)
  custodyEpochIdentity := epochIdentity

theorem statement_encodes (h : s.Ok) : EncodesWithin s.statement 31000 :=
  RuntimeReleaseOperationStatementV1.encodes
    (RuntimeReleaseOperationStatementV1.validate_eq_ok.mpr (statement_valid h))

theorem signed_encodes (h : s.Ok) : EncodesWithin s.signed 31148 :=
  SignedRuntimeReleaseOperationV1.encodes (signed_valid (statement_encodes h) 6)

/-- **The operation verifies** as long as it is in force. -/
theorem signed_verify (h : s.Ok) (hstart : s.start.toNat ≤ now.toNat + 5)
    (hend : now.toNat < s.start.toNat + s.lifetime.toNat) :
    s.signed.verify (seedKey _ 6) now = .ok s.operation := by
  have hlifetime := h.lifetime.2
  rw [UInt64.le_iff_toNat_le] at hlifetime
  have h60 : (60 : UInt64).toNat = 60 := rfl
  have hscope : EncodesWithin (⟨s.binding, .view, recipient⟩ : RightsAuthorityScopeV1) 1409 :=
    RightsAuthorityScopeV1.encodes (bind_eq_ok.mpr ⟨(), binding_canonical h, recipient_canonical⟩)
  have hreleaseScope : EncodesWithin
      (⟨s.binding, s.rightsRequestHash, .view, recipient⟩ : ReleaseAuthorityScopeV1) 1441 :=
    ReleaseAuthorityScopeV1.encodes (bind_eq_ok.mpr ⟨(), binding_canonical h, recipient_canonical⟩)
  obtain ⟨scopeHash, hscopeHash⟩ := hscope.canonicalHash
  obtain ⟨releaseScopeHash, hreleaseScopeHash⟩ := hreleaseScope.canonicalHash
  refine SignedRuntimeReleaseOperationV1.verify_eq_ok.mpr
    { canonical := (signed_encodes h).requireCanonical, active := ?_, issuer := rfl,
      signed := signedBy _ 6 (statement_encodes h), statementEq := rfl,
      statement := ⟨_, RuntimeReleaseOperationStatementV1.verify_eq_ok.mp
        (statement_verify h hstart (by omega)), rfl, rfl⟩,
      operationHash := eq_okValue _ (statement_encodes h).canonicalHash,
      rightsRequestHash := rightsRequestHash_eq h,
      rightsKey := eq_okValue _ ⟨_, bind_eq_ok.mpr ⟨_, hscopeHash, rfl⟩⟩,
      releaseKey := eq_okValue _ ⟨_, bind_eq_ok.mpr ⟨_, hreleaseScopeHash, rfl⟩⟩,
      authorizationHash := eq_okValue _ (authorization_encodes h).canonicalHash }
  exact window_active h (UInt64.le_trans h.lifetime.2 (by decide)) hstart hend

/-! What the nodes answer. -/

def decision (s : ReleaseSample) (seed : UInt8) (decision : RightsDecisionV1) :
    SignedNodeRightsDecisionV1 where
  statement :=
    { releaseRequestHash := s.releaseRequestHash, rightsRequestHash := s.rightsRequestHash,
      binding := s.binding, action := .view, nodePublicKey := seedKey _ seed, decision,
      evidenceHash := Bytes.zero 32, issuedAt := s.start, expiresAt := s.start + 60 }
  signature := signatureOf seed

def contribution (s : ReleaseSample) (seed : UInt8) (sealedBytes : List UInt8) :
    SignedNodeContributionV1 where
  statement :=
    { releaseRequestHash := s.releaseRequestHash, binding := s.binding,
      signedRightsDecision := s.decision seed .allowed,
      recipientSealedContribution := ⟨recipient, sealedBytes⟩, issuedAt := s.start,
      expiresAt := s.start + 60 }
  signature := signatureOf seed

theorem decisionStatement_encodes (h : s.Ok) (seed : UInt8) (d : RightsDecisionV1) :
    EncodesWithin (s.decision seed d).statement 1342 :=
  NodeRightsDecisionStatementV1.encodes <| bind_eq_ok.mpr ⟨(), binding_canonical h, bind_eq_ok.mpr
    ⟨(), Checked.recheck_eq _, window_valid h _ (by decide) (by decide) (by decide)⟩⟩

theorem decision_encodes (h : s.Ok) (seed : UInt8) (d : RightsDecisionV1) :
    EncodesWithin (s.decision seed d) 1490 :=
  SignedNodeRightsDecisionV1.encodes (signed_valid (decisionStatement_encodes h seed d) seed)

variable {sealedBytes : List UInt8}

theorem contributionStatement_encodes (h : s.Ok) (seed : UInt8) (hne : sealedBytes ≠ [])
    (hlen : sealedBytes.length ≤ 16384) :
    EncodesWithin (s.contribution seed sealedBytes).statement 19416 := by
  have hsealed : EncodesWithin (⟨recipient, sealedBytes⟩ : RecipientSealedContributionV1) 16678 :=
    RecipientSealedContributionV1.encodes <| bind_eq_ok.mpr
      ⟨(), recipient_canonical, rejectIf_eq_ok.mpr (not_or.mpr ⟨hne, Nat.not_lt.mpr hlen⟩)⟩
  exact NodeContributionStatementV1.encodes <| bind_eq_ok.mpr ⟨(), binding_canonical h,
    bind_eq_ok.mpr ⟨(), (decision_encodes h seed .allowed).requireCanonical, bind_eq_ok.mpr
      ⟨(), hsealed.requireCanonical, window_valid h _ (by decide) (by decide) (by decide)⟩⟩⟩

theorem contribution_encodes (h : s.Ok) (seed : UInt8) (hne : sealedBytes ≠ [])
    (hlen : sealedBytes.length ≤ 16384) : EncodesWithin (s.contribution seed sealedBytes) 19564 :=
  SignedNodeContributionV1.encodes
    (signed_valid (contributionStatement_encodes h seed hne hlen) seed)

def verifiedDecision (s : ReleaseSample) (seed : UInt8) (d : RightsDecisionV1) :
    VerifiedNodeRightsDecisionV1 :=
  (s.decision seed d).toVerified (tailDigest (signatureOf seed))

def verifiedContribution (s : ReleaseSample) (seed : UInt8) (sealedBytes : List UInt8) :
    VerifiedNodeContributionV1 :=
  (s.contribution seed sealedBytes).toVerified (s.verifiedDecision seed .allowed)
    (tailDigest (signatureOf seed))

theorem decision_verified (h : s.Ok) (hseed : seed = 1 ∨ seed = 2 ∨ seed = 3) (d : RightsDecisionV1)
    (hstart : s.start.toNat ≤ now.toNat + 5) (hend : now.toNat < s.start.toNat + 60) :
    (s.decision seed d).Verified s.verifiedStatement.release nodeSet now where
  canonical := (decision_encodes h seed d).requireCanonical
  nodeSetId := nodeSetId_eq
  threshold := rfl
  member := by
    obtain rfl | rfl | rfl := hseed
    · exact .head _
    · exact .tail _ (.head _)
    · exact .tail _ (.tail _ (.head _))
  releaseRequestHash := rfl
  rightsRequestHash := rfl
  binding := rfl
  action := rfl
  within := .refl _
  active := window_active h (by decide) hstart hend
  signed := signedBy _ seed (decisionStatement_encodes h seed d)

theorem contribution_verify (h : s.Ok) (hseed : seed = 1 ∨ seed = 2 ∨ seed = 3)
    (hne : sealedBytes ≠ []) (hlen : sealedBytes.length ≤ 16384)
    (hstart : s.start.toNat ≤ now.toNat + 5) (hend : now.toNat < s.start.toNat + 60) :
    s.operation.verifyNodeContribution (s.contribution seed sealedBytes) nodeSet now =
      .ok (s.verifiedContribution seed sealedBytes) := by
  have hencodes := contribution_encodes h seed hne hlen
  refine bind_eq_ok.mpr ⟨_, mapError_eq_ok.mpr (statement_verify h hstart hend),
    SignedNodeContributionV1.verify_eq_ok.mpr ⟨?_, _,
      canonicalHash_signed (decision_encodes h seed .allowed) rfl, _,
      canonicalHash_signed hencodes rfl, rfl⟩⟩
  exact
    { canonical := hencodes.requireCanonical, releaseRequestHash := rfl, binding := rfl,
      recipient := rfl, decision := decision_verified h hseed .allowed hstart hend, allowed := rfl,
      withinRequest := .refl _, active := window_active h (by decide) hstart hend,
      withinDecision := .refl _,
      signed := signedBy _ seed (contributionStatement_encodes h seed hne hlen) }

/-! What settles them. -/

/-- The reference to a node's contribution: it does not depend on the sample. -/
def contributionRef (seed : UInt8) (sealedBytes : List UInt8) : NodeContributionRefV1 where
  nodePublicKey := seedKey _ seed
  decisionHash := tailDigest (signatureOf seed)
  contributionHash := tailDigest (signatureOf seed)
  contributionCommitment := tailDigest sealedBytes

def refs : List NodeContributionRefV1 := [contributionRef 1 [1], contributionRef 2 [2]]

theorem refs_ascending : Ascending NodeContributionRefV1.order refs := by decide

theorem refs_distinct : TerminalReceiptStatementV1.DistinctRefs refs := by decide

variable (s : ReleaseSample)

def settled : List VerifiedNodeContributionV1 :=
  [s.verifiedContribution 1 [1], s.verifiedContribution 2 [2]]

def receipt : SignedTerminalReceiptV1 where
  statement :=
    { releaseRequestHash := s.releaseRequestHash, binding := s.binding, issuer := seedKey _ 5,
      outcome := .released, contributionRefs := refs, issuedAt := s.start,
      expiresAt := s.start + 60 }
  signature := signatureOf 5

variable {s}

theorem receiptStatement_valid (h : s.Ok) : s.receipt.statement.validate = .ok () :=
  bind_eq_ok.mpr ⟨(), binding_canonical h, bind_eq_ok.mpr ⟨(), Checked.recheck_eq _,
    bind_eq_ok.mpr ⟨(), window_valid h _ (by decide) (by decide) (by decide), bind_eq_ok.mpr
      ⟨(), rejectIf_eq_ok.mpr
        (not_or.mpr ⟨not_not.mpr refs_ascending, show ¬(3 : UInt8).toNat < 2 by decide⟩),
        bind_eq_ok.mpr ⟨(), rejectIf_eq_ok.mpr (not_not.mpr refs_distinct), rfl⟩⟩⟩⟩⟩

theorem receipt_verify (h : s.Ok) (hstart : s.start.toNat ≤ now.toNat + 5)
    (hend : now.toNat < s.start.toNat + 60) :
    s.operation.verifyTerminalReceipt s.receipt s.settled (seedKey _ 5) now = .ok () := by
  have hstatement := TerminalReceiptStatementV1.encodes (receiptStatement_valid h)
  have hsorted : sortByKey NodeContributionRefV1.order (s.settled.map (·.toRef)) = refs :=
    refs_ascending.sortByKey_eq
  refine bind_eq_ok.mpr ⟨_, mapError_eq_ok.mpr (statement_verify h hstart hend),
    SignedTerminalReceiptV1.verify_eq_ok.mpr ?_⟩
  exact
    { canonical := (SignedTerminalReceiptV1.encodes (signed_valid hstatement 5)).requireCanonical,
      issuer := rfl, releaseRequestHash := rfl, binding := rfl, withinRequest := .refl _,
      active := window_active h (by decide) hstart hend,
      contributionHash := by
        rintro c (_ | ⟨_, _ | ⟨_, ⟨⟩⟩⟩) <;> rfl
      recipient := by
        rintro c (_ | ⟨_, _ | ⟨_, ⟨⟩⟩⟩) <;> rfl
      withinContribution := by
        rintro c (_ | ⟨_, _ | ⟨_, ⟨⟩⟩⟩) <;> exact .refl _
      refs := hsorted, released := by rw [hsorted]; rfl,
      signed := signedBy _ 5 hstatement }

/-- A release whose two requests carry different nonces. -/
def sample : ReleaseSample where
  envelopeSha256 := Bytes.zero 32
  envelopeBytes := 1
  start := 100
  lifetime := 60
  rightsNonce := ⟨1 :: List.replicate 15 0, rfl⟩
  releaseNonce := ⟨2 :: List.replicate 15 0, rfl⟩
  auditRequestId := ⟨⟨1 :: List.replicate 31 0, rfl⟩, by decide⟩

theorem sample_ok : sample.Ok := by decide

theorem release_chain_sample :
    SameRelease sample.signed.statement (sample.contribution 1 [1]).statement
        sample.receipt.statement nodeSet ∧
      (ReleaseWindows.of sample.signed.statement (sample.contribution 1 [1]).statement
        sample.receipt.statement).Nested ∧
        (ReleaseWindows.of sample.signed.statement (sample.contribution 1 [1]).statement
          sample.receipt.statement).Active 95 ∧
          OwnNonces sample.signed.statement sample.operation :=
  release_chain (signed_verify sample_ok (by decide) (by decide))
    (contribution_verify sample_ok (.inl rfl) (by decide) (by decide) (by decide) (by decide))
    (List.mem_cons_self) (receipt_verify sample_ok (by decide) (by decide))

/-- **The nonces of one release differ**: everything verifies, and the wallet's request and the
release request carry two nonces. -/
theorem release_nonces_differ :
    (sample.signed.verify (seedKey _ 6) 95 = .ok sample.operation ∧
      sample.operation.verifyNodeContribution (sample.contribution 1 [1]) nodeSet 95 =
          .ok (sample.verifiedContribution 1 [1]) ∧
        sample.verifiedContribution 1 [1] ∈ sample.settled ∧
          sample.operation.verifyTerminalReceipt sample.receipt sample.settled (seedKey _ 5) 95 =
            .ok ()) ∧
      sample.signed.statement.rightsRequest.request.replayNonce ≠
        sample.signed.statement.releaseRequest.replayNonce := by
  refine ⟨⟨signed_verify sample_ok (by decide) (by decide), ?_, List.mem_cons_self,
    receipt_verify sample_ok (by decide) (by decide)⟩, ?_⟩
  · exact contribution_verify sample_ok (.inl rfl) (by decide) (by decide) (by decide) (by decide)
  · show sample.rightsNonce ≠ sample.releaseNonce
    decide

end

end ReleaseSample
end ElastosRuntime.Contracts
