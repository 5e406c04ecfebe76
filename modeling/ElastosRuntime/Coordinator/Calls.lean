/-
# The calls of the release coordinator

`RuntimeReleaseCoordinator` (`coordinator.rs`) takes a signed operation and the wallet exchange it
rests on, writes it to the journal before any provider hears of it, asks the providers of the
selected nodes for their decisions and then for their contributions, and hands what it got to
`reconcile`, which checks it once more and settles the record.

Each public function is a `Program` whose operations are the calls of the journal, the requests to
the providers and the readings of the clock; what a provider answers and what the clock shows is up
to the environment.  Several calls may be in progress on one journal (`System`), of one coordinator
or of several with different providers.
-/
import ElastosRuntime.Coordinator.Providers
import ElastosRuntime.Journal.Lifecycle
import ElastosRuntime.Lib.Program

namespace ElastosRuntime.ReleaseCoordinator

open Codec Contracts ReleaseJournal Program

/-! ## 1. Errors and outcomes -/

inductive RuntimeReleaseCoordinatorError where
  | walletAuthority
  | operationAuthority
  | providerSelection
  | providerResult
  | reconciliation
  | journal
deriving DecidableEq, Repr

inductive RuntimeReleaseNonterminalReason where
  | providerEffectAlreadyStarted
  | providerEffectUncertain
deriving DecidableEq, Repr

inductive StartedOperationResolutionMode where
  | initialDispatch
  | exactResume
deriving DecidableEq, Repr

/-- `map_err(|_| e)` -/
def orElse {ε α : Type} (e : RuntimeReleaseCoordinatorError) (x : Except ε α) :
    Except RuntimeReleaseCoordinatorError α := x.mapError fun _ => e

@[simp] theorem orElse_ok {ε α : Type} (e : RuntimeReleaseCoordinatorError) (a : α) :
    orElse e (.ok a : Except ε α) = .ok a := rfl

@[simp] theorem orElse_eq_ok {ε α : Type} {e : RuntimeReleaseCoordinatorError} {x : Except ε α}
    {a : α} : orElse e x = .ok a ↔ x = .ok a := mapError_eq_ok

section

variable [Curves]

inductive RuntimeReleaseCoordinatorOutcome where
  | terminal (result : RuntimeReleaseTerminalResult)
  | nonterminal (operationHash : Digest32) (reason : RuntimeReleaseNonterminalReason)

inductive RuntimeReleaseReconcileOffer where
  | rightsDenied (signedNodeRightsDecision : SignedNodeRightsDecisionV1)
  | contributionsReady (signedNodeContributions : List SignedNodeContributionV1)

def offerToTerminal : RuntimeReleaseReconcileOffer → RuntimeReleaseTerminalResult
  | .rightsDenied decision => .rightsDenied decision
  | .contributionsReady contributions => .contributionsReady contributions

structure StartedOperationCollection where
  offer : Option RuntimeReleaseReconcileOffer
  replayableRightsDecisions : List SignedNodeRightsDecisionV1

/-! ## 2. The wallet's side -/

/-- The result of a rights signature, as the wallet reports it. -/
structure ProtectedContentRightsSignatureResultV1 where
  accountId : String
  signer : String
  walletSignedRightsRequest : List UInt8

/-- What the wallet contract decodes (`elastos-wallet-contract`, JSON): its requests at a time, its
responses for a request, the account and the canonical rights request of a signature request, and
the result that an `ok` response carries, once it has passed its own check. -/
class WalletProtocol where
  Request : Type
  Response : Type
  decodeAt : List UInt8 → UInt64 → Option Request
  decodeForRequest : List UInt8 → Request → Option Response
  rightsSignatureRequest : Request → Option (String × List UInt8)
  rightsSignatureResult : Response → Option ProtectedContentRightsSignatureResultV1

def hexDigit (n : Nat) : Char := "0123456789abcdef".toList.getD n '0'

def walletAddressHex (wallet : WalletAddress) : String :=
  "0x" ++ String.ofList
    (wallet.toList.flatMap fun b => [hexDigit (b.toNat / 16), hexDigit (b.toNat % 16)])

section

variable [WalletProtocol]

open WalletProtocol

def validateWalletRightsSignature (walletRequest : Request) (walletResponse : Response)
    (expectedRightsRequest : RightsRequestV1) :
    Except RuntimeReleaseCoordinatorError WalletSignedRightsRequestV1 := do
  let (accountId, bytes) ← okOr (rightsSignatureRequest walletRequest) .walletAuthority
  let rightsRequest : RightsRequestV1 ← orElse .walletAuthority (fromCanonicalBytes bytes)
  failIf (rightsRequest ≠ expectedRightsRequest) .walletAuthority
  let result ← okOr (rightsSignatureResult walletResponse) .walletAuthority
  failIf (result.accountId ≠ accountId) .walletAuthority
  failIf (result.signer ≠ walletAddressHex expectedRightsRequest.binding.wallet) .walletAuthority
  let resultSignedRights : WalletSignedRightsRequestV1 ←
    orElse .walletAuthority (fromCanonicalBytes result.walletSignedRightsRequest)
  failIf (resultSignedRights.request ≠ expectedRightsRequest) .walletAuthority
  pure resultSignedRights

def validateWalletReleaseBinding (walletRequest : Request) (walletResponse : Response)
    (signedRuntimeReleaseOperation : SignedRuntimeReleaseOperationV1) :
    Except RuntimeReleaseCoordinatorError Unit := do
  let signedRights := signedRuntimeReleaseOperation.statement.rightsRequest
  let resultSignedRights ←
    validateWalletRightsSignature walletRequest walletResponse signedRights.request
  failIf (resultSignedRights ≠ signedRights) .walletAuthority

/-- How `release` starts: the wallet exchange is decoded and bound to the operation. -/
def validateWalletExchange (walletRequestBytes walletResponseBytes : List UInt8)
    (signedRuntimeReleaseOperation : SignedRuntimeReleaseOperationV1) (now : UInt64) :
    Except RuntimeReleaseCoordinatorError Unit := do
  let walletRequest ← okOr (decodeAt walletRequestBytes now) .walletAuthority
  let walletResponse ← okOr (decodeForRequest walletResponseBytes walletRequest) .walletAuthority
  validateWalletReleaseBinding walletRequest walletResponse signedRuntimeReleaseOperation

end

/-! ## 3. What the coordinator does to the world -/

inductive CoordinatorOp where
  | journal (call : JournalCall)
  | evaluateRights (node : NodePublicKey) (request : RightsProviderRequestV1)
  | releaseContribution (node : NodePublicKey) (request : CustodyProviderRequestV1)
  | clock

namespace CoordinatorOp

/-- A provider that does not answer is an error without a content. -/
def Reply : CoordinatorOp → Type
  | journal _ => Except RuntimeReleaseJournalError PersistedRuntimeReleaseOperation
  | evaluateRights _ _ => Except Unit RightsProviderResponseV1
  | releaseContribution _ _ => Except Unit CustodyProviderResponseV1
  | clock => UInt64

end CoordinatorOp

abbrev CoordinatorProgram (α : Type) :=
  Program CoordinatorOp CoordinatorOp.Reply RuntimeReleaseCoordinatorError α

/-- `?` on a call of the journal -/
def callJournal (call : JournalCall) : CoordinatorProgram PersistedRuntimeReleaseOperation := do
  let reply ← ask (CoordinatorOp.journal call)
  lift (orElse .journal reply)

def loadError : RuntimeReleaseJournalError → RuntimeReleaseCoordinatorError
  | .notFound => .reconciliation
  | _ => .journal

/-- How `resume_exact` and `reconcile` start. -/
def loadRecord (operationHash : Digest32) :
    CoordinatorProgram PersistedRuntimeReleaseOperation := do
  let reply ← ask (CoordinatorOp.journal (.load operationHash))
  lift (Except.mapError loadError reply)

structure RuntimeReleaseCoordinator where
  expectedRuntimeIssuer : RuntimeOperationIssuerKeyV1
  selectedProviders : List NodePublicKey
  responseClock : Bool
  distinct : selectedProviders.Nodup

structure StartedOperationContext where
  draft : RuntimeReleaseOperationDraft
  signedRuntimeReleaseOperation : SignedRuntimeReleaseOperationV1
  authenticated : AuthenticatedRuntimeReleaseOperationV1
  orderedProviders : List NodePublicKey
  replayableRightsDecisions : List SignedNodeRightsDecisionV1
  now : UInt64
  mode : StartedOperationResolutionMode

/-- The node set of an operation, as the coordinator's functions find it. -/
def operationNodeSet (authenticated : AuthenticatedRuntimeReleaseOperationV1) :
    Except RuntimeReleaseCoordinatorError NodeSetV1 :=
  orElse .operationAuthority authenticated.statement.custodyEpoch.statement.nodeSet

def StartedOperationContext.threshold (context : StartedOperationContext) :
    Except RuntimeReleaseCoordinatorError Nat := do
  let nodeSet ← operationNodeSet context.authenticated
  pure nodeSet.threshold.required.toNat

/-- What came of asking one provider: the walk ends, goes on without it, or has its document. -/
inductive ProviderAnswer (α : Type) where
  | stop
  | skip
  | document (value : α)

/-- A response that does not stand the check. -/
def rejectedResponse {α : Type} :
    StartedOperationResolutionMode → CoordinatorProgram (ProviderAnswer α)
  | .initialDispatch => pure .stop
  | .exactResume => lift (.error .providerResult)

/-- A provider that does not answer. -/
def unanswered {α : Type} :
    StartedOperationResolutionMode → CoordinatorProgram (ProviderAnswer α)
  | .initialDispatch => pure .stop
  | .exactResume => pure .skip

/-! ## 4. Checks -/

section

variable [Crypto] [WalletCurve]

/-- The loop of `exact_threshold_contributions`. -/
def verifyDistinct (authenticated : AuthenticatedRuntimeReleaseOperationV1) (nodeSet : NodeSetV1)
    (now : UInt64) (seen : List NodePublicKey) : List SignedNodeContributionV1 →
      Except RuntimeReleaseCoordinatorError (List SignedNodeContributionV1)
  | [] => pure []
  | contribution :: contributions => do
    let verified ← orElse .providerResult
      (authenticated.verifyNodeContribution contribution nodeSet now)
    failIf (verified.nodePublicKey ∈ seen) RuntimeReleaseCoordinatorError.providerResult
    let rest ← verifyDistinct authenticated nodeSet now (verified.nodePublicKey :: seen)
      contributions
    pure (contribution :: rest)

def exactThresholdContributions (authenticated : AuthenticatedRuntimeReleaseOperationV1)
    (nodeSet : NodeSetV1) (contributions : List SignedNodeContributionV1) (now : UInt64) :
    Except RuntimeReleaseCoordinatorError (List SignedNodeContributionV1) := do
  failIf (contributions.length ≠ nodeSet.threshold.required.toNat)
    RuntimeReleaseCoordinatorError.providerResult
  verifyDistinct authenticated nodeSet now [] contributions

def validateContributionIdentity (authenticated : AuthenticatedRuntimeReleaseOperationV1)
    (nodeSet : NodeSetV1) (contribution : SignedNodeContributionV1) (expectedNode : NodePublicKey)
    (now : UInt64) : Except RuntimeReleaseCoordinatorError Unit := do
  let verified ← orElse .providerResult
    (authenticated.verifyNodeContribution contribution nodeSet now)
  failIf (verified.nodePublicKey ≠ expectedNode) RuntimeReleaseCoordinatorError.providerResult

namespace RuntimeReleaseCoordinator

omit [Crypto] [WalletCurve] in
def new (expectedRuntimeIssuer : RuntimeOperationIssuerKeyV1)
    (selectedProviders : List NodePublicKey) :
    Except RuntimeReleaseCoordinatorError RuntimeReleaseCoordinator :=
  if h : selectedProviders.Nodup then .ok ⟨expectedRuntimeIssuer, selectedProviders, false, h⟩
  else .error .providerSelection

omit [Crypto] [WalletCurve] in
def withResponseClock (c : RuntimeReleaseCoordinator) : RuntimeReleaseCoordinator :=
  { c with responseClock := true }

variable (c : RuntimeReleaseCoordinator)

omit [Crypto] [WalletCurve] in
/-- The time a response is checked at: the clock's, once there is one, but not before the call. -/
def responseValidationNow (operationNow : UInt64) : CoordinatorProgram UInt64 :=
  if c.responseClock then do
    let reading ← ask CoordinatorOp.clock
    pure (max (reading : UInt64) operationNow)
  else
    pure operationNow

omit [Crypto] [WalletCurve] in
def selectedOrderedProviders (authenticated : AuthenticatedRuntimeReleaseOperationV1) :
    Except RuntimeReleaseCoordinatorError (List NodePublicKey) := do
  let nodeSet ← operationNodeSet authenticated
  failIf (∃ provider ∈ c.selectedProviders, ¬nodeSet.contains provider)
    RuntimeReleaseCoordinatorError.providerSelection
  let selected := nodeSet.members.filter (· ∈ c.selectedProviders)
  failIf (selected.length < nodeSet.threshold.required.toNat)
    RuntimeReleaseCoordinatorError.providerSelection
  pure selected

/-! ## 5. Asking one provider -/

variable (context : StartedOperationContext) (nodeSet : NodeSetV1) (provider : NodePublicKey)

/-- The body of the loop of `collect_rights_decisions`, up to the verified decision. -/
def askForDecision (request : RightsProviderRequestV1) : CoordinatorProgram
    (ProviderAnswer (SignedNodeRightsDecisionV1 × VerifiedNodeRightsDecisionV1)) := do
  let reply ← ask (CoordinatorOp.evaluateRights provider request)
  match (reply : Except Unit RightsProviderResponseV1) with
  | .error _ => unanswered context.mode
  | .ok response => do
    let validatedAt ← c.responseValidationNow context.now
    match response.validateAgainstRequestAt request validatedAt with
    | .error _ => rejectedResponse context.mode
    | .ok () =>
      match response.signedNodeRightsDecision with
      | .error _ => rejectedResponse context.mode
      | .ok decision => do
        let verifiedAt ← c.responseValidationNow context.now
        let verified ← lift (orElse .providerResult
          (context.authenticated.verifyNodeRightsDecision decision nodeSet verifiedAt))
        lift (failIf (verified.nodePublicKey ≠ provider)
          RuntimeReleaseCoordinatorError.providerResult)
        pure (.document (decision, verified))

/-- The body of the loop of `collect_contributions`, up to the verified contribution. -/
def askForContribution (request : CustodyProviderRequestV1) :
    CoordinatorProgram (ProviderAnswer SignedNodeContributionV1) := do
  let reply ← ask (CoordinatorOp.releaseContribution provider request)
  match (reply : Except Unit CustodyProviderResponseV1) with
  | .error _ => unanswered context.mode
  | .ok response => do
    let validatedAt ← c.responseValidationNow context.now
    match response.validateAgainstRequestAt request provider validatedAt with
    | .error _ => rejectedResponse context.mode
    | .ok () => do
      let contribution ← lift (orElse .providerResult response.signedNodeContribution)
      let verifiedAt ← c.responseValidationNow context.now
      lift (validateContributionIdentity context.authenticated nodeSet contribution provider
        verifiedAt)
      pure (.document contribution)

/-- The body of the loop of `persisted_rights_decisions_by_node`. -/
def recheckDecision (decision : SignedNodeRightsDecisionV1) :
    CoordinatorProgram VerifiedNodeRightsDecisionV1 := do
  let verifiedAt ← c.responseValidationNow context.now
  let verified ← lift (orElse .providerResult
    (context.authenticated.verifyNodeRightsDecision decision nodeSet verifiedAt))
  lift (failIf (verified.decision ≠ .allowed) RuntimeReleaseCoordinatorError.providerResult)
  lift (failIf (verified.nodePublicKey ∉ context.orderedProviders)
    RuntimeReleaseCoordinatorError.providerResult)
  pure verified

/-! ## 6. Walking over the providers -/

abbrev DecisionsByNode := Table NodePublicKey SignedNodeRightsDecisionV1

def recheckDecisions : List SignedNodeRightsDecisionV1 → DecisionsByNode →
    CoordinatorProgram DecisionsByNode
  | [], persistedByNode => pure persistedByNode
  | decision :: decisions, persistedByNode => do
    let verified ← c.recheckDecision context nodeSet decision
    lift (failIf (verified.nodePublicKey ∈ persistedByNode)
      RuntimeReleaseCoordinatorError.providerResult)
    recheckDecisions decisions (persistedByNode.insert verified.nodePublicKey decision)

def persistedRightsDecisionsByNode : CoordinatorProgram DecisionsByNode := do
  lift (failIf (context.orderedProviders.length < context.replayableRightsDecisions.length)
    RuntimeReleaseCoordinatorError.providerResult)
  c.recheckDecisions context nodeSet context.replayableRightsDecisions ∅

/-- The loop of `collect_rights_decisions`. -/
def walkForDecisions (threshold : Nat) : List NodePublicKey → DecisionsByNode →
    List SignedNodeRightsDecisionV1 → CoordinatorProgram StartedOperationCollection
  | [], _, collected => pure ⟨none, collected⟩
  | provider :: providers, persistedByNode, collected =>
    if provider ∈ persistedByNode then
      walkForDecisions threshold providers persistedByNode collected
    else do
      let request ← lift (orElse .operationAuthority
        (RightsProviderRequestV1.newEvaluate provider context.signedRuntimeReleaseOperation))
      let answer ← c.askForDecision context nodeSet provider request
      match answer with
      | .stop => pure ⟨none, collected⟩
      | .skip => walkForDecisions threshold providers persistedByNode collected
      | .document (decision, verified) =>
        if verified.decision = .denied then
          pure ⟨some (.rightsDenied decision), collected⟩
        else do
          lift (failIf (provider ∈ persistedByNode) RuntimeReleaseCoordinatorError.providerResult)
          let persistedByNode := persistedByNode.insert provider decision
          let collected := collected ++ [decision]
          if Table.size persistedByNode = threshold then
            pure ⟨none, collected⟩
          else
            walkForDecisions threshold providers persistedByNode collected

def collectRightsDecisions : CoordinatorProgram StartedOperationCollection := do
  let nodeSet ← lift (operationNodeSet context.authenticated)
  let threshold ← lift context.threshold
  let persistedByNode ← c.persistedRightsDecisionsByNode context nodeSet
  if threshold ≤ Table.size persistedByNode then
    pure ⟨none, []⟩
  else
    c.walkForDecisions context nodeSet threshold context.orderedProviders persistedByNode []

/-- The loop of `collect_contributions`. -/
def walkForContributions (threshold : Nat) (persistedByNode : DecisionsByNode) :
    List NodePublicKey → List SignedNodeContributionV1 →
      CoordinatorProgram (Option RuntimeReleaseReconcileOffer)
  | [], _ => pure none
  | provider :: providers, contributions =>
    match persistedByNode.lookup provider with
    | none => walkForContributions threshold persistedByNode providers contributions
    | some decision => do
      let request ← lift (orElse .operationAuthority
        (CustodyProviderRequestV1.newReleaseContribution context.signedRuntimeReleaseOperation
          decision))
      let answer ← c.askForContribution context nodeSet provider request
      match answer with
      | .stop => pure none
      | .skip => walkForContributions threshold persistedByNode providers contributions
      | .document contribution =>
        let contributions := contributions ++ [contribution]
        if contributions.length = threshold then
          pure (some (.contributionsReady contributions))
        else
          walkForContributions threshold persistedByNode providers contributions

def collectContributions : CoordinatorProgram (Option RuntimeReleaseReconcileOffer) := do
  let nodeSet ← lift (operationNodeSet context.authenticated)
  let threshold ← lift context.threshold
  let persistedByNode ← c.persistedRightsDecisionsByNode context nodeSet
  c.walkForContributions context nodeSet threshold persistedByNode context.orderedProviders []

/-! ## 7. The calls -/

/-- What `reconcile` makes of an offer, once the record is open. -/
def checkOffer (authenticated : AuthenticatedRuntimeReleaseOperationV1) (nodeSet : NodeSetV1)
    (now : UInt64) : RuntimeReleaseReconcileOffer →
      CoordinatorProgram RuntimeReleaseTerminalResult
  | .rightsDenied decision => do
    let verifiedAt ← c.responseValidationNow now
    let verified ← lift (orElse .providerResult
      (authenticated.verifyNodeRightsDecision decision nodeSet verifiedAt))
    lift (failIf (verified.decision ≠ .denied) RuntimeReleaseCoordinatorError.providerResult)
    pure (.rightsDenied decision)
  | .contributionsReady contributions => do
    let verifiedAt ← c.responseValidationNow now
    let contributions ← lift
      (exactThresholdContributions authenticated nodeSet contributions verifiedAt)
    pure (.contributionsReady contributions)

def reconcile (operationHash : Digest32) (offer : RuntimeReleaseReconcileOffer) (now : UInt64) :
    CoordinatorProgram RuntimeReleaseCoordinatorOutcome := do
  let persisted ← loadRecord operationHash
  let draft := persisted.draft
  let draftHash ← lift (orElse .journal draft.operationHash)
  lift (failIf (draftHash ≠ operationHash) RuntimeReleaseCoordinatorError.reconciliation)
  match persisted.terminalResult with
  | some terminal => do
    lift (failIf (offerToTerminal offer ≠ terminal) RuntimeReleaseCoordinatorError.reconciliation)
    pure (.terminal terminal)
  | none => do
    lift (failIf (¬persisted.providerEffectStarted) RuntimeReleaseCoordinatorError.reconciliation)
    let authenticated ← lift (orElse .operationAuthority
      (draft.signedRuntimeReleaseOperation.verify c.expectedRuntimeIssuer now))
    let nodeSet ← lift (operationNodeSet authenticated)
    let terminal ← c.checkOffer authenticated nodeSet now offer
    let persisted ← callJournal (.markTerminal draft terminal)
    let terminal ← lift (okOr persisted.terminalResult .journal)
    pure (.terminal terminal)

def resolveStartedOperation (operationHash : Digest32) :
    CoordinatorProgram RuntimeReleaseCoordinatorOutcome := do
  let collection ← c.collectRightsDecisions context
  match collection.offer with
  | some offer => c.reconcile operationHash offer context.now
  | none => do
    let persistedDecisions ←
      if collection.replayableRightsDecisions = [] then
        pure context.replayableRightsDecisions
      else do
        let persisted ← callJournal (.persistReplayableRightsDecisions context.draft
          collection.replayableRightsDecisions)
        pure persisted.replayableRightsDecisions
    let threshold ← lift context.threshold
    if persistedDecisions.length < threshold then
      pure (.nonterminal operationHash .providerEffectUncertain)
    else do
      let offer ← c.collectContributions
        { context with replayableRightsDecisions := persistedDecisions }
      match offer with
      | none => pure (.nonterminal operationHash .providerEffectUncertain)
      | some offer => c.reconcile operationHash offer context.now

def release [WalletProtocol] (walletRequestBytes walletResponseBytes : List UInt8)
    (signedRuntimeReleaseOperation : SignedRuntimeReleaseOperationV1) (now : UInt64) :
    CoordinatorProgram RuntimeReleaseCoordinatorOutcome := do
  lift (validateWalletExchange walletRequestBytes walletResponseBytes
    signedRuntimeReleaseOperation now)
  let authenticated ← lift (orElse .operationAuthority
    (signedRuntimeReleaseOperation.verify c.expectedRuntimeIssuer now))
  let draft ← lift (orElse .journal (RuntimeReleaseOperationDraft.new walletRequestBytes
    walletResponseBytes signedRuntimeReleaseOperation))
  let persisted ← callJournal (.persistBeforeProviderEffect draft)
  match persisted.terminalResult with
  | some terminal => pure (.terminal terminal)
  | none =>
    if persisted.providerEffectStarted then do
      let operationHash ← lift (orElse .journal draft.operationHash)
      pure (.nonterminal operationHash .providerEffectAlreadyStarted)
    else do
      let orderedProviders ← lift (c.selectedOrderedProviders authenticated)
      let _ ← callJournal (.markProviderEffectStarted draft)
      let operationHash ← lift (orElse .journal draft.operationHash)
      c.resolveStartedOperation
        { draft, signedRuntimeReleaseOperation, authenticated, orderedProviders,
          replayableRightsDecisions := [], now, mode := .initialDispatch } operationHash

def resumeExact (operationHash : Digest32) (now : UInt64) :
    CoordinatorProgram RuntimeReleaseCoordinatorOutcome := do
  let persisted ← loadRecord operationHash
  match persisted.terminalResult with
  | some terminal => pure (.terminal terminal)
  | none => do
    lift (failIf (¬persisted.providerEffectStarted) RuntimeReleaseCoordinatorError.reconciliation)
    let draft := persisted.draft
    let draftHash ← lift (orElse .journal draft.operationHash)
    lift (failIf (draftHash ≠ operationHash) RuntimeReleaseCoordinatorError.reconciliation)
    let signedRuntimeReleaseOperation := draft.signedRuntimeReleaseOperation
    let authenticated ← lift (orElse .operationAuthority
      (signedRuntimeReleaseOperation.verify c.expectedRuntimeIssuer now))
    let orderedProviders ← lift (c.selectedOrderedProviders authenticated)
    c.resolveStartedOperation
      { draft, signedRuntimeReleaseOperation, authenticated, orderedProviders,
        replayableRightsDecisions := persisted.replayableRightsDecisions, now,
        mode := .exactResume } operationHash

end RuntimeReleaseCoordinator

/-! ## 8. The system -/

inductive CoordinatorRequest where
  | release (walletRequestBytes walletResponseBytes : List UInt8)
      (signedRuntimeReleaseOperation : SignedRuntimeReleaseOperationV1) (now : UInt64)
  | resumeExact (operationHash : Digest32) (now : UInt64)
  | reconcile (operationHash : Digest32) (offer : RuntimeReleaseReconcileOffer) (now : UInt64)

/-- A call of a coordinator. -/
structure CoordinatorCall where
  coordinator : RuntimeReleaseCoordinator
  request : CoordinatorRequest

def CoordinatorCall.program [WalletProtocol] (call : CoordinatorCall) :
    CoordinatorProgram RuntimeReleaseCoordinatorOutcome :=
  match call.request with
  | .release walletRequestBytes walletResponseBytes signedRuntimeReleaseOperation now =>
    call.coordinator.release walletRequestBytes walletResponseBytes signedRuntimeReleaseOperation
      now
  | .resumeExact operationHash now => call.coordinator.resumeExact operationHash now
  | .reconcile operationHash offer now => call.coordinator.reconcile operationHash offer now

/-- What the environment chooses when an operation is performed. -/
structure Choice where
  fate : Fate
  rights : Except Unit RightsProviderResponseV1
  custody : Except Unit CustodyProviderResponseV1
  clock : UInt64

/-- An operation of a coordinator on its journal. -/
def CoordinatorOp.handle : (op : CoordinatorOp) → Choice → Journal → op.Reply × Journal
  | .journal call, choice, J => J.call call choice.fate
  | .evaluateRights _ _, choice, J => (choice.rights, J)
  | .releaseContribution _ _, choice, J => (choice.custody, J)
  | .clock, choice, J => (choice.clock, J)

/-- The calls in progress on one journal. -/
abbrev System :=
  Pool CoordinatorOp CoordinatorOp.Reply RuntimeReleaseCoordinatorError
    RuntimeReleaseCoordinatorOutcome CoordinatorCall Journal

def System.step [WalletProtocol] (system : System) (label : PoolLabel CoordinatorCall Choice) :
    Option System :=
  Pool.step CoordinatorCall.program CoordinatorOp.handle system label

/-- A journal nobody is working on. -/
def System.idle (J : Journal) : System := ⟨J, []⟩

/-! ## 9. Rules -/

/-- An operation with its reply. -/
abbrev Event : Type := Σ op : CoordinatorOp, op.Reply

/-- A call of the journal that returned a record ... -/
def Event.answered (call : JournalCall) (v : PersistedRuntimeReleaseOperation) : Event :=
  ⟨.journal call, (.ok v : Except RuntimeReleaseJournalError _)⟩

/-- ... and one that did not. -/
def Event.refused (call : JournalCall) (e : RuntimeReleaseJournalError) : Event :=
  ⟨.journal call, (.error e : Except _ PersistedRuntimeReleaseOperation)⟩

section

variable {Valid : ∀ op, CoordinatorOp.Reply op → Prop}
  {Pre : History CoordinatorOp.Reply → CoordinatorOp → Prop} {β : Type}
  {Post : History CoordinatorOp.Reply → Except RuntimeReleaseCoordinatorError β → Prop}
  {h : History CoordinatorOp.Reply}

omit [Crypto] [WalletCurve]

theorem callJournal_bind (call : JournalCall)
    (f : PersistedRuntimeReleaseOperation → CoordinatorProgram β) :
    callJournal call >>= f = .perform (.journal call) fun reply =>
      lift (orElse .journal reply) >>= f := rfl

variable {f : PersistedRuntimeReleaseOperation → CoordinatorProgram β}

theorem obeys_callJournal {call : JournalCall} (hpre : Pre h (.journal call))
    (hok : ∀ v, Valid (.journal call) (.ok v : Except RuntimeReleaseJournalError _) → Obeys Valid
      Pre Post (h ++ [Event.answered call v]) (f v))
    (herror : ∀ e, Post (h ++ [Event.refused call e]) (.error .journal)) :
    Obeys Valid Pre Post h (callJournal call >>= f) := by
  refine ⟨hpre, fun reply hvalid => ?_⟩
  change Except RuntimeReleaseJournalError PersistedRuntimeReleaseOperation at reply
  cases reply with
  | ok v => exact hok v hvalid
  | error e => exact herror e

theorem obeys_loadRecord {operationHash : Digest32} (hpre : Pre h (.journal (.load operationHash)))
    (hok : ∀ v, Valid (.journal (.load operationHash)) (.ok v : Except RuntimeReleaseJournalError
      _) → Obeys Valid Pre Post (h ++ [Event.answered (.load operationHash) v]) (f v))
    (herror : ∀ e, Post (h ++ [Event.refused (.load operationHash) e]) (.error (loadError e))) :
    Obeys Valid Pre Post h (loadRecord operationHash >>= f) := by
  refine ⟨hpre, fun reply hvalid => ?_⟩
  change Except RuntimeReleaseJournalError PersistedRuntimeReleaseOperation at reply
  cases reply with
  | ok v => exact hok v hvalid
  | error e => exact herror e

theorem obeys_responseValidationNow {c : RuntimeReleaseCoordinator} {now : UInt64}
    {f : UInt64 → CoordinatorProgram β} (hpre : Pre h .clock)
    (hok : ∀ h' t, h <+: h' → Obeys Valid Pre Post h' (f t)) :
    Obeys Valid Pre Post h (c.responseValidationNow now >>= f) := by
  unfold RuntimeReleaseCoordinator.responseValidationNow
  split
  · exact ⟨hpre, fun reading _ => hok _ _ (List.prefix_append _ _)⟩
  · exact hok h now List.prefix_rfl

end

end

end

/-! ## 10. A call to evaluate the model with -/

section

attribute [local instance] acceptingCurves tailEchoCrypto constantWallet

open ReleaseSample

/-- A wallet whose every message belongs to the exchange of one sample. -/
@[reducible] def sampleExchange (s : ReleaseSample) : WalletProtocol where
  Request := Unit
  Response := Unit
  decodeAt := fun _ _ => some ()
  decodeForRequest := fun _ _ => some ()
  rightsSignatureRequest := fun _ => some ("account", okValue [] (canonicalBytes s.rightsRequest))
  rightsSignatureResult := fun _ => some ⟨"account", walletAddressHex s.binding.wallet,
    okValue [] (canonicalBytes s.statement.rightsRequest)⟩

/-- A coordinator with the three nodes of the samples for its providers. -/
def sampleCoordinator : RuntimeReleaseCoordinator where
  expectedRuntimeIssuer := seedKey _ 6
  selectedProviders := [seedKey _ 1, seedKey _ 2, seedKey _ 3]
  responseClock := false
  distinct := by decide

section

variable {s : ReleaseSample}

theorem sampleExchange_validates (h : s.Ok) (walletRequestBytes walletResponseBytes : List UInt8)
    (now : UInt64) :
    @validateWalletExchange _ (sampleExchange s) walletRequestBytes walletResponseBytes s.signed
      now = .ok () := by
  obtain ⟨_, _, bytes, hbytes, _⟩ := rightsRequest_encodes h
  obtain ⟨_, _, signedBytes, hsigned, _⟩ := wallet_encodes h
  have hrequest : fromCanonicalBytes (okValue [] (canonicalBytes s.rightsRequest)) =
      .ok s.rightsRequest := by
    rw [hbytes]
    exact fromCanonicalBytes_of_canonicalBytes hbytes
  have hresult : fromCanonicalBytes (okValue [] (canonicalBytes s.statement.rightsRequest)) =
      .ok s.statement.rightsRequest := by
    rw [hsigned]
    exact fromCanonicalBytes_of_canonicalBytes hsigned
  refine bind_eq_ok.mpr ⟨_, rfl, bind_eq_ok.mpr ⟨_, rfl, bind_eq_ok.mpr
    ⟨s.statement.rightsRequest, ?_, failIf_eq_ok.mpr (not_not.mpr rfl)⟩⟩⟩
  refine bind_eq_ok.mpr ⟨_, rfl, bind_eq_ok.mpr ⟨_, orElse_eq_ok.mpr hrequest, ?_⟩⟩
  refine bind_eq_ok.mpr ⟨(), failIf_eq_ok.mpr (not_not.mpr rfl), bind_eq_ok.mpr ⟨_, rfl, ?_⟩⟩
  refine bind_eq_ok.mpr ⟨(), failIf_eq_ok.mpr (not_not.mpr rfl), bind_eq_ok.mpr
    ⟨(), failIf_eq_ok.mpr (not_not.mpr rfl), bind_eq_ok.mpr ⟨_, orElse_eq_ok.mpr hresult, ?_⟩⟩⟩
  exact bind_eq_ok.mpr ⟨(), failIf_eq_ok.mpr (not_not.mpr rfl), rfl⟩

theorem sample_nodeSet : operationNodeSet s.operation = .ok nodeSet :=
  orElse_eq_ok.mpr epoch_nodeSet

theorem sample_orderedProviders : sampleCoordinator.selectedOrderedProviders s.operation =
    .ok sampleCoordinator.selectedProviders := by
  refine bind_eq_ok.mpr ⟨nodeSet, sample_nodeSet, bind_eq_ok.mpr ⟨(), ?_, ?_⟩⟩
  · exact failIf_eq_ok.mpr (by decide)
  · exact bind_eq_ok.mpr ⟨(), failIf_eq_ok.mpr (by decide), congrArg Except.ok (by decide)⟩

end

end

end ElastosRuntime.ReleaseCoordinator
