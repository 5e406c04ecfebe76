/-
# What a terminal result rests on

A record ends with a denial or with contributions, and with nothing else; `terminal_justified` says
what was checked before that happens, in every run of any number of calls of any coordinators on one
journal, whatever the providers answer.

A result that `release` or `resume_exact` settles has been preceded by the decisions of its nodes in
the journal, and no contribution is asked for before there are enough of them.  A caller may also
hand contributions to `reconcile` itself; they are checked in the same way, and each carries the
decision of its node, but no decision has to be in the journal (`reconciled_without_decisions`).
-/
import ElastosRuntime.Coordinator.Dispatch

namespace ElastosRuntime.ReleaseCoordinator

open Codec Contracts ReleaseJournal Program

section

variable [Curves] [Crypto] [WalletCurve]

/-! ## 1. Justified results -/

/-- The node a contribution is from. -/
def contributionNode (contribution : SignedNodeContributionV1) : NodePublicKey :=
  contribution.statement.signedRightsDecision.statement.nodePublicKey

/-- An operation that has been authenticated at some time, and its node set. -/
structure Authentic (signed : SignedRuntimeReleaseOperationV1)
    (operation : AuthenticatedRuntimeReleaseOperationV1) (nodeSet : NodeSetV1) : Prop where
  verified : ∃ issuer now, signed.verify issuer now = .ok operation
  nodeSet : operationNodeSet operation = .ok nodeSet

/-- A member's decision that has verified for the operation at some time. -/
def DecidedFor (signed : SignedRuntimeReleaseOperationV1) (answer : RightsDecisionV1)
    (decision : SignedNodeRightsDecisionV1) : Prop :=
  ∃ operation nodeSet now verified, Authentic signed operation nodeSet ∧
    operation.verifyNodeRightsDecision decision nodeSet now = .ok verified ∧
      decisionNode decision ∈ nodeSet.members ∧ verified.decision = answer

/-- **What a terminal result has to be**: a verified denial, or as many contributions as the threshold
requires, of different members of the node set, verified at one time. -/
inductive Justified (signed : SignedRuntimeReleaseOperationV1) : RuntimeReleaseTerminalResult → Prop
  | rightsDenied {decision : SignedNodeRightsDecisionV1}
      (hdecided : DecidedFor signed .denied decision) : Justified signed (.rightsDenied decision)
  | contributionsReady {contributions : List SignedNodeContributionV1}
      {operation : AuthenticatedRuntimeReleaseOperationV1} {nodeSet : NodeSetV1} {now : UInt64}
      (hauthentic : Authentic signed operation nodeSet)
      (hcount : contributions.length = nodeSet.threshold.required.toNat)
      (hdistinct : (contributions.map contributionNode).Nodup)
      (hmembers : ∀ c ∈ contributions, contributionNode c ∈ nodeSet.members)
      (hverified : ∀ c ∈ contributions, ∃ verified,
        operation.verifyNodeContribution c nodeSet now = .ok verified) :
      Justified signed (.contributionsReady contributions)

section

variable {operation : AuthenticatedRuntimeReleaseOperationV1} {nodeSet : NodeSetV1} {now : UInt64}

/-- A decision that verifies is a member's own. -/
theorem verified_decisionNode {decision : SignedNodeRightsDecisionV1}
    {verified : VerifiedNodeRightsDecisionV1}
    (h : operation.verifyNodeRightsDecision decision nodeSet now = .ok verified) :
    verified.nodePublicKey = decisionNode decision ∧ decisionNode decision ∈ nodeSet.members := by
  obtain ⟨_, _, h⟩ := bind_eq_ok.mp h
  obtain ⟨hverified, _, _, rfl⟩ := SignedNodeRightsDecisionV1.verify_eq_ok.mp h
  exact ⟨rfl, hverified.member⟩

theorem verified_contributionNode {contribution : SignedNodeContributionV1}
    {verified : VerifiedNodeContributionV1}
    (h : operation.verifyNodeContribution contribution nodeSet now = .ok verified) :
    verified.nodePublicKey = contributionNode contribution ∧
      contributionNode contribution ∈ nodeSet.members := by
  obtain ⟨_, _, h⟩ := bind_eq_ok.mp h
  obtain ⟨hverified, _, _, _, _, rfl⟩ := SignedNodeContributionV1.verify_eq_ok.mp h
  exact ⟨rfl, hverified.decision.member⟩

variable {contributions : List SignedNodeContributionV1}

variable {result : List SignedNodeContributionV1}

/-- What the loop of `exact_threshold_contributions` establishes. -/
theorem verifyDistinct_eq_ok :
    ∀ {seen : List NodePublicKey},
      verifyDistinct operation nodeSet now seen contributions = .ok result →
        result = contributions ∧ (contributions.map contributionNode).Nodup ∧
          ∀ c ∈ contributions, contributionNode c ∉ seen ∧ ∃ verified,
            operation.verifyNodeContribution c nodeSet now = .ok verified := by
  induction contributions generalizing result with
  | nil =>
    intro seen h
    cases h
    exact ⟨rfl, List.nodup_nil, fun _ hc => absurd hc List.not_mem_nil⟩
  | cons contribution contributions ih =>
    intro seen h
    obtain ⟨verified, hverified, h⟩ := bind_eq_ok.mp h
    obtain ⟨⟨⟩, hfresh, h⟩ := bind_eq_ok.mp h
    obtain ⟨rest, hrest, h⟩ := bind_eq_ok.mp h
    cases h
    obtain ⟨rfl, hnodup, hall⟩ := ih hrest
    rw [orElse_eq_ok] at hverified
    rw [failIf_eq_ok, (verified_contributionNode hverified).1] at hfresh
    rw [(verified_contributionNode hverified).1] at hall
    refine ⟨rfl, ?_, ?_⟩
    · rw [List.map_cons, List.nodup_cons]
      refine ⟨fun hmem => ?_, hnodup⟩
      obtain ⟨c, hc, hnode⟩ := List.mem_map.mp hmem
      exact (hall c hc).1 (hnode ▸ List.mem_cons_self)
    · intro c hc
      rcases List.mem_cons.mp hc with rfl | hc
      · exact ⟨hfresh, verified, hverified⟩
      · exact ⟨fun hseen => (hall c hc).1 (List.mem_cons_of_mem _ hseen), (hall c hc).2⟩

variable {signed : SignedRuntimeReleaseOperationV1}

theorem Authentic.justified (hauthentic : Authentic signed operation nodeSet)
    (h : exactThresholdContributions operation nodeSet contributions now = .ok result) :
    result = contributions ∧ Justified signed (.contributionsReady contributions) := by
  obtain ⟨⟨⟩, hcount, h⟩ := bind_eq_ok.mp h
  obtain ⟨rfl, hdistinct, hall⟩ := verifyDistinct_eq_ok h
  refine ⟨rfl, .contributionsReady hauthentic (not_not.mp (failIf_eq_ok.mp hcount)) hdistinct
    (fun c hc => ?_) fun c hc => (hall c hc).2⟩
  obtain ⟨_, verified, hverified⟩ := hall c hc
  exact (verified_contributionNode hverified).2

theorem Justified.exists_contribution (h : Justified signed (.contributionsReady contributions)) :
    ∃ c, c ∈ contributions := by
  cases h with
  | contributionsReady hauthentic hcount =>
    have htwo := operationNodeSet_required hauthentic.nodeSet
    exact List.exists_mem_of_length_pos (by omega)

end

/-! ## 2. The conditions -/

/-- A record of the operation that the journal has returned to the call. -/
def Seen (h : History CoordinatorOp.Reply) (draft : RuntimeReleaseOperationDraft)
    (v : PersistedRuntimeReleaseOperation) : Prop :=
  ∃ call, Event.answered call v ∈ h ∧ v.draft.operationHash = draft.operationHash

/-- Every contribution is from a node whose decision has been seen in a record of the operation. -/
def Backed (h : History CoordinatorOp.Reply) (draft : RuntimeReleaseOperationDraft) :
    RuntimeReleaseTerminalResult → Prop
  | .rightsDenied _ => True
  | .contributionsReady contributions => ∃ v, Seen h draft v ∧ ∀ c ∈ contributions,
      ∃ d ∈ v.replayableRightsDecisions, decisionNode d = contributionNode c

/-- A request for a contribution to an operation, after as many decisions as the threshold requires
have been seen in a record of it. -/
def Requested (h : History CoordinatorOp.Reply) (node : NodePublicKey)
    (request : CustodyProviderRequestV1) : Prop :=
  ∃ call v nodeSet, Event.answered call v ∈ h ∧
    request.signedRuntimeReleaseOperation.decode = .ok v.draft.signedRuntimeReleaseOperation ∧
      v.draft.signedRuntimeReleaseOperation.statement.custodyEpoch.statement.nodeSet =
          .ok nodeSet ∧
        nodeSet.threshold.required.toNat ≤ v.replayableRightsDecisions.length ∧
          ∃ d ∈ v.replayableRightsDecisions, decisionNode d = node ∧
            request.signedNodeRightsDecision.decode = .ok d

/-- The call is a `reconcile` of the operation, with this offer. -/
def CoordinatorCall.Offers (call : CoordinatorCall) (draft : RuntimeReleaseOperationDraft)
    (terminalResult : RuntimeReleaseTerminalResult) : Prop :=
  ∃ operationHash offer now, call.request = .reconcile operationHash offer now ∧
    draft.operationHash = .ok operationHash ∧ offerToTerminal offer = terminalResult

/-- What a call sees to before it stores decisions, stores a result or asks for a contribution. -/
def TerminalPre (call : CoordinatorCall) (h : History CoordinatorOp.Reply) : CoordinatorOp → Prop
  | .journal (.persistReplayableRightsDecisions draft decisions) =>
    ∀ d ∈ decisions, DecidedFor draft.signedRuntimeReleaseOperation .allowed d
  | .journal (.markTerminal draft terminalResult) =>
    Justified draft.signedRuntimeReleaseOperation terminalResult ∧
      (call.Offers draft terminalResult ∨ Backed h draft terminalResult)
  | .releaseContribution node request => Requested h node request
  | _ => True

/-- A reply of the journal is about the operation that it was asked about. -/
def ValidReply : ∀ op, CoordinatorOp.Reply op → Prop
  | .journal call, reply => ∀ v, reply = (.ok v : Except RuntimeReleaseJournalError _) →
      call.Answers v
  | _, _ => True

/-! ## 3. Every call meets them -/

/-- An operation that a coordinator has started to resolve. -/
structure Resolves (h : History CoordinatorOp.Reply) (context : StartedOperationContext)
    (operationHash : Digest32) : Prop where
  signed : context.draft.signedRuntimeReleaseOperation = context.signedRuntimeReleaseOperation
  hash : context.draft.operationHash = .ok operationHash
  verified : ∃ issuer now,
    context.signedRuntimeReleaseOperation.verify issuer now = .ok context.authenticated
  seen : context.replayableRightsDecisions ≠ [] → ∃ call v, Event.answered call v ∈ h ∧
    v.draft = context.draft ∧ v.replayableRightsDecisions = context.replayableRightsDecisions

theorem Resolves.mono {h h' : History CoordinatorOp.Reply}
    {context : StartedOperationContext} {operationHash : Digest32}
    (hcontext : Resolves h context operationHash) (hext : h <+: h') :
    Resolves h' context operationHash where
  signed := hcontext.signed
  hash := hcontext.hash
  verified := hcontext.verified
  seen hnonempty :=
    let ⟨call, v, hevent, hdraft, hdecisions⟩ := hcontext.seen hnonempty
    ⟨call, v, hext.subset hevent, hdraft, hdecisions⟩

/-- The decisions of a list, by their nodes. -/
def ByNode (decisions : List SignedNodeRightsDecisionV1)
    (table : RuntimeReleaseCoordinator.DecisionsByNode) : Prop :=
  ∀ node d, table.lookup node = some d → d ∈ decisions ∧ decisionNode d = node

namespace RuntimeReleaseCoordinator

variable {c : RuntimeReleaseCoordinator} {call : CoordinatorCall}
  {context : StartedOperationContext} {nodeSet : NodeSetV1} {operationHash : Digest32}
  {h : History CoordinatorOp.Reply}

theorem recheckDecision_ensures (decision : SignedNodeRightsDecisionV1) :
    Obeys ValidReply (TerminalPre call)
      (Ensures fun verified : VerifiedNodeRightsDecisionV1 =>
        verified.nodePublicKey = decisionNode decision) h
      (c.recheckDecision context nodeSet decision) := by
  refine obeys_responseValidationNow trivial fun h' t _ => ?_
  refine .liftEnsures fun verified hverified => .liftEnsures fun _ _ => .liftEnsures fun _ _ => ?_
  exact .returns (verified_decisionNode (orElse_eq_ok.mp hverified)).1

theorem recheckDecisions_ensures {all : List SignedNodeRightsDecisionV1} :
    ∀ {decisions : List SignedNodeRightsDecisionV1} {table : DecisionsByNode}
      {h : History CoordinatorOp.Reply}, (∀ d ∈ decisions, d ∈ all) → ByNode all table →
        Obeys ValidReply (TerminalPre call) (Ensures (ByNode all)) h
          (c.recheckDecisions context nodeSet decisions table) := by
  intro decisions
  induction decisions with
  | nil => exact fun _ htable => .returns htable
  | cons decision decisions ih =>
    intro table h hall htable
    refine .thenEnsures (recheckDecision_ensures decision) fun h' verified _ hnode => ?_
    refine .liftEnsures fun _ _ => ih (fun d hd => hall d (List.mem_cons_of_mem _ hd)) ?_
    intro node d hlookup
    by_cases hsame : node = verified.nodePublicKey
    · subst hsame
      rw [AList.lookup_insert] at hlookup
      obtain rfl := Option.some.inj hlookup
      exact ⟨hall decision List.mem_cons_self, hnode.symm⟩
    · rw [AList.lookup_insert_ne hsame] at hlookup
      exact htable node d hlookup

theorem persistedRightsDecisionsByNode_ensures :
    Obeys ValidReply (TerminalPre call) (Ensures (ByNode context.replayableRightsDecisions)) h
      (c.persistedRightsDecisionsByNode context nodeSet) :=
  .liftEnsures fun _ _ => recheckDecisions_ensures (fun _ hd => hd) fun _ _ hlookup => nomatch hlookup

/-- A walk goes on, or stops, without a document. -/
theorem unanswered_ensures {α : Type} {P : ProviderAnswer α → Prop}
    (hstop : P .stop) (hskip : P .skip) (mode : StartedOperationResolutionMode) :
    Obeys ValidReply (TerminalPre call) (Ensures P) h (unanswered mode) := by
  cases mode with
  | initialDispatch => exact .returns hstop
  | exactResume => exact .returns hskip

theorem rejectedResponse_ensures {α : Type} {P : ProviderAnswer α → Prop} (hstop : P .stop)
    (mode : StartedOperationResolutionMode) :
    Obeys ValidReply (TerminalPre call) (Ensures P) h (rejectedResponse mode) := by
  cases mode with
  | initialDispatch => exact .returns hstop
  | exactResume => exact .fails

theorem askForDecision_ensures {provider : NodePublicKey} {request : RightsProviderRequestV1} :
    Obeys ValidReply (TerminalPre call)
      (Ensures fun answer : ProviderAnswer
          (SignedNodeRightsDecisionV1 × VerifiedNodeRightsDecisionV1) =>
        ∀ decision verified, answer = .document (decision, verified) → ∃ now,
          context.authenticated.verifyNodeRightsDecision decision nodeSet now = .ok verified) h
      (c.askForDecision context nodeSet provider request) := by
  refine ⟨trivial, fun reply _ => ?_⟩
  change Except Unit RightsProviderResponseV1 at reply
  cases reply with
  | error => exact unanswered_ensures (fun _ _ => nofun) (fun _ _ => nofun) _
  | ok response =>
    refine obeys_responseValidationNow trivial fun h' validatedAt _ => ?_
    cases response.validateAgainstRequestAt request validatedAt with
    | error => exact rejectedResponse_ensures (fun _ _ => nofun) _
    | ok _ =>
      change Obeys _ _ _ _ (match response.signedNodeRightsDecision with | _ => _)
      cases response.signedNodeRightsDecision with
      | error => exact rejectedResponse_ensures (fun _ _ => nofun) _
      | ok decision =>
        refine obeys_responseValidationNow trivial fun h'' verifiedAt _ => ?_
        refine .liftEnsures fun verified hverified => .liftEnsures fun _ _ => .returns ?_
        rintro _ _ ⟨⟩
        exact ⟨verifiedAt, orElse_eq_ok.mp hverified⟩

theorem askForContribution_ensures {provider : NodePublicKey} {request : CustodyProviderRequestV1}
    (hrequested : Requested h provider request) :
    Obeys ValidReply (TerminalPre call)
      (Ensures fun answer : ProviderAnswer SignedNodeContributionV1 =>
        ∀ contribution, answer = .document contribution → contributionNode contribution = provider)
      h (c.askForContribution context nodeSet provider request) := by
  refine ⟨hrequested, fun reply _ => ?_⟩
  change Except Unit CustodyProviderResponseV1 at reply
  cases reply with
  | error => exact unanswered_ensures (fun _ => nofun) (fun _ => nofun) _
  | ok response =>
    refine obeys_responseValidationNow trivial fun h' validatedAt _ => ?_
    cases response.validateAgainstRequestAt request provider validatedAt with
    | error => exact rejectedResponse_ensures (fun _ => nofun) _
    | ok _ =>
      refine .liftEnsures fun contribution _ => obeys_responseValidationNow trivial
        fun h'' verifiedAt _ => .liftEnsures fun _ hidentity => .returns ?_
      rintro _ ⟨⟩
      obtain ⟨verified, hverified, hnode⟩ := bind_eq_ok.mp hidentity
      rw [orElse_eq_ok] at hverified
      rw [← (verified_contributionNode hverified).1]
      exact not_not.mp (failIf_eq_ok.mp hnode)

/-- **What is collected**: verified `Allowed` decisions, and an offer only for a verified denial. -/
structure Collected (signed : SignedRuntimeReleaseOperationV1)
    (collection : StartedOperationCollection) : Prop where
  decisions : ∀ d ∈ collection.replayableRightsDecisions, DecidedFor signed .allowed d
  offer : ∀ offer, collection.offer = some offer → ∃ d, offer = .rightsDenied d

variable {threshold : Nat}

variable {providers : List NodePublicKey}

theorem walkForDecisions_ensures
    (hauthentic : Authentic context.signedRuntimeReleaseOperation context.authenticated nodeSet) :
    ∀ {table : DecisionsByNode}
      {collected : List SignedNodeRightsDecisionV1} {h : History CoordinatorOp.Reply},
      (∀ d ∈ collected, DecidedFor context.signedRuntimeReleaseOperation .allowed d) →
        Obeys ValidReply (TerminalPre call)
          (Ensures (Collected context.signedRuntimeReleaseOperation)) h
          (c.walkForDecisions context nodeSet threshold providers table collected) := by
  induction providers with
  | nil => exact fun hcollected => .returns ⟨hcollected, fun _ h => by cases h⟩
  | cons provider providers ih =>
    intro table collected h hcollected
    rw [walkForDecisions]
    split
    · exact ih hcollected
    · refine .liftEnsures fun request _ => ?_
      refine .thenEnsures askForDecision_ensures fun h' answer _ hanswer => ?_
      cases answer with
      | stop => exact .returns ⟨hcollected, fun _ h => by cases h⟩
      | skip => exact ih hcollected
      | document document =>
        obtain ⟨decision, verified⟩ := document
        obtain ⟨now, hverified⟩ := hanswer decision verified rfl
        change Obeys _ _ _ _ (if _ then _ else _)
        split
        · exact .returns ⟨hcollected, fun offer hoffer => ⟨decision, (Option.some.inj hoffer).symm⟩⟩
        · next hanswered =>
          have hallowed : verified.decision = .allowed := by
            cases hdecision : verified.decision with
            | allowed => rfl
            | denied => exact absurd hdecision hanswered
          have hdecided : DecidedFor context.signedRuntimeReleaseOperation .allowed decision :=
            ⟨_, _, now, verified, hauthentic, hverified, (verified_decisionNode hverified).2,
              hallowed⟩
          have hcollected' : ∀ d ∈ collected ++ [decision],
              DecidedFor context.signedRuntimeReleaseOperation .allowed d := fun d hd =>
            (List.mem_append.mp hd).elim (hcollected d) fun hd => List.mem_singleton.mp hd ▸ hdecided
          refine .liftEnsures fun _ _ => ?_
          change Obeys _ _ _ _ (if _ then _ else _)
          split
          · exact .returns ⟨hcollected', fun _ h => by cases h⟩
          · exact ih hcollected'

theorem collectRightsDecisions_ensures (hcontext : Resolves h context operationHash) :
    Obeys ValidReply (TerminalPre call) (Ensures (Collected context.signedRuntimeReleaseOperation)) h
      (c.collectRightsDecisions context) := by
  refine .liftEnsures fun nodeSet hnodes => .liftEnsures fun threshold _ => ?_
  refine .thenEnsures persistedRightsDecisionsByNode_ensures fun h' table _ _ => ?_
  have hnone : ∀ d ∈ ([] : List SignedNodeRightsDecisionV1),
      DecidedFor context.signedRuntimeReleaseOperation .allowed d :=
    fun _ hd => absurd hd List.not_mem_nil
  change Obeys _ _ _ _ (if _ then _ else _)
  split
  · exact .returns ⟨hnone, fun _ => nofun⟩
  · exact walkForDecisions_ensures ⟨hcontext.verified, hnodes⟩ hnone

/-- Contributions of nodes whose decisions are among these. -/
def OfDeciders (decisions : List SignedNodeRightsDecisionV1)
    (contributions : List SignedNodeContributionV1) : Prop :=
  ∀ contribution ∈ contributions, ∃ d ∈ decisions, decisionNode d = contributionNode contribution

theorem walkForContributions_ensures {decisions : List SignedNodeRightsDecisionV1}
    {table : DecisionsByNode} (htable : ByNode decisions table)
    (hrequested : ∀ d ∈ decisions, ∀ request : CustodyProviderRequestV1,
      request.signedRuntimeReleaseOperation.decode = .ok context.signedRuntimeReleaseOperation →
      request.signedNodeRightsDecision.decode = .ok d → ∀ h', h <+: h' → Requested h'
      (decisionNode d) request) :
    ∀ {collected : List SignedNodeContributionV1} {h' : History CoordinatorOp.Reply}, h <+: h' →
      OfDeciders decisions collected →
        Obeys ValidReply (TerminalPre call)
          (Ensures fun offer : Option RuntimeReleaseReconcileOffer => ∀ offered,
            offer = some offered → ∃ contributions, offered = .contributionsReady contributions ∧
              OfDeciders decisions contributions) h'
          (c.walkForContributions context nodeSet threshold table providers collected) := by
  induction providers with
  | nil => exact fun _ _ => .returns fun _ => nofun
  | cons provider providers ih =>
    intro collected h' hext hcollected
    rw [walkForContributions]
    cases hlookup : table.lookup provider with
    | none => exact ih hext hcollected
    | some decision =>
      obtain ⟨hdecision, hnode⟩ := htable provider decision hlookup
      refine .liftEnsures fun request hrequest => ?_
      obtain ⟨operationBlob, hoperation, hmade⟩ := bind_eq_ok.mp (orElse_eq_ok.mp hrequest)
      obtain ⟨decisionBlob, hblob, hmade⟩ := bind_eq_ok.mp hmade
      obtain ⟨⟨⟩, _, hmade⟩ := bind_eq_ok.mp hmade
      cases hmade
      have hasked : Requested h' provider ⟨operationBlob, decisionBlob⟩ := hnode ▸
        hrequested decision hdecision _ (CanonicalBlob.decode_fromContract hoperation)
          (CanonicalBlob.decode_fromContract hblob) h' hext
      refine .thenEnsures (askForContribution_ensures hasked) fun h'' answer hext' hanswer => ?_
      cases answer with
      | stop => exact .returns fun _ => nofun
      | skip => exact ih (hext.trans hext') hcollected
      | document contribution =>
        have hcollected' : OfDeciders decisions (collected ++ [contribution]) := by
          intro c hc
          rcases List.mem_append.mp hc with hc | hc
          · exact hcollected c hc
          · rw [List.mem_singleton.mp hc]
            exact ⟨decision, hdecision, hnode.trans (hanswer contribution rfl).symm⟩
        change Obeys _ _ _ _ (if _ then _ else _)
        split
        · exact .returns fun offered hoffered =>
            ⟨_, (Option.some.inj hoffered).symm, hcollected'⟩
        · exact ih (hext.trans hext') hcollected'

/-- The contributions of an operation are asked for once enough decisions are in its record. -/
theorem collectContributions_ensures (hcontext : Resolves h context operationHash)
    (hthreshold : context.threshold = .ok threshold)
    (henough : threshold ≤ context.replayableRightsDecisions.length)
    (hnonempty : context.replayableRightsDecisions ≠ []) :
    Obeys ValidReply (TerminalPre call)
      (Ensures fun offer : Option RuntimeReleaseReconcileOffer => ∀ offered,
        offer = some offered → ∃ contributions, offered = .contributionsReady contributions ∧
          OfDeciders context.replayableRightsDecisions contributions) h
      (c.collectContributions context) := by
  refine .liftEnsures fun nodeSet hnodes => .liftEnsures fun _ _ => ?_
  refine .thenEnsures persistedRightsDecisionsByNode_ensures fun h' table hext htable => ?_
  refine walkForContributions_ensures htable ?_ List.prefix_rfl fun _ hc => absurd hc List.not_mem_nil
  intro d hd request hoperation hdecision h'' hext'
  obtain ⟨journalCall, v, hevent, hdraft, hdecisions⟩ := hcontext.seen hnonempty
  have hstatement : context.authenticated.statement =
      context.signedRuntimeReleaseOperation.statement := by
    obtain ⟨_, _, hverify⟩ := hcontext.verified
    exact (SignedRuntimeReleaseOperationV1.verify_eq_ok.mp hverify).statementEq
  have hsigned : v.draft.signedRuntimeReleaseOperation = context.signedRuntimeReleaseOperation :=
    hdraft ▸ hcontext.signed
  refine ⟨journalCall, v, nodeSet, (hext.trans hext').subset hevent, ?_, ?_, ?_, d, ?_, rfl,
    hdecision⟩
  · rw [hsigned]
    exact hoperation
  · rw [hsigned, ← hstatement]
    exact orElse_eq_ok.mp hnodes
  · have hcount : context.threshold = .ok nodeSet.threshold.required.toNat := by
      rw [StartedOperationContext.threshold, hnodes]
      rfl
    obtain rfl := Except.ok.inj (hcount.symm.trans hthreshold)
    rw [hdecisions]
    exact henough
  · rw [hdecisions]
    exact hd

theorem checkOffer_ensures {signed : SignedRuntimeReleaseOperationV1}
    {authenticated : AuthenticatedRuntimeReleaseOperationV1} {now : UInt64}
    (hauthentic : Authentic signed authenticated nodeSet) (offer : RuntimeReleaseReconcileOffer) :
    Obeys ValidReply (TerminalPre call)
      (Ensures fun terminal => terminal = offerToTerminal offer ∧ Justified signed terminal) h
      (c.checkOffer authenticated nodeSet now offer) := by
  cases offer with
  | rightsDenied decision =>
    refine obeys_responseValidationNow trivial fun h' verifiedAt _ => ?_
    refine .liftEnsures fun verified hverified => .liftEnsures fun _ hdenied => .returns ⟨rfl, ?_⟩
    rw [orElse_eq_ok] at hverified
    exact .rightsDenied ⟨_, _, verifiedAt, verified, hauthentic, hverified,
      (verified_decisionNode hverified).2, not_not.mp (failIf_eq_ok.mp hdenied)⟩
  | contributionsReady contributions =>
    refine obeys_responseValidationNow trivial fun h' verifiedAt _ => ?_
    refine .liftEnsures fun result hresult => .returns ?_
    obtain ⟨rfl, hjustified⟩ := hauthentic.justified hresult
    exact ⟨rfl, hjustified⟩

/-- `reconcile` stores only what it has checked, for an offer that is the caller's own or backed. -/
theorem reconcile_ensures (offer : RuntimeReleaseReconcileOffer) {now : UInt64}
    (hoffer : ∀ draft h', h <+: h' → draft.operationHash = .ok operationHash →
      call.Offers draft (offerToTerminal offer) ∨ Backed h' draft (offerToTerminal offer)) :
    Obeys ValidReply (TerminalPre call) (Ensures fun _ => True) h
      (c.reconcile operationHash offer now) := by
  refine obeys_loadRecord trivial (fun v _ => ?_) fun _ _ => nofun
  refine .liftEnsures fun draftHash hhash => .liftEnsures fun _ hsame => ?_
  have hhash : v.draft.operationHash = .ok operationHash := by
    rw [← not_not.mp (failIf_eq_ok.mp hsame)]
    exact orElse_eq_ok.mp hhash
  cases v.terminalResult with
  | some terminal => exact .liftEnsures fun _ _ => .returns trivial
  | none =>
    refine .liftEnsures fun _ _ => .liftEnsures fun authenticated hverify => ?_
    refine .liftEnsures fun nodeSet hnodes => ?_
    have hauthentic : Authentic v.draft.signedRuntimeReleaseOperation authenticated nodeSet :=
      ⟨⟨_, _, orElse_eq_ok.mp hverify⟩, hnodes⟩
    refine .thenEnsures (checkOffer_ensures hauthentic offer) ?_
    rintro h' terminal hext ⟨rfl, hjustified⟩
    refine obeys_callJournal ⟨hjustified, ?_⟩ (fun _ _ => .liftEnsures fun _ _ => .returns trivial)
      fun _ => nofun
    exact hoffer v.draft h' ((List.prefix_append _ _).trans hext) hhash

variable (context) in
/-- What `resolve_started_operation` does with the decisions that the record has. -/
theorem contributionsPhase_ensures (decisions : List SignedNodeRightsDecisionV1)
    {program : CoordinatorProgram RuntimeReleaseCoordinatorOutcome}
    (hcontext : Resolves h { context with replayableRightsDecisions := decisions } operationHash)
    (hprogram : program = (do
      let threshold ← lift context.threshold
      if decisions.length < threshold then
        pure (.nonterminal operationHash .providerEffectUncertain)
      else do
        let offer ← c.collectContributions { context with replayableRightsDecisions := decisions }
        match offer with
        | none => pure (.nonterminal operationHash .providerEffectUncertain)
        | some offer => c.reconcile operationHash offer context.now)) :
    Obeys ValidReply (TerminalPre call) (Ensures fun _ => True) h program := by
  subst hprogram
  refine .liftEnsures fun threshold hthreshold => ?_
  change Obeys _ _ _ _ (if _ then _ else _)
  split
  · exact .returns trivial
  · next henough =>
    obtain ⟨nodeSet, hnodes, hrequired⟩ := bind_eq_ok.mp hthreshold
    cases hrequired
    have htwo := operationNodeSet_required hnodes
    have hnonempty : decisions ≠ [] := by
      rintro rfl
      rw [List.length_nil] at henough
      omega
    refine .thenEnsures (collectContributions_ensures hcontext hthreshold (Nat.not_lt.mp henough)
      hnonempty) fun h' offer hext hoffer => ?_
    cases offer with
    | none => exact .returns trivial
    | some offered =>
      obtain ⟨contributions, rfl, hdeciders⟩ := hoffer offered rfl
      obtain ⟨journalCall, v, hevent, hdraft, hdecisions⟩ := hcontext.seen hnonempty
      refine reconcile_ensures _ fun draft h'' hext' hhash => .inr ⟨v, ⟨journalCall, ?_, ?_⟩, ?_⟩
      · exact (hext.trans hext').subset hevent
      · exact (congrArg _ hdraft).trans (hcontext.hash.trans hhash.symm)
      · rw [hdecisions]
        exact hdeciders

theorem resolveStartedOperation_ensures (hcontext : Resolves h context operationHash) :
    Obeys ValidReply (TerminalPre call) (Ensures fun _ => True) h
      (c.resolveStartedOperation context operationHash) := by
  refine .thenEnsures (collectRightsDecisions_ensures hcontext) fun h' collection hext hcollected => ?_
  cases hoffer : collection.offer with
  | some offer =>
    obtain ⟨d, rfl⟩ := hcollected.offer offer hoffer
    exact reconcile_ensures _ fun _ _ _ _ => .inr trivial
  | none =>
    change Obeys _ _ _ _ (if _ then _ else _)
    split
    · exact contributionsPhase_ensures context _ (hcontext.mono hext) rfl
    · next hnew =>
      have hdecided : TerminalPre call h' (.journal (.persistReplayableRightsDecisions context.draft
          collection.replayableRightsDecisions)) := by
        intro d hd
        rw [hcontext.signed]
        exact hcollected.decisions d hd
      refine obeys_callJournal hdecided (fun v hvalid => ?_) fun _ => nofun
      have hdraft : v.draft = context.draft := hvalid v rfl
      refine contributionsPhase_ensures context v.replayableRightsDecisions
        ⟨hcontext.signed, hcontext.hash, hcontext.verified, fun _ => ?_⟩ rfl
      exact ⟨_, v, List.mem_append_right _ (List.mem_singleton.mpr rfl), hdraft, rfl⟩

/-- `release` and `resume_exact` settle only what the journal's decisions back. -/
theorem release_ensures [WalletProtocol] (walletRequestBytes walletResponseBytes : List UInt8)
    (signed : SignedRuntimeReleaseOperationV1) (now : UInt64) :
    Obeys ValidReply (TerminalPre call) (Ensures fun _ => True) []
      (c.release walletRequestBytes walletResponseBytes signed now) := by
  refine .liftEnsures fun _ _ => .liftEnsures fun authenticated hverify => ?_
  refine .liftEnsures fun draft hdraft => ?_
  have hsigned : draft.signedRuntimeReleaseOperation = signed := by
    have hnew := orElse_eq_ok.mp hdraft
    unfold RuntimeReleaseOperationDraft.new at hnew
    split at hnew
    · cases hnew
    · cases hnew
      rfl
  refine obeys_callJournal trivial (fun v _ => ?_) fun _ _ h => by cases h
  cases v.terminalResult with
  | some terminal => exact .returns trivial
  | none =>
    change Obeys _ _ _ _ (if _ then _ else _)
    split
    · exact .liftEnsures fun _ _ => .returns trivial
    · refine .liftEnsures fun orderedProviders _ => ?_
      refine obeys_callJournal trivial (fun w _ => .liftEnsures fun hash hhash => ?_) fun _ _ h => by cases h
      refine resolveStartedOperation_ensures ⟨hsigned, orElse_eq_ok.mp hhash,
        ⟨_, _, orElse_eq_ok.mp hverify⟩, fun hnonempty => absurd rfl hnonempty⟩

theorem resumeExact_ensures (operationHash : Digest32) (now : UInt64) :
    Obeys ValidReply (TerminalPre call) (Ensures fun _ => True) []
      (c.resumeExact operationHash now) := by
  refine obeys_loadRecord trivial (fun v _ => ?_) fun _ _ => nofun
  cases v.terminalResult with
  | some terminal => exact .returns trivial
  | none =>
    refine .liftEnsures fun _ _ => .liftEnsures fun draftHash hhash => ?_
    refine .liftEnsures fun _ hsame => .liftEnsures fun authenticated hverify => ?_
    refine .liftEnsures fun orderedProviders _ => ?_
    obtain rfl : draftHash = operationHash := not_not.mp (failIf_eq_ok.mp hsame)
    exact resolveStartedOperation_ensures ⟨rfl, orElse_eq_ok.mp hhash,
      ⟨_, _, orElse_eq_ok.mp hverify⟩, fun _ => ⟨_, v, List.mem_singleton.mpr rfl, rfl, rfl⟩⟩

end RuntimeReleaseCoordinator

/-- Every call meets the conditions. -/
theorem CoordinatorCall.program_ensures [WalletProtocol] (call : CoordinatorCall) :
    Obeys ValidReply (TerminalPre call) (Ensures fun _ => True) [] call.program := by
  obtain ⟨c, request⟩ := call
  cases request with
  | release => exact RuntimeReleaseCoordinator.release_ensures _ _ _ _
  | resumeExact => exact RuntimeReleaseCoordinator.resumeExact_ensures _ _
  | reconcile operationHash offer now =>
    exact RuntimeReleaseCoordinator.reconcile_ensures offer fun draft _ _ hhash =>
      .inl ⟨operationHash, offer, now, rfl, hhash, rfl⟩

/-! ## 4. Every run -/

/-- What the records of a journal hold that only coordinators have changed. -/
structure Grounded (J : Journal) : Prop where
  records : J.RecordsInv
  decided : ∀ slot v, J.Holds slot v → ∀ d ∈ v.replayableRightsDecisions,
    DecidedFor v.draft.signedRuntimeReleaseOperation .allowed d
  justified : ∀ slot v, J.Holds slot v → ∀ terminalResult, v.terminalResult = some terminalResult →
    Justified v.draft.signedRuntimeReleaseOperation terminalResult

theorem grounded_empty : Grounded (∅ : Journal) where
  records := Journal.recordsInv_empty
  decided := fun _ _ ⟨_, _, _, _, _, hlookup⟩ => nomatch hlookup
  justified := fun _ _ ⟨_, _, _, _, _, hlookup⟩ => nomatch hlookup

/-- **What the conditions are for**: an operation that meets them leaves the records grounded. -/
theorem Grounded.handle {call : CoordinatorCall} {h : History CoordinatorOp.Reply}
    (op : CoordinatorOp) (choice : Choice) (J : Journal) (hJ : Grounded J)
    (hpre : TerminalPre call h op) :
    ValidReply op (op.handle choice J).1 ∧ Grounded (op.handle choice J).2 := by
  cases op with
  | journal journalCall =>
    refine ⟨fun v hreply => hJ.records.answers hreply, hJ.records.after, ?_, ?_⟩
    · intro slot v hv d hd
      cases Journal.origin hJ.records.sound hv with
      | kept hv => exact hJ.decided slot v hv d hd
      | created => exact absurd hd List.not_mem_nil
      | changed hw hupdate =>
        cases hupdate with
        | started => exact hJ.decided slot _ hw d hd
        | decided _ _ hmerged =>
          rcases (mergeReplayableRightsDecisions_ok hmerged).2.1 d hd with hd | hd
          · exact hJ.decided slot _ hw d hd
          · exact hpre d hd
        | ended => exact absurd hd List.not_mem_nil
    · intro slot v hv terminalResult hterminal
      cases Journal.origin hJ.records.sound hv with
      | kept hv => exact hJ.justified slot v hv terminalResult hterminal
      | created => exact nomatch hterminal
      | changed hw hupdate =>
        cases hupdate with
        | started => exact nomatch hterminal
        | decided => exact nomatch hterminal
        | ended =>
          obtain rfl := Option.some.inj hterminal
          exact hpre.1
  | evaluateRights => exact ⟨trivial, hJ⟩
  | releaseContribution => exact ⟨trivial, hJ⟩
  | clock => exact ⟨trivial, hJ⟩

section

variable [WalletProtocol] {labels : List (PoolLabel CoordinatorCall Choice)} {s system : System}

theorem grounded_run (hrun : Transition.run System.step (System.idle ∅) labels = some system) :
    Pool.Keeps ValidReply TerminalPre (fun _ => Ensures fun _ => True) Grounded system :=
  Pool.Keeps.run CoordinatorCall.program_ensures
    (fun _ _ op choice J hJ hpre => hJ.handle op choice J hpre)
    ⟨grounded_empty, fun _ h => absurd h List.not_mem_nil, fun _ h => absurd h List.not_mem_nil⟩
    hrun

variable {slot : Digest32} {v : PersistedRuntimeReleaseOperation}

/-- A record grows along a run. -/
theorem System.follows (hs : s.shared.RecordsInv)
    (hrun : Transition.run System.step s labels = some system)
    (hv : s.shared.Holds slot v) : ∃ v', system.shared.Holds slot v' ∧ Grows v v' := by
  have hinv : ∀ (op : CoordinatorOp) (choice : Choice) (J : Journal),
      (J.RecordsInv ∧ ∃ v', J.Holds slot v' ∧ Grows v v') →
        (op.handle choice J).2.RecordsInv ∧ ∃ v', (op.handle choice J).2.Holds slot v' ∧
          Grows v v' := by
    rintro op choice J ⟨hJ, w, hw, hgrows⟩
    refine ⟨recordsInv_handle op choice J hJ, ?_⟩
    cases op with
    | journal call =>
      have hafter : (J.call call choice.fate).2.Holds slot w ∨
          ∃ w', Update call w w' ∧ (J.call call choice.fate).2.Holds slot w' := hw.after hJ.sound
      rcases hafter with hw | ⟨w', hupdate, hw'⟩
      · exact ⟨w, hw, hgrows⟩
      · exact ⟨w', hw', hgrows.trans (.of_update hupdate)⟩
    | evaluateRights => exact ⟨w, hw, hgrows⟩
    | releaseContribution => exact ⟨w, hw, hgrows⟩
    | clock => exact ⟨w, hw, hgrows⟩
  exact (Pool.shared_invariant hinv ⟨hs, v, hv, .refl v⟩ hrun).2

/-- A state that the run passes through. -/
def Passed (labels : List (PoolLabel CoordinatorCall Choice)) (s : System) : Prop :=
  ∃ before after, labels = before ++ after ∧
    Transition.run System.step (System.idle ∅) before = some s

/-- A record that has been returned to a call was in the journal. -/
theorem passed_of_answered (hrun : Transition.run System.step (System.idle ∅) labels = some system)
    {call : Call CoordinatorOp CoordinatorOp.Reply RuntimeReleaseCoordinatorError
      RuntimeReleaseCoordinatorOutcome CoordinatorCall} (hcall : call ∈ system.calls)
    {journalCall : JournalCall} (hevent : Event.answered journalCall v ∈ call.history) :
    ∃ s slot after, Passed labels s ∧ s.shared.Holds slot v ∧ Grounded s.shared ∧
      Transition.run System.step s after = some system := by
  have hrun' : Transition.run (Pool.step CoordinatorCall.program CoordinatorOp.handle)
      (System.idle ∅) labels = some system := hrun
  obtain ⟨before, label, after, s, t, choice, hlabels, hbefore, hstep, hreply⟩ :=
    Pool.performed rfl hrun' call hcall _ hevent
  have hrun_t : Transition.run System.step (System.idle ∅) (before ++ [label]) = some t :=
    Transition.run_snoc_eq_some.mpr ⟨s, hbefore, hstep⟩
  have hreply' : s.shared.call journalCall choice.fate =
      ((.ok v : Except RuntimeReleaseJournalError _), t.shared) := hreply
  obtain ⟨slot, hheld⟩ := Journal.holds_of_call_eq_ok (grounded_run hbefore).shared.records.sound
    (congrArg Prod.fst hreply')
  rw [hreply'] at hheld
  have hsplit : labels = (before ++ [label]) ++ after := by
    rw [hlabels, List.append_assoc, List.singleton_append]
  refine ⟨t, slot, after, ⟨before ++ [label], after, hsplit, hrun_t⟩, hheld,
    (grounded_run hrun_t).shared, ?_⟩
  rw [hsplit] at hrun
  obtain ⟨t', ht', hafter⟩ := Transition.run_append_eq_some.mp hrun
  obtain rfl := Option.some.inj (hrun_t.symm.trans ht')
  exact hafter

/-- **Terminal results are justified.** -/
structure TerminalJustified (labels : List (PoolLabel CoordinatorCall Choice)) (system : System) :
    Prop where
  justified : ∀ slot v terminalResult, system.shared.Holds slot v →
    v.terminalResult = some terminalResult →
      Justified v.draft.signedRuntimeReleaseOperation terminalResult
  preceded : ∀ slot v contributions, system.shared.Holds slot v →
    v.terminalResult = some (.contributionsReady contributions) →
      (∃ call ∈ system.calls, call.request.Offers v.draft (.contributionsReady contributions)) ∨
        ∃ s w, Passed labels s ∧ s.shared.Holds slot w ∧ w.draft = v.draft ∧
          w.terminalResult = none ∧ ∀ contribution ∈ contributions,
            ∃ d ∈ w.replayableRightsDecisions, decisionNode d = contributionNode contribution ∧
              DecidedFor v.draft.signedRuntimeReleaseOperation .allowed d
  requests : ∀ call ∈ system.calls, ∀ node request next,
    call.rest = .perform (.releaseContribution node request) next →
      ∃ s slot w nodeSet, Passed labels s ∧ s.shared.Holds slot w ∧
        request.signedRuntimeReleaseOperation.decode = .ok w.draft.signedRuntimeReleaseOperation ∧
          w.draft.signedRuntimeReleaseOperation.statement.custodyEpoch.statement.nodeSet =
              .ok nodeSet ∧
            nodeSet.threshold.required.toNat ≤ w.replayableRightsDecisions.length ∧
              (w.replayableRightsDecisions.map decisionNode).Nodup ∧
                ∀ d ∈ w.replayableRightsDecisions,
                  DecidedFor w.draft.signedRuntimeReleaseOperation .allowed d

/-- A stored result was handed to `mark_terminal` by some call. -/
theorem marked_by_call (hrun : Transition.run System.step (System.idle ∅) labels = some system)
    {terminalResult : RuntimeReleaseTerminalResult} (hv : system.shared.Holds slot v)
    (hterminal : v.terminalResult = some terminalResult) :
    ∃ call ∈ system.calls, ∃ event ∈ call.history,
      event.1 = .journal (.markTerminal v.draft terminalResult) := by
  let fact (J : Journal) : Prop := ∃ w, J.Holds slot w ∧ w.draft = v.draft ∧
    w.terminalResult = some terminalResult
  have hcause : ∀ (op : CoordinatorOp) (choice : Choice) (J : Journal), J.RecordsInv →
      fact (op.handle choice J).2 →
        fact J ∨ op = .journal (.markTerminal v.draft terminalResult) := by
    intro op choice J hJ hfact
    cases op with
    | journal call =>
      obtain ⟨w, hw, hdraft, hresult⟩ := hfact
      cases Journal.origin hJ.sound hw with
      | kept hw => exact .inl ⟨w, hw, hdraft, hresult⟩
      | created => exact nomatch hresult
      | changed hu hupdate =>
        cases hupdate with
        | started => exact nomatch hresult
        | decided => exact nomatch hresult
        | ended =>
          obtain rfl := Option.some.inj hresult
          exact .inr (congrArg (fun draft => CoordinatorOp.journal (.markTerminal draft _)) hdraft)
    | evaluateRights => exact .inl hfact
    | releaseContribution => exact .inl hfact
    | clock => exact .inl hfact
  have hnot : ¬fact (System.idle ∅).shared := fun ⟨_, ⟨_, _, _, _, _, hlookup⟩, _⟩ => nomatch hlookup
  exact Pool.caused recordsInv_handle hcause Journal.recordsInv_empty hnot hrun
    ⟨v, hv, rfl, hterminal⟩

/-- **In every state that calls of coordinators lead to**, whatever the providers answer. -/
theorem terminal_justified
    (hrun : Transition.run System.step (System.idle ∅) labels = some system) :
    TerminalJustified labels system := by
  have hkeeps := grounded_run hrun
  constructor
  · exact fun slot v terminalResult hv hterminal =>
      hkeeps.shared.justified slot v hv terminalResult hterminal
  · intro slot v contributions hv hterminal
    obtain ⟨call, hcall, event, hevent, hmark⟩ := marked_by_call hrun hv hterminal
    obtain ⟨before, after, hhistory⟩ := List.append_of_mem hevent
    have hpre := hkeeps.followed call hcall before event after hhistory
    rw [hmark] at hpre
    rcases hpre.2 with hoffers | ⟨w, ⟨journalCall, hanswered, hhash⟩, hdeciders⟩
    · exact .inl ⟨call, hcall, hoffers⟩
    · have hseen : Event.answered journalCall w ∈ call.history := by
        rw [hhistory]
        exact List.mem_append_left _ hanswered
      obtain ⟨s, slot', rest, hpassed, hw, hgrounded, hrest⟩ :=
        passed_of_answered hrun hcall hseen
      obtain rfl : slot' = slot := hw.slot_eq hv hhash
      obtain ⟨w', hw', hgrows⟩ := System.follows hgrounded.records hrest hw
      have hdraft : w.draft = v.draft := by
        rw [hv.unique hw', hgrows.draft]
      refine .inr ⟨s, w, hpassed, hw, hdraft, ?_, fun contribution hcontribution => ?_⟩
      · -- there is a contribution, hence a decision, and a record with decisions is open
        obtain ⟨contribution, hcontribution⟩ := hpre.1.exists_contribution
        obtain ⟨d, hd, _⟩ := hdeciders contribution hcontribution
        cases hopen : w.terminalResult with
        | none => rfl
        | some _ =>
          have hcleared := (hgrounded.records.wellFormed _ _ hw).cleared (hopen ▸ nofun)
          rw [hcleared] at hd
          exact absurd hd List.not_mem_nil
      · obtain ⟨d, hd, hnode⟩ := hdeciders contribution hcontribution
        exact ⟨d, hd, hnode, hdraft ▸ hgrounded.decided _ _ hw d hd⟩
  · rintro ⟨request', rest, history⟩ hcall node request next rfl
    obtain ⟨journalCall, w, nodeSet, hanswered, hoperation, hnodes, henough, _⟩ :=
      (hkeeps.calls _ hcall).1
    obtain ⟨s, slot, _, hpassed, hw, hgrounded, _⟩ := passed_of_answered hrun hcall hanswered
    exact ⟨s, slot, w, nodeSet, hpassed, hw, hoperation, hnodes, henough,
      (hgrounded.records.wellFormed _ _ hw).oneEach, hgrounded.decided _ _ hw⟩

/-- Where no call has stored decisions, no record has had any. -/
theorem no_decisions (hrun : Transition.run System.step (System.idle ∅) labels = some system)
    (hnone : ∀ call ∈ system.calls, ∀ event ∈ call.history, ∀ draft decisions, event.1 ≠ .journal
      (.persistReplayableRightsDecisions draft decisions)) (hpassed : Passed labels s)
    {w : PersistedRuntimeReleaseOperation} (hw : s.shared.Holds slot w) :
    w.replayableRightsDecisions = [] := by
  obtain ⟨before, after, rfl, hbefore⟩ := hpassed
  obtain ⟨s', hs', hafter⟩ := Transition.run_append_eq_some.mp hrun
  obtain rfl := Option.some.inj (hbefore.symm.trans hs')
  let fact (J : Journal) : Prop := ∃ slot w, J.Holds slot w ∧ w.replayableRightsDecisions ≠ []
  have hcause : ∀ (op : CoordinatorOp) (choice : Choice) (J : Journal), J.RecordsInv →
      fact (op.handle choice J).2 → fact J ∨
        ∃ draft decisions, op = .journal (.persistReplayableRightsDecisions draft decisions) := by
    intro op choice J hJ hfact
    cases op with
    | journal call =>
      obtain ⟨slot, w, hw, hsome⟩ := hfact
      cases Journal.origin hJ.sound hw with
      | kept hw => exact .inl ⟨slot, w, hw, hsome⟩
      | created => exact absurd rfl hsome
      | changed hu hupdate =>
        cases hupdate with
        | started => exact .inl ⟨slot, _, hu, hsome⟩
        | decided => exact .inr ⟨_, _, rfl⟩
        | ended => exact absurd rfl hsome
    | evaluateRights => exact .inl hfact
    | releaseContribution => exact .inl hfact
    | clock => exact .inl hfact
  have hnot : ¬fact (System.idle ∅).shared :=
    fun ⟨_, _, ⟨_, _, _, _, _, hlookup⟩, _⟩ => nomatch hlookup
  by_contra hsome
  have hstored : ∃ call ∈ s.calls, ∃ event ∈ call.history, ∃ draft decisions,
      event.1 = .journal (.persistReplayableRightsDecisions draft decisions) :=
    Pool.caused recordsInv_handle hcause Journal.recordsInv_empty hnot hbefore ⟨slot, w, hw, hsome⟩
  obtain ⟨call, hcall, event, hevent, draft, decisions, hcause⟩ := hstored
  obtain ⟨i, hi⟩ := List.mem_iff_getElem?.mp hcall
  have hrest : Transition.run (Pool.step CoordinatorCall.program CoordinatorOp.handle) s after =
      some system := hafter
  obtain ⟨call', hi', _, hext⟩ := Pool.run_getElem hrest hi
  exact hnone call' (List.mem_of_getElem? hi') event (hext.subset hevent) draft decisions hcause

end

/-! ## 5. Contributions that a caller hands in -/

/-- A `reconcile` that goes through, without a clock. -/
theorem reconcile_eq {c : RuntimeReleaseCoordinator} (hclock : c.responseClock = false)
    {v : PersistedRuntimeReleaseOperation} {operationHash : Digest32} {now : UInt64}
    (hhash : v.draft.operationHash = .ok operationHash) (hopen : v.terminalResult = none)
    (hstarted : v.providerEffectStarted = true) {operation : AuthenticatedRuntimeReleaseOperationV1}
    (hverify : v.draft.signedRuntimeReleaseOperation.verify c.expectedRuntimeIssuer now =
      .ok operation) {nodeSet : NodeSetV1} (hnodes : operationNodeSet operation = .ok nodeSet)
    {contributions : List SignedNodeContributionV1}
    (hcheck : exactThresholdContributions operation nodeSet contributions now =
      .ok contributions) :
    ∃ afterLoad, c.reconcile operationHash (.contributionsReady contributions) now =
        .perform (.journal (.load operationHash)) afterLoad ∧
      ∃ afterMark, afterLoad (.ok v : Except RuntimeReleaseJournalError _) =
        .perform (.journal (.markTerminal v.draft (.contributionsReady contributions)))
          afterMark := by
  have hsame : failIf (operationHash ≠ operationHash)
      RuntimeReleaseCoordinatorError.reconciliation = .ok () := failIf_eq_ok.mpr (not_not.mpr rfl)
  have hmarked : failIf (¬v.providerEffectStarted = true)
      RuntimeReleaseCoordinatorError.reconciliation = .ok () :=
    failIf_eq_ok.mpr (not_not.mpr hstarted)
  refine ⟨_, rfl, ?_⟩
  change ∃ afterMark, (lift (.ok v) >>= fun persisted : PersistedRuntimeReleaseOperation => _) = _
  rw [lift_ok_bind]
  simp only [hhash, orElse_ok, lift_ok_bind, hsame, hopen, hmarked, hverify, hnodes,
    RuntimeReleaseCoordinator.checkOffer, RuntimeReleaseCoordinator.responseValidationNow, hclock,
    Bool.false_eq_true, if_false, pure_ok_bind, hcheck]
  exact ⟨_, rfl⟩

end

section

attribute [local instance] acceptingCurves tailEchoCrypto constantWallet

open ReleaseSample

/-- What a caller that knows the contributions of two nodes offers. -/
def sampleContributions (s : ReleaseSample) : List SignedNodeContributionV1 :=
  [s.contribution 1 [1], s.contribution 2 [2]]

def sampleReconcile : CoordinatorCall :=
  ⟨sampleCoordinator, .reconcile (okValue (Bytes.zero 32) (canonicalHash sample.signed))
    (.contributionsReady (sampleContributions sample)) 100⟩

def sampleSettlement : List (PoolLabel CoordinatorCall Choice) :=
  alone sampleCall ++ [.start sampleReconcile, .proceed 1 quiet, .proceed 1 quiet]

theorem sampleContributions_checked {s : ReleaseSample} (h : s.Ok) {now : UInt64}
    (hstart : s.start.toNat ≤ now.toNat + 5) (hend : now.toNat < s.start.toNat + 60) :
    exactThresholdContributions s.operation nodeSet (sampleContributions s) now =
      .ok (sampleContributions s) := by
  have hfirst : s.operation.verifyNodeContribution (s.contribution 1 [1]) nodeSet now =
      .ok (s.verifiedContribution 1 [1]) :=
    contribution_verify h (.inl rfl) (by decide) (by decide) hstart hend
  have hsecond : s.operation.verifyNodeContribution (s.contribution 2 [2]) nodeSet now =
      .ok (s.verifiedContribution 2 [2]) :=
    contribution_verify h (.inr (.inl rfl)) (by decide) (by decide) hstart hend
  have hdistinct : seedKey "node_public_key" 2 ∉
      ([seedKey "node_public_key" 1] : List NodePublicKey) := by decide
  have hrest : verifyDistinct s.operation nodeSet now [seedKey "node_public_key" 1]
      [s.contribution 2 [2]] = .ok [s.contribution 2 [2]] :=
    bind_eq_ok.mpr ⟨_, orElse_eq_ok.mpr hsecond, bind_eq_ok.mpr
      ⟨(), failIf_eq_ok.mpr hdistinct, bind_eq_ok.mpr ⟨[], rfl, rfl⟩⟩⟩
  refine bind_eq_ok.mpr ⟨(), failIf_eq_ok.mpr (not_not.mpr rfl), bind_eq_ok.mpr
    ⟨_, orElse_eq_ok.mpr hfirst, bind_eq_ok.mpr ⟨(), failIf_eq_ok.mpr List.not_mem_nil, ?_⟩⟩⟩
  exact bind_eq_ok.mpr ⟨[s.contribution 2 [2]], hrest, rfl⟩

theorem sampleContributions_entry : ∃ entry,
    (⟨sampleDraft, some (.contributionsReady (sampleContributions sample)), [], true⟩ :
      PersistedRuntimeReleaseOperation).toEntry = .ok entry := by
  have hencodes : ∀ c ∈ sampleContributions sample, EncodesWithin c 19564 := by
    intro c hc
    rcases List.mem_cons.mp hc with rfl | hc
    · exact contribution_encodes sample_ok 1 (by decide) (by decide)
    · rw [List.mem_singleton.mp hc]
      exact contribution_encodes sample_ok 2 (by decide) (by decide)
  obtain ⟨encoded, hencoded⟩ : ∃ encoded, RuntimeReleaseTerminalResult.encode
      (.contributionsReady (sampleContributions sample)) = .ok encoded :=
    RuntimeReleaseTerminalResult.encode_contributions (List.cons_ne_nil _ _) hencodes (by decide)
      (by decide)
  obtain ⟨_, _, bytes, hbytes, _⟩ := signed_encodes sample_ok
  have hterminal : (some (.contributionsReady (sampleContributions sample))).mapM
      RuntimeReleaseTerminalResult.encode = .ok (some encoded) := by
    rw [Option.mapM_some, hencoded]
    rfl
  exact ⟨_, PersistedRuntimeReleaseOperation.toEntry_eq_ok.mpr ⟨some encoded, hterminal, [], rfl,
    StoreEntry.fromDraft_eq_ok.mpr ⟨bytes, hbytes, rfl⟩⟩⟩

theorem sampleSettlement_run :
    let := sampleExchange sample
    ∃ system slot, Transition.run System.step (System.idle ∅) sampleSettlement = some system ∧
      system.shared.Holds slot
        ⟨sampleDraft, some (.contributionsReady (sampleContributions sample)), [], true⟩ ∧
      ∀ call ∈ system.calls, ∀ event ∈ call.history, ∀ draft decisions,
        event.1 ≠ .journal (.persistReplayableRightsDecisions draft decisions) := by
  obtain ⟨operationHash, hhash⟩ := (signed_encodes sample_ok).canonicalHash
  obtain ⟨entry, hentry⟩ := sampleContributions_entry
  obtain ⟨persisted, started, asked, asks, J₁, J₂, hmoves⟩ := sample_moves
  obtain ⟨slot, hheld⟩ := hmoves.held
  let := sampleExchange sample
  have hrequest : sampleReconcile.program = sampleCoordinator.reconcile operationHash
      (.contributionsReady (sampleContributions sample)) 100 := by
    rw [sampleReconcile, hhash]
    rfl
  have hdraft : sampleDraft.operationHash = .ok operationHash := orCorrupt_eq_ok.mpr hhash
  have hchecked : exactThresholdContributions sample.operation nodeSet (sampleContributions sample)
      100 = .ok (sampleContributions sample) :=
    sampleContributions_checked sample_ok (by decide) (by decide)
  obtain ⟨afterLoad, hreconcile, afterMark, hmark⟩ := reconcile_eq (c := sampleCoordinator)
    (v := ⟨sampleDraft, none, [], true⟩) rfl hdraft rfl rfl
    (signed_verify sample_ok (by decide) (by decide)) sample_nodeSet hchecked
  have hload : Pool.Moves CoordinatorOp.handle quiet J₂ sampleReconcile.program
      (Event.answered (.load operationHash) ⟨sampleDraft, none, [], true⟩) J₂
      (afterLoad (.ok ⟨sampleDraft, none, [], true⟩ : Except RuntimeReleaseJournalError _)) := by
    rw [hrequest, hreconcile]
    exact .perform (hheld.load hdraft)
  obtain ⟨J₃, hended, hJ₃⟩ := hheld.call_update (.ended rfl) hentry
  have hsettle : Pool.Moves CoordinatorOp.handle quiet J₂
      (afterLoad (.ok ⟨sampleDraft, none, [], true⟩ : Except RuntimeReleaseJournalError _))
      (Event.answered (.markTerminal sampleDraft (.contributionsReady (sampleContributions sample)))
        ⟨sampleDraft, some (.contributionsReady (sampleContributions sample)), [], true⟩) J₃
      (afterMark (.ok ⟨sampleDraft, some (.contributionsReady (sampleContributions sample)), [], true⟩ :
        Except RuntimeReleaseJournalError _)) := by
    rw [hmark]
    exact .perform hended
  have hrun : Transition.run System.step (System.idle ∅) sampleSettlement = some ⟨J₃,
      [⟨sampleCall, asked, [Event.answered (.persistBeforeProviderEffect sampleDraft)
          (.fresh sampleDraft), Event.answered (.markProviderEffectStarted sampleDraft)
            ⟨sampleDraft, none, [], true⟩, asks]⟩,
        ⟨sampleReconcile, _, [Event.answered (.load operationHash) ⟨sampleDraft, none, [], true⟩,
          Event.answered (.markTerminal sampleDraft (.contributionsReady (sampleContributions sample)))
            ⟨sampleDraft, some (.contributionsReady (sampleContributions sample)), [], true⟩]⟩]⟩ :=
    Transition.run_append_eq_some.mpr ⟨_, hmoves.alone, Transition.run_cons_eq_some.mpr ⟨_, rfl,
      Transition.run_cons_eq_some.mpr ⟨_, hload.step rfl,
        Transition.run_cons_eq_some.mpr ⟨_, hsettle.step rfl, rfl⟩⟩⟩⟩
  have hasks : ∀ draft decisions,
      asks.1 ≠ .journal (.persistReplayableRightsDecisions draft decisions) :=
    fun draft decisions hop => (hop ▸ hmoves.dispatches :
      CoordinatorOp.Dispatches (.journal (.persistReplayableRightsDecisions draft decisions)))
  refine ⟨_, slot, hrun, hJ₃, fun call hcall event hevent draft decisions => ?_⟩
  rcases List.mem_cons.mp hcall with rfl | hcall
  · rcases List.mem_cons.mp hevent with rfl | hevent
    · exact nofun
    · rcases List.mem_cons.mp hevent with rfl | hevent
      · exact nofun
      · rw [List.mem_singleton.mp hevent]
        exact hasks draft decisions
  · obtain rfl := List.mem_singleton.mp hcall
    rcases List.mem_cons.mp hevent with rfl | hevent
    · exact nofun
    · rw [List.mem_singleton.mp hevent]
      exact nofun

/-- **Contributions are settled without a decision in the journal**: nobody has answered the release,
and the caller hands in what it has got elsewhere. -/
theorem reconciled_without_decisions :
    let := sampleExchange sample
    ∃ system slot v contributions,
      Transition.run System.step (System.idle ∅) sampleSettlement = some system ∧
        system.shared.Holds slot v ∧ contributions ≠ [] ∧
          v.terminalResult = some (.contributionsReady contributions) ∧
            ∀ s slot w, Passed sampleSettlement s → s.shared.Holds slot w →
              w.replayableRightsDecisions = [] := by
  let := sampleExchange sample
  obtain ⟨system, slot, hrun, hheld, hnone⟩ := sampleSettlement_run
  exact ⟨system, slot, _, sampleContributions sample, hrun, hheld, List.cons_ne_nil _ _, rfl,
    fun _ _ _ hpassed hw => no_decisions hrun hnone hpassed hw⟩

theorem terminal_justified_sample :
    let := sampleExchange sample
    ∃ system, Transition.run System.step (System.idle ∅) sampleSettlement = some system ∧
      TerminalJustified sampleSettlement system := by
  let := sampleExchange sample
  obtain ⟨system, _, hrun, _⟩ := sampleSettlement_run
  exact ⟨system, hrun, terminal_justified hrun⟩

end

end ElastosRuntime.ReleaseCoordinator
