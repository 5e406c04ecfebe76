/-
# When a document is accepted

An operation is verified once, at the time of the call, and its nodes' documents later, each at a
time the coordinator reads from its clock.  Verifying a document verifies the wallet's request, the
release request and the authorization of the recipient key again, but not the operation's own window
(`RuntimeReleaseOperationStatementV1.verify`); only the first check of a provider's response, which
decodes the whole signed operation, does that.

So a document can be accepted after the operation has expired, as long as the document and the
authorization live longer than the operation does (`accepted_in_time_iff`).
-/
import ElastosRuntime.Coordinator.Terminal

namespace ElastosRuntime.Contracts

variable [Curves] [Crypto]

/-! ## 1. Later -/

omit [Curves] [Crypto] in
theorem Window.Active.later {w : Window} {now later : UInt64} (h : w.Active now) (hle : now ≤ later)
    (hlive : later < w.expiresAt) : w.Active later :=
  ⟨h.1.trans (Nat.add_le_add_right (UInt64.le_iff_toNat_le.mp hle) 5), hlive⟩

/-- **What verifies a statement goes on to verify it** until the first of the three documents in it
expires. -/
theorem RuntimeReleaseOperationStatementV1.Verified.later [WalletCurve]
    {v : RuntimeReleaseOperationStatementV1} {now later : UInt64}
    {verified : VerifiedReleaseOperationStatementV1} (h : v.Verified now verified)
    (hle : now ≤ later) (hrights : later < v.rightsRequest.request.expiresAt)
    (hrelease : later < v.releaseRequest.expiresAt)
    (hauthorization : later < v.recipientAuthorization.statement.expiresAt) :
    v.Verified later verified :=
  let ⟨rightsHash, hhash, hverified⟩ := h.release
  { h with
    rights := { h.rights with active := h.rights.active.later hle hrights }
    release := ⟨rightsHash, hhash, { hverified with active := hverified.active.later hle hrelease }⟩
    authorization :=
      { h.authorization with active := h.authorization.active.later hle hauthorization } }

variable {request : VerifiedKeyReleaseRequestV1}

theorem SignedNodeRightsDecisionV1.Verified.later {v : SignedNodeRightsDecisionV1}
    {nodeSet : NodeSetV1} {now later : UInt64} (h : v.Verified request nodeSet now)
    (hle : now ≤ later)
    (hlive : later < v.statement.expiresAt) : v.Verified request nodeSet later :=
  { h with active := h.active.later hle hlive }

theorem SignedNodeContributionV1.Verified.later {v : SignedNodeContributionV1} {nodeSet : NodeSetV1}
    {now later : UInt64} (h : v.Verified request nodeSet now) (hle : now ≤ later)
    (hdecision : later < v.statement.signedRightsDecision.statement.expiresAt)
    (hlive : later < v.statement.expiresAt) : v.Verified request nodeSet later :=
  { h with decision := h.decision.later hle hdecision, active := h.active.later hle hlive }

end ElastosRuntime.Contracts

namespace ElastosRuntime.ReleaseCoordinator

open Codec Contracts ReleaseJournal Program

section

variable [Curves] [Crypto] [WalletCurve]

/-! ## 2. Documents in time -/

/-- What a node answers with. -/
inductive NodeDocument where
  | decision (signedNodeRightsDecision : SignedNodeRightsDecisionV1)
  | contribution (signedNodeContribution : SignedNodeContributionV1)

namespace NodeDocument

def expiresAt : NodeDocument → UInt64
  | decision d => d.statement.expiresAt
  | contribution c => c.statement.expiresAt

/-- When the documents that a node's document rests on expire, and when it does. -/
def chainExpiries (operation : AuthenticatedRuntimeReleaseOperationV1) :
    NodeDocument → List UInt64
  | decision d => [operation.statement.rightsRequest.request.expiresAt,
      operation.statement.releaseRequest.expiresAt,
      operation.statement.recipientAuthorization.statement.expiresAt, d.statement.expiresAt]
  | contribution c => [operation.statement.rightsRequest.request.expiresAt,
      operation.statement.releaseRequest.expiresAt,
      operation.statement.recipientAuthorization.statement.expiresAt,
      c.statement.signedRightsDecision.statement.expiresAt, c.statement.expiresAt]

/-- The document passes the check that is made of its kind. -/
def VerifiesAt (operation : AuthenticatedRuntimeReleaseOperationV1) (nodeSet : NodeSetV1)
    (now : UInt64) : NodeDocument → Prop
  | decision d => ∃ verified, operation.verifyNodeRightsDecision d nodeSet now = .ok verified
  | contribution c => ∃ verified, operation.verifyNodeContribution c nodeSet now = .ok verified

variable {operation : AuthenticatedRuntimeReleaseOperationV1} {nodeSet : NodeSetV1}
  {document : NodeDocument} {now time : UInt64}

/-- The part of the check that is about the document itself. -/
def Stands (request : VerifiedKeyReleaseRequestV1) (nodeSet : NodeSetV1) (now : UInt64) :
    NodeDocument → Prop
  | decision d => d.Verified request nodeSet now ∧ ∃ hash, canonicalHash d = .ok hash
  | contribution c => c.Verified request nodeSet now ∧
      (∃ hash, canonicalHash c.statement.signedRightsDecision = .ok hash) ∧
        ∃ hash, canonicalHash c = .ok hash

theorem verifiesAt_iff : document.VerifiesAt operation nodeSet now ↔
    ∃ statement, operation.statement.Verified now statement ∧
      document.Stands statement.release nodeSet now := by
  cases document with
  | decision d =>
    simp only [VerifiesAt, Stands, AuthenticatedRuntimeReleaseOperationV1.verifyNodeRightsDecision,
      bind_eq_ok, mapError_eq_ok, RuntimeReleaseOperationStatementV1.verify_eq_ok,
      SignedNodeRightsDecisionV1.verify_eq_ok]
    constructor
    · rintro ⟨_, statement, hstatement, hverified, hash, hhash, _⟩
      exact ⟨statement, hstatement, hverified, hash, hhash⟩
    · rintro ⟨statement, hstatement, hverified, hash, hhash⟩
      exact ⟨_, statement, hstatement, hverified, hash, hhash, rfl⟩
  | contribution c =>
    simp only [VerifiesAt, Stands, AuthenticatedRuntimeReleaseOperationV1.verifyNodeContribution,
      bind_eq_ok, mapError_eq_ok, RuntimeReleaseOperationStatementV1.verify_eq_ok,
      SignedNodeContributionV1.verify_eq_ok]
    constructor
    · rintro ⟨_, statement, hstatement, hverified, hash, hhash, hash', hhash', _⟩
      exact ⟨statement, hstatement, hverified, ⟨hash, hhash⟩, hash', hhash'⟩
    · rintro ⟨statement, hstatement, hverified, ⟨hash, hhash⟩, hash', hhash'⟩
      exact ⟨_, statement, hstatement, hverified, hash, hhash, hash', hhash', rfl⟩

omit [Crypto] [WalletCurve] in
theorem expiresAt_mem_chain (document : NodeDocument) :
    document.expiresAt ∈ document.chainExpiries operation := by
  cases document <;> simp [chainExpiries, expiresAt]

omit [Crypto] [WalletCurve] in
theorem authorization_mem_chain (document : NodeDocument) :
    operation.statement.recipientAuthorization.statement.expiresAt ∈
      document.chainExpiries operation := by
  cases document <;> simp [chainExpiries]

/-- What verifies has not expired, and nothing that it rests on has. -/
theorem VerifiesAt.inTime (h : document.VerifiesAt operation nodeSet now) :
    ∀ expiry ∈ document.chainExpiries operation, now < expiry := by
  obtain ⟨statement, hverified, hstands⟩ := verifiesAt_iff.mp h
  obtain ⟨_, _, hrelease⟩ := hverified.release
  have hrights := hverified.rights.active.2
  have hauthorization := hverified.authorization.active.2
  cases document with
  | decision d =>
    simp only [chainExpiries, List.forall_mem_cons, List.not_mem_nil, false_imp_iff, implies_true,
      and_true]
    exact ⟨hrights, hrelease.active.2, hauthorization, hstands.1.active.2⟩
  | contribution c =>
    simp only [chainExpiries, List.forall_mem_cons, List.not_mem_nil, false_imp_iff, implies_true,
      and_true]
    exact ⟨hrights, hrelease.active.2, hauthorization, hstands.1.decision.active.2,
      hstands.1.active.2⟩

/-- **What verifies goes on to verify** until it or something that it rests on expires. -/
theorem VerifiesAt.later (h : document.VerifiesAt operation nodeSet now) (hle : now ≤ time)
    (hlive : ∀ expiry ∈ document.chainExpiries operation, time < expiry) :
    document.VerifiesAt operation nodeSet time := by
  obtain ⟨statement, hverified, hstands⟩ := verifiesAt_iff.mp h
  cases document with
  | decision d =>
    simp only [chainExpiries, List.forall_mem_cons, List.not_mem_nil, false_imp_iff, implies_true,
      and_true] at hlive
    obtain ⟨hrights, hrelease, hauthorization, hend⟩ := hlive
    exact verifiesAt_iff.mpr ⟨statement, hverified.later hle hrights hrelease hauthorization,
      hstands.1.later hle hend, hstands.2⟩
  | contribution c =>
    simp only [chainExpiries, List.forall_mem_cons, List.not_mem_nil, false_imp_iff, implies_true,
      and_true] at hlive
    obtain ⟨hrights, hrelease, hauthorization, hdecision, hend⟩ := hlive
    exact verifiesAt_iff.mpr ⟨statement, hverified.later hle hrights hrelease hauthorization,
      hstands.1.later hle hdecision hend, hstands.2⟩

/-- The windows are nested: nothing that a document rests on ends before both it and the
authorization have. -/
theorem VerifiesAt.chain_after (h : document.VerifiesAt operation nodeSet now) {bound : UInt64}
    (hdocument : bound < document.expiresAt)
    (hauthorization : bound < operation.statement.recipientAuthorization.statement.expiresAt) :
    ∀ expiry ∈ document.chainExpiries operation, bound < expiry := by
  obtain ⟨statement, hverified, hstands⟩ := verifiesAt_iff.mp h
  obtain ⟨_, _, hrelease⟩ := hverified.release
  have hends : statement.release.expiresAt = operation.statement.releaseRequest.expiresAt := by
    rw [← hverified.releaseEq]
    rfl
  have hrights : operation.statement.releaseRequest.expiresAt ≤
      operation.statement.rightsRequest.request.expiresAt := hrelease.within.2
  cases document with
  | decision d =>
    have hwithin : d.statement.expiresAt ≤ statement.release.expiresAt := hstands.1.within.2
    have hbound := UInt64.lt_of_lt_of_le hdocument (hends ▸ hwithin)
    simp only [chainExpiries, List.forall_mem_cons, List.not_mem_nil, false_imp_iff, implies_true,
      and_true]
    exact ⟨UInt64.lt_of_lt_of_le hbound hrights, hbound, hauthorization, hdocument⟩
  | contribution c =>
    have hwithin : c.statement.expiresAt ≤ statement.release.expiresAt :=
      hstands.1.withinRequest.2
    have hbound := UInt64.lt_of_lt_of_le hdocument (hends ▸ hwithin)
    simp only [chainExpiries, List.forall_mem_cons, List.not_mem_nil, false_imp_iff, implies_true,
      and_true]
    exact ⟨UInt64.lt_of_lt_of_le hbound hrights, hbound, hauthorization,
      UInt64.lt_of_lt_of_le hdocument hstands.1.withinDecision.2, hdocument⟩

end NodeDocument

/-! ## 3. Acceptance -/

/-- What the clock showed. -/
def Event.reading : Event → Option UInt64
  | ⟨.clock, reading⟩ => some (reading : UInt64)
  | _ => none

/-- The times that a run checked responses at. -/
def RuntimeReleaseCoordinator.responseTimes (c : RuntimeReleaseCoordinator) (now : UInt64)
    (h : History CoordinatorOp.Reply) : List UInt64 :=
  if c.responseClock then (h.filterMap Event.reading).map (max · now) else [now]

/-- **The ways a coordinator accepts documents**, for an operation that it has authenticated: as the
answer of a provider, from the record when it goes on with an operation, and as the offer that it
settles. -/
inductive Accepts (c : RuntimeReleaseCoordinator) (context : StartedOperationContext)
    (nodeSet : NodeSetV1) : List NodeDocument → History CoordinatorOp.Reply → Prop
  | decision {provider : NodePublicKey} {request : RightsProviderRequestV1}
      {d : SignedNodeRightsDecisionV1} {verified : VerifiedNodeRightsDecisionV1}
      {h : History CoordinatorOp.Reply}
      (hrequest : RightsProviderRequestV1.newEvaluate provider
        context.signedRuntimeReleaseOperation = .ok request)
      (hrun : Yields (c.askForDecision context nodeSet provider request) h
        (.ok (.document (d, verified)))) : Accepts c context nodeSet [.decision d] h
  | contribution {provider : NodePublicKey} {asked : SignedNodeRightsDecisionV1}
      {request : CustodyProviderRequestV1} {contribution : SignedNodeContributionV1}
      {h : History CoordinatorOp.Reply}
      (hrequest : CustodyProviderRequestV1.newReleaseContribution
        context.signedRuntimeReleaseOperation asked = .ok request)
      (hrun : Yields (c.askForContribution context nodeSet provider request) h
        (.ok (.document contribution))) : Accepts c context nodeSet [.contribution contribution] h
  | persisted {d : SignedNodeRightsDecisionV1} {verified : VerifiedNodeRightsDecisionV1}
      {h : History CoordinatorOp.Reply}
      (hrun : Yields (c.recheckDecision context nodeSet d) h (.ok verified)) :
      Accepts c context nodeSet [.decision d] h
  | denial {d : SignedNodeRightsDecisionV1} {terminal : RuntimeReleaseTerminalResult}
      {h : History CoordinatorOp.Reply}
      (hrun : Yields (c.checkOffer context.authenticated nodeSet context.now (.rightsDenied d)) h
        (.ok terminal)) : Accepts c context nodeSet [.decision d] h
  | contributions {contributions : List SignedNodeContributionV1}
      {terminal : RuntimeReleaseTerminalResult} {h : History CoordinatorOp.Reply}
      (hrun : Yields (c.checkOffer context.authenticated nodeSet context.now
        (.contributionsReady contributions)) h (.ok terminal)) :
      Accepts c context nodeSet (contributions.map .contribution) h

section

variable {c : RuntimeReleaseCoordinator} {context : StartedOperationContext} {nodeSet : NodeSetV1}
  {now time : UInt64} {h : History CoordinatorOp.Reply} {α : Type}

omit [Curves] [Crypto] [WalletCurve] in
theorem max_of_le {a b : UInt64} (h : b ≤ a) : max a b = a := by
  change (if a ≤ b then b else a) = a
  split
  · next hle => exact UInt64.le_antisymm h hle
  · rfl

/-- What is read before a check at a time. -/
inductive Reads (c : RuntimeReleaseCoordinator) (now : UInt64) :
    UInt64 → History CoordinatorOp.Reply → Prop
  | call (hclock : c.responseClock = false) : Reads c now now []
  | clock {reading : UInt64} (hclock : c.responseClock = true) :
      Reads c now (max reading now) [⟨.clock, reading⟩]

variable {a : α}

omit [Crypto] [WalletCurve] in
/-- A run that starts by reading the time. -/
theorem yields_responseValidationNow {f : UInt64 → CoordinatorProgram α} :
    Yields (c.responseValidationNow now >>= f) h (.ok a) ↔
      ∃ t before rest, h = before ++ rest ∧ Reads c now t before ∧ Yields (f t) rest (.ok a) := by
  unfold RuntimeReleaseCoordinator.responseValidationNow
  split
  · next hclock =>
    constructor
    · intro hrun
      cases hrun with
      | perform hrun => exact ⟨_, [_], _, rfl, .clock hclock, hrun⟩
    · rintro ⟨t, _, rest, rfl, hreads, hrun⟩
      cases hreads with
      | call hnone => exact nomatch hnone.symm.trans hclock
      | clock => exact .perform hrun
  · next hclock =>
    constructor
    · exact fun hrun => ⟨now, [], h, rfl, .call (Bool.eq_false_iff.mpr hclock), hrun⟩
    · rintro ⟨t, _, rest, rfl, hreads, hrun⟩
      cases hreads with
      | call => exact hrun
      | clock hsome => exact absurd hsome hclock

omit [Crypto] [WalletCurve] in
/-- A last check can be made at any time from the call on. -/
theorem Reads.of_clock (hclock : c.responseClock = true) (hle : now ≤ time) :
    Reads c now time [⟨.clock, time⟩] := by
  have hreads : Reads c now (max time now) [⟨.clock, time⟩] := .clock hclock
  rwa [max_of_le hle] at hreads

omit [Crypto] [WalletCurve] in
/-- The times of a run in which one or two are read. -/
theorem responseTimes_reads {t : UInt64} {before : History CoordinatorOp.Reply}
    (hreads : Reads c now t before) : c.responseTimes now before = [t] := by
  unfold RuntimeReleaseCoordinator.responseTimes
  cases hreads with
  | call hclock => exact if_neg (Bool.eq_false_iff.mp hclock)
  | clock hclock => exact if_pos hclock

omit [Crypto] [WalletCurve] in
theorem responseTimes_asked {t t' : UInt64} {event : Event}
    {before after : History CoordinatorOp.Reply} (hh : h = event :: before ++ after)
    (hevent : event.reading = none) (hreads : Reads c now t before)
    (hreads' : Reads c now t' after) :
    t' ∈ c.responseTimes now h ∧ ∀ time ∈ c.responseTimes now h, time = t ∨ time = t' := by
  subst hh
  unfold RuntimeReleaseCoordinator.responseTimes
  cases hreads with
  | call hclock =>
    cases hreads' with
    | call =>
      rw [if_neg (Bool.eq_false_iff.mp hclock)]
      exact ⟨List.mem_singleton.mpr rfl, fun time htime => .inl (List.mem_singleton.mp htime)⟩
    | clock hsome => exact nomatch hclock.symm.trans hsome
  | clock hclock =>
    cases hreads' with
    | call hnone => exact nomatch hnone.symm.trans hclock
    | clock =>
      rw [if_pos hclock, List.cons_append, List.filterMap_cons_none hevent]
      refine ⟨List.mem_cons_of_mem _ (List.mem_singleton.mpr rfl), fun time htime => ?_⟩
      exact (List.mem_cons.mp htime).imp_right List.mem_singleton.mp

/-! The five ways, as checks at a time. -/

/-- What `verify_node_rights_decision` is followed by. -/
def checkDecision (context : StartedOperationContext) (nodeSet : NodeSetV1)
    (d : SignedNodeRightsDecisionV1)
    (accept : VerifiedNodeRightsDecisionV1 → Except RuntimeReleaseCoordinatorError α) (t : UInt64) :
    Except RuntimeReleaseCoordinatorError α := do
  let verified ← orElse .providerResult
    (context.authenticated.verifyNodeRightsDecision d nodeSet t)
  accept verified

theorem recheckDecision_eq (d : SignedNodeRightsDecisionV1) :
    c.recheckDecision context nodeSet d = c.responseValidationNow context.now >>= fun t =>
      lift (checkDecision context nodeSet d (fun verified => do
        failIf (verified.decision ≠ .allowed) RuntimeReleaseCoordinatorError.providerResult
        failIf (verified.nodePublicKey ∉ context.orderedProviders)
          RuntimeReleaseCoordinatorError.providerResult
        pure verified) t) := by
  simp only [checkDecision, ← lift_bind_lift]
  rfl

theorem checkOffer_denied_eq (d : SignedNodeRightsDecisionV1) :
    c.checkOffer context.authenticated nodeSet context.now (.rightsDenied d) =
      c.responseValidationNow context.now >>= fun t =>
        lift (checkDecision context nodeSet d (fun verified => do
          failIf (verified.decision ≠ .denied) RuntimeReleaseCoordinatorError.providerResult
          pure (RuntimeReleaseTerminalResult.rightsDenied d)) t) := by
  simp only [checkDecision, ← lift_bind_lift]
  rfl

/-- What `exact_threshold_contributions` is followed by. -/
def checkContributions (context : StartedOperationContext) (nodeSet : NodeSetV1)
    (contributions : List SignedNodeContributionV1) (t : UInt64) :
    Except RuntimeReleaseCoordinatorError RuntimeReleaseTerminalResult := do
  let contributions ← exactThresholdContributions context.authenticated nodeSet contributions t
  pure (.contributionsReady contributions)

theorem checkOffer_contributions_eq (contributions : List SignedNodeContributionV1) :
    c.checkOffer context.authenticated nodeSet context.now (.contributionsReady contributions) =
      c.responseValidationNow context.now >>= fun t =>
        lift (checkContributions context nodeSet contributions t) := by
  simp only [checkContributions, ← lift_bind_lift]
  rfl

omit [Crypto] [WalletCurve] in
theorem yields_check {check : UInt64 → Except RuntimeReleaseCoordinatorError α} :
    Yields (c.responseValidationNow now >>= fun t => lift (check t)) h (.ok a) ↔
      ∃ t, Reads c now t h ∧ check t = .ok a := by
  rw [yields_responseValidationNow]
  constructor
  · rintro ⟨t, before, rest, rfl, hreads, hrun⟩
    obtain ⟨rfl, hcheck⟩ := yields_lift.mp hrun
    rw [List.append_nil]
    exact ⟨t, hreads, hcheck⟩
  · rintro ⟨t, hreads, hcheck⟩
    exact ⟨t, h, [], (List.append_nil h).symm, hreads, yields_lift.mpr ⟨rfl, hcheck⟩⟩

variable {mode : StartedOperationResolutionMode}

omit [Crypto] [WalletCurve] in
theorem not_yields_unanswered {value : α} :
    ¬Yields (unanswered mode) h (.ok (ProviderAnswer.document value)) := by
  intro hrun
  cases mode <;> cases hrun

omit [Crypto] [WalletCurve] in
theorem not_yields_rejectedResponse {value : α} :
    ¬Yields (rejectedResponse mode) h (.ok (ProviderAnswer.document value)) := by
  intro hrun
  cases mode <;> cases hrun

/-- The last check of `collect_rights_decisions`. -/
def acceptDecision (provider : NodePublicKey) (d : SignedNodeRightsDecisionV1)
    (verified : VerifiedNodeRightsDecisionV1) : Except RuntimeReleaseCoordinatorError
      (ProviderAnswer (SignedNodeRightsDecisionV1 × VerifiedNodeRightsDecisionV1)) := do
  failIf (verified.nodePublicKey ≠ provider) RuntimeReleaseCoordinatorError.providerResult
  pure (.document (d, verified))

variable {provider : NodePublicKey}

variable {d : SignedNodeRightsDecisionV1}

variable {verified : VerifiedNodeRightsDecisionV1}

variable {request : RightsProviderRequestV1}

/-- How a provider's decision is accepted. -/
theorem yields_askForDecision :
    Yields (c.askForDecision context nodeSet provider request) h (.ok (.document (d, verified))) ↔
      ∃ response t t' before after,
        h = ⟨.evaluateRights provider request,
          (.ok response : Except Unit RightsProviderResponseV1)⟩ :: before ++ after ∧
          Reads c context.now t before ∧ Reads c context.now t' after ∧
            response.validateAgainstRequestAt request t = .ok () ∧
              response.signedNodeRightsDecision = .ok d ∧
                checkDecision context nodeSet d (acceptDecision provider d) t' =
                  .ok (.document (d, verified)) := by
  constructor
  · intro hrun
    cases hrun with
    | @perform _ _ reply h' _ hrun =>
      change Except Unit RightsProviderResponseV1 at reply
      cases reply with
      | error => exact (not_yields_unanswered hrun).elim
      | ok response =>
        obtain ⟨t, before, rest, rfl, hreads, hrun⟩ := yields_responseValidationNow.mp hrun
        cases hvalid : response.validateAgainstRequestAt request t with
        | error =>
          rw [hvalid] at hrun
          exact (not_yields_rejectedResponse hrun).elim
        | ok _ =>
          rw [hvalid] at hrun
          cases hresponse : response.signedNodeRightsDecision with
          | error =>
            rw [hresponse] at hrun
            exact (not_yields_rejectedResponse hrun).elim
          | ok decision =>
            rw [hresponse] at hrun
            have hrun' : Yields (c.responseValidationNow context.now >>= fun t' => lift
                (checkDecision context nodeSet decision (acceptDecision provider decision) t')) rest
                  (.ok (.document (d, verified))) := by
              simp only [checkDecision, acceptDecision, ← lift_bind_lift]
              exact hrun
            obtain ⟨t', hreads', hcheck⟩ := yields_check.mp hrun'
            obtain ⟨_, _, haccept⟩ := bind_eq_ok.mp hcheck
            obtain ⟨_, _, haccept⟩ := bind_eq_ok.mp haccept
            cases haccept
            exact ⟨response, t, t', before, rest, rfl, hreads, hreads', hvalid, hresponse, hcheck⟩
  · rintro ⟨response, t, t', before, after, rfl, hreads, hreads', hvalid, hresponse, hcheck⟩
    refine .perform (yields_responseValidationNow.mpr ⟨t, before, after, rfl, hreads, ?_⟩)
    have hrun := yields_check.mpr ⟨t', hreads', hcheck⟩
    simp only [checkDecision, acceptDecision, ← lift_bind_lift] at hrun
    simp only [hvalid, hresponse]
    exact hrun

/-- The last check of `collect_contributions`. -/
def acceptContribution (context : StartedOperationContext) (nodeSet : NodeSetV1)
    (provider : NodePublicKey) (contribution : SignedNodeContributionV1) (t : UInt64) :
    Except RuntimeReleaseCoordinatorError (ProviderAnswer SignedNodeContributionV1) := do
  validateContributionIdentity context.authenticated nodeSet contribution provider t
  pure (.document contribution)

variable {contribution : SignedNodeContributionV1}

/-- How a provider's contribution is accepted. -/
theorem yields_askForContribution {request : CustodyProviderRequestV1} :
    Yields (c.askForContribution context nodeSet provider request) h
        (.ok (.document contribution)) ↔
      ∃ response t t' before after,
        h = ⟨.releaseContribution provider request,
          (.ok response : Except Unit CustodyProviderResponseV1)⟩ :: before ++ after ∧
          Reads c context.now t before ∧ Reads c context.now t' after ∧
            response.validateAgainstRequestAt request provider t = .ok () ∧
              response.signedNodeContribution = .ok contribution ∧
                acceptContribution context nodeSet provider contribution t' =
                  .ok (.document contribution) := by
  constructor
  · intro hrun
    cases hrun with
    | @perform _ _ reply h' _ hrun =>
      change Except Unit CustodyProviderResponseV1 at reply
      cases reply with
      | error => exact (not_yields_unanswered hrun).elim
      | ok response =>
        obtain ⟨t, before, rest, rfl, hreads, hrun⟩ := yields_responseValidationNow.mp hrun
        cases hvalid : response.validateAgainstRequestAt request provider t with
        | error =>
          rw [hvalid] at hrun
          exact (not_yields_rejectedResponse hrun).elim
        | ok _ =>
          rw [hvalid] at hrun
          obtain ⟨found, hresponse, hrun⟩ := yields_lift_bind.mp hrun
          have hrun' : Yields (c.responseValidationNow context.now >>= fun t' => lift
              (acceptContribution context nodeSet provider found t')) rest
                (.ok (.document contribution)) := by
            simp only [acceptContribution, ← lift_bind_lift]
            exact hrun
          obtain ⟨t', hreads', hcheck⟩ := yields_check.mp hrun'
          obtain ⟨_, _, haccept⟩ := bind_eq_ok.mp hcheck
          cases haccept
          exact ⟨response, t, t', before, rest, rfl, hreads, hreads', hvalid,
            orElse_eq_ok.mp hresponse, hcheck⟩
  · rintro ⟨response, t, t', before, after, rfl, hreads, hreads', hvalid, hresponse, hcheck⟩
    refine .perform (yields_responseValidationNow.mpr ⟨t, before, after, rfl, hreads, ?_⟩)
    rw [hvalid]
    refine yields_lift_bind.mpr ⟨contribution, orElse_eq_ok.mpr hresponse, ?_⟩
    have hrun := yields_check.mpr ⟨t', hreads', hcheck⟩
    simp only [acceptContribution, ← lift_bind_lift] at hrun
    exact hrun

/-! ## 4. The same check at another time -/

variable {operation : AuthenticatedRuntimeReleaseOperationV1}

/-- A decision that verifies at two times is verified into one record. -/
theorem verified_decision_eq (h : operation.verifyNodeRightsDecision d nodeSet now = .ok verified)
    (hverifies : (NodeDocument.decision d).VerifiesAt operation nodeSet time) :
    operation.verifyNodeRightsDecision d nodeSet time = .ok verified := by
  obtain ⟨verified', h'⟩ := hverifies
  obtain ⟨_, _, hdecision⟩ := bind_eq_ok.mp h
  obtain ⟨_, _, hdecision'⟩ := bind_eq_ok.mp h'
  obtain ⟨_, hash, hhash, rfl⟩ := SignedNodeRightsDecisionV1.verify_eq_ok.mp hdecision
  obtain ⟨_, hash', hhash', rfl⟩ := SignedNodeRightsDecisionV1.verify_eq_ok.mp hdecision'
  obtain rfl := Except.ok.inj (hhash.symm.trans hhash')
  exact h'

variable {accept : VerifiedNodeRightsDecisionV1 → Except RuntimeReleaseCoordinatorError α}

theorem checkDecision_verifiesAt (h : checkDecision context nodeSet d accept now = .ok a) :
    (NodeDocument.decision d).VerifiesAt context.authenticated nodeSet now := by
  obtain ⟨verified, hverified, _⟩ := bind_eq_ok.mp h
  exact ⟨verified, orElse_eq_ok.mp hverified⟩

theorem checkDecision_later (h : checkDecision context nodeSet d accept now = .ok a)
    (hverifies : (NodeDocument.decision d).VerifiesAt context.authenticated nodeSet time) :
    checkDecision context nodeSet d accept time = .ok a := by
  obtain ⟨verified, hverified, haccept⟩ := bind_eq_ok.mp h
  have hlater := verified_decision_eq (orElse_eq_ok.mp hverified) hverifies
  exact bind_eq_ok.mpr ⟨verified, orElse_eq_ok.mpr hlater, haccept⟩

variable {a : ProviderAnswer SignedNodeContributionV1}

theorem acceptContribution_verifiesAt
    (h : acceptContribution context nodeSet provider contribution now = .ok a) :
    (NodeDocument.contribution contribution).VerifiesAt context.authenticated nodeSet now := by
  obtain ⟨⟨⟩, hidentity, _⟩ := bind_eq_ok.mp h
  obtain ⟨verified, hverified, _⟩ := bind_eq_ok.mp hidentity
  exact ⟨verified, orElse_eq_ok.mp hverified⟩

theorem acceptContribution_later
    (h : acceptContribution context nodeSet provider contribution now = .ok a)
    (hverifies : (NodeDocument.contribution contribution).VerifiesAt context.authenticated nodeSet
      time) :
    acceptContribution context nodeSet provider contribution time = .ok a := by
  obtain ⟨⟨⟩, hidentity, haccept⟩ := bind_eq_ok.mp h
  obtain ⟨verified, hverified, hnode⟩ := bind_eq_ok.mp hidentity
  obtain ⟨verified', hverified'⟩ := hverifies
  have hsame : verified'.nodePublicKey = verified.nodePublicKey :=
    (verified_contributionNode hverified').1.trans
      (verified_contributionNode (orElse_eq_ok.mp hverified)).1.symm
  exact bind_eq_ok.mpr ⟨(), bind_eq_ok.mpr ⟨verified', orElse_eq_ok.mpr hverified', hsame ▸ hnode⟩,
    haccept⟩

variable {contributions : List SignedNodeContributionV1}

theorem verifyDistinct_of_verified :
    ∀ {seen : List NodePublicKey},
    (contributions.map contributionNode).Nodup →
      (∀ c ∈ contributions, contributionNode c ∉ seen ∧ ∃ verified,
        operation.verifyNodeContribution c nodeSet time = .ok verified) →
      verifyDistinct operation nodeSet time seen contributions = .ok contributions := by
  induction contributions with
  | nil => exact fun _ _ => rfl
  | cons contribution contributions ih =>
    intro seen hnodup hall
    rw [List.map_cons, List.nodup_cons] at hnodup
    obtain ⟨hfresh, verified, hverified⟩ := hall contribution List.mem_cons_self
    have hnode := (verified_contributionNode hverified).1
    have hrest : verifyDistinct operation nodeSet time (verified.nodePublicKey :: seen)
        contributions = .ok contributions := by
      refine ih hnodup.2 fun c hc => ?_
      obtain ⟨hunseen, hverified'⟩ := hall c (List.mem_cons_of_mem _ hc)
      refine ⟨fun hmem => ?_, hverified'⟩
      rcases List.mem_cons.mp hmem with hsame | hmem
      · exact hnodup.1 (List.mem_map.mpr ⟨c, hc, hsame.trans hnode⟩)
      · exact hunseen hmem
    exact bind_eq_ok.mpr ⟨verified, orElse_eq_ok.mpr hverified, bind_eq_ok.mpr
      ⟨(), failIf_eq_ok.mpr (hnode ▸ hfresh), bind_eq_ok.mpr ⟨contributions, hrest, rfl⟩⟩⟩

variable {result : List SignedNodeContributionV1}

theorem exactThreshold_verifiesAt
    (h : exactThresholdContributions operation nodeSet contributions now = .ok result) :
    ∀ document ∈ contributions.map NodeDocument.contribution,
      document.VerifiesAt operation nodeSet now := by
  obtain ⟨⟨⟩, _, h⟩ := bind_eq_ok.mp h
  intro document hdocument
  obtain ⟨contribution, hmem, rfl⟩ := List.mem_map.mp hdocument
  exact ((verifyDistinct_eq_ok h).2.2 contribution hmem).2

theorem exactThreshold_later
    (h : exactThresholdContributions operation nodeSet contributions now = .ok result)
    (hverifies : ∀ document ∈ contributions.map NodeDocument.contribution, document.VerifiesAt
      operation nodeSet time) :
    exactThresholdContributions operation nodeSet contributions time = .ok result := by
  obtain ⟨⟨⟩, hcount, h⟩ := bind_eq_ok.mp h
  obtain ⟨rfl, hnodup, hall⟩ := verifyDistinct_eq_ok h
  refine bind_eq_ok.mpr ⟨(), hcount, verifyDistinct_of_verified hnodup fun c hc => ?_⟩
  exact ⟨(hall c hc).1, hverifies _ (List.mem_map_of_mem hc)⟩

theorem checkContributions_later {terminal : RuntimeReleaseTerminalResult}
    (h : checkContributions context nodeSet contributions now = .ok terminal)
    (hverifies : ∀ document ∈ contributions.map NodeDocument.contribution, document.VerifiesAt
      context.authenticated nodeSet time) :
    checkContributions context nodeSet contributions time = .ok terminal := by
  obtain ⟨result, hexact, hresult⟩ := bind_eq_ok.mp h
  exact bind_eq_ok.mpr ⟨result, exactThreshold_later hexact hverifies, hresult⟩

/-! ## 5. The first check of a response -/

/-- The operation that a context is about has been verified, at the time of the call. -/
structure Authenticated (c : RuntimeReleaseCoordinator) (context : StartedOperationContext)
    (nodeSet : NodeSetV1) : Prop where
  verified : context.signedRuntimeReleaseOperation.verify c.expectedRuntimeIssuer context.now =
    .ok context.authenticated
  nodeSet : operationNodeSet context.authenticated = .ok nodeSet

/-- What a response is checked against is the operation of the context, verified again, with its own
window. -/
theorem Authenticated.again (h : Authenticated c context nodeSet)
    {issuer : RuntimeOperationIssuerKeyV1}
    (hverify : context.signedRuntimeReleaseOperation.verify issuer time = .ok operation) :
    operation.statement = context.authenticated.statement ∧
      time < context.authenticated.statement.expiresAt := by
  have hcontext := SignedRuntimeReleaseOperationV1.verify_eq_ok.mp h.verified
  have hagain := SignedRuntimeReleaseOperationV1.verify_eq_ok.mp hverify
  refine ⟨hagain.statementEq.trans hcontext.statementEq.symm, ?_⟩
  rw [hcontext.statementEq]
  exact hagain.active.2

theorem Authenticated.decision_inTime (h : Authenticated c context nodeSet)
    {response : RightsProviderResponseV1}
    (hrequest : RightsProviderRequestV1.newEvaluate provider context.signedRuntimeReleaseOperation
      = .ok request) (hvalid : response.validateAgainstRequestAt request time = .ok ())
    (hresponse : response.signedNodeRightsDecision = .ok d) :
    (NodeDocument.decision d).VerifiesAt context.authenticated nodeSet time ∧
      time < context.authenticated.statement.expiresAt := by
  obtain ⟨blob, hblob, hmade⟩ := bind_eq_ok.mp hrequest
  obtain ⟨⟨⟩, _, hmade⟩ := bind_eq_ok.mp hmade
  cases hmade
  cases response with
  | failure => exact nomatch hresponse
  | decision decisionBlob =>
    obtain ⟨validated, hvalidated, hvalid⟩ := bind_eq_ok.mp hvalid
    obtain ⟨_, _, hvalidated⟩ := bind_eq_ok.mp hvalidated
    obtain ⟨signed, hsigned, hvalidated⟩ := bind_eq_ok.mp hvalidated
    obtain rfl := Except.ok.inj ((CanonicalBlob.decode_fromContract hblob).symm.trans hsigned)
    obtain ⟨operation, hoperation, hvalidated⟩ := bind_eq_ok.mp hvalidated
    obtain ⟨_, _, hvalidated⟩ := bind_eq_ok.mp hvalidated
    obtain ⟨⟨⟩, _, hvalidated⟩ := bind_eq_ok.mp hvalidated
    cases hvalidated
    obtain ⟨hstatement, hlive⟩ := h.again (mapError_eq_ok.mp hoperation)
    obtain ⟨nodes, hnodes, hvalid⟩ := bind_eq_ok.mp hvalid
    obtain ⟨decision, hdecision, hvalid⟩ := bind_eq_ok.mp hvalid
    obtain rfl := Except.ok.inj (hresponse.symm.trans hdecision)
    obtain ⟨⟨⟩, _, hvalid⟩ := bind_eq_ok.mp hvalid
    obtain ⟨verified, hverified, _⟩ := bind_eq_ok.mp hvalid
    rw [mapError_eq_ok] at hnodes hverified
    have hsame : context.authenticated.statement.custodyEpoch.statement.nodeSet = .ok nodes :=
      hstatement ▸ hnodes
    obtain rfl := Except.ok.inj ((orElse_eq_ok.mp h.nodeSet).symm.trans hsame)
    refine ⟨⟨verified, ?_⟩, hlive⟩
    rw [AuthenticatedRuntimeReleaseOperationV1.verifyNodeRightsDecision, ← hstatement]
    exact hverified

theorem Authenticated.contribution_inTime (h : Authenticated c context nodeSet)
    {asked : SignedNodeRightsDecisionV1} {request : CustodyProviderRequestV1}
    {response : CustodyProviderResponseV1}
    (hrequest : CustodyProviderRequestV1.newReleaseContribution
      context.signedRuntimeReleaseOperation asked = .ok request)
    (hvalid : response.validateAgainstRequestAt request provider time = .ok ())
    (hresponse : response.signedNodeContribution = .ok contribution) :
    (NodeDocument.contribution contribution).VerifiesAt context.authenticated nodeSet time ∧
      time < context.authenticated.statement.expiresAt := by
  obtain ⟨blob, hblob, hmade⟩ := bind_eq_ok.mp hrequest
  obtain ⟨decisionBlob, _, hmade⟩ := bind_eq_ok.mp hmade
  obtain ⟨⟨⟩, _, hmade⟩ := bind_eq_ok.mp hmade
  cases hmade
  obtain ⟨release, hrelease, hvalid⟩ := bind_eq_ok.mp hvalid
  rw [mapError_eq_ok] at hrelease
  obtain ⟨_, _, hrelease⟩ := bind_eq_ok.mp hrelease
  obtain ⟨signed, hsigned, hrelease⟩ := bind_eq_ok.mp hrelease
  rw [orContract_eq_ok] at hsigned
  obtain rfl := Except.ok.inj ((CanonicalBlob.decode_fromContract hblob).symm.trans hsigned)
  obtain ⟨operation, hoperation, hrelease⟩ := bind_eq_ok.mp hrelease
  obtain ⟨hstatement, hlive⟩ := h.again (orContract_eq_ok.mp hoperation)
  obtain ⟨_, _, hrelease⟩ := bind_eq_ok.mp hrelease
  obtain ⟨⟨⟩, _, hrelease⟩ := bind_eq_ok.mp hrelease
  obtain ⟨⟨⟩, _, hrelease⟩ := bind_eq_ok.mp hrelease
  obtain ⟨_, _, hrelease⟩ := bind_eq_ok.mp hrelease
  obtain ⟨⟨⟩, _, hrelease⟩ := bind_eq_ok.mp hrelease
  cases hrelease
  cases response with
  | provisioned => exact nomatch hresponse
  | failure => exact nomatch hresponse
  | contribution contributionBlob =>
    obtain ⟨nodes, hnodes, hvalid⟩ := bind_eq_ok.mp hvalid
    obtain ⟨found, hfound, hvalid⟩ := bind_eq_ok.mp hvalid
    obtain rfl := Except.ok.inj (hresponse.symm.trans hfound)
    obtain ⟨verified, hverified, _⟩ := bind_eq_ok.mp hvalid
    rw [mapError_eq_ok] at hnodes hverified
    have hsame : context.authenticated.statement.custodyEpoch.statement.nodeSet = .ok nodes :=
      hstatement ▸ hnodes
    obtain rfl := Except.ok.inj ((orElse_eq_ok.mp h.nodeSet).symm.trans hsame)
    refine ⟨⟨verified, ?_⟩, hlive⟩
    rw [AuthenticatedRuntimeReleaseOperationV1.verifyNodeContribution, ← hstatement]
    exact hverified

/-! ## 6. Acceptance in time -/

variable {documents : List NodeDocument}

/-- Every time of an acceptance is one at which the documents verify. -/
theorem Accepts.verifiesAt (haccepts : Accepts c context nodeSet documents h)
    (hcontext : Authenticated c context nodeSet) :
    (∃ t, t ∈ c.responseTimes context.now h) ∧ ∀ t ∈ c.responseTimes context.now h,
      ∀ document ∈ documents, document.VerifiesAt context.authenticated nodeSet t := by
  cases haccepts with
  | decision hrequest hrun =>
    obtain ⟨response, t, t', before, after, hh, hreads, hreads', hvalid, hresponse, hcheck⟩ :=
      yields_askForDecision.mp hrun
    obtain ⟨hmem, htimes⟩ := responseTimes_asked hh rfl hreads hreads'
    refine ⟨⟨t', hmem⟩, fun time htime document hdocument => ?_⟩
    rw [List.mem_singleton.mp hdocument]
    rcases htimes time htime with rfl | rfl
    · exact (hcontext.decision_inTime hrequest hvalid hresponse).1
    · exact checkDecision_verifiesAt hcheck
  | contribution hrequest hrun =>
    obtain ⟨response, t, t', before, after, hh, hreads, hreads', hvalid, hresponse, hcheck⟩ :=
      yields_askForContribution.mp hrun
    obtain ⟨hmem, htimes⟩ := responseTimes_asked hh rfl hreads hreads'
    refine ⟨⟨t', hmem⟩, fun time htime document hdocument => ?_⟩
    rw [List.mem_singleton.mp hdocument]
    rcases htimes time htime with rfl | rfl
    · exact (hcontext.contribution_inTime hrequest hvalid hresponse).1
    · exact acceptContribution_verifiesAt hcheck
  | persisted hrun =>
    rw [recheckDecision_eq] at hrun
    obtain ⟨t, hreads, hcheck⟩ := yields_check.mp hrun
    rw [responseTimes_reads hreads]
    refine ⟨⟨t, List.mem_singleton.mpr rfl⟩, fun time htime document hdocument => ?_⟩
    rw [List.mem_singleton.mp htime, List.mem_singleton.mp hdocument]
    exact checkDecision_verifiesAt hcheck
  | denial hrun =>
    rw [checkOffer_denied_eq] at hrun
    obtain ⟨t, hreads, hcheck⟩ := yields_check.mp hrun
    rw [responseTimes_reads hreads]
    refine ⟨⟨t, List.mem_singleton.mpr rfl⟩, fun time htime document hdocument => ?_⟩
    rw [List.mem_singleton.mp htime, List.mem_singleton.mp hdocument]
    exact checkDecision_verifiesAt hcheck
  | contributions hrun =>
    rw [checkOffer_contributions_eq] at hrun
    obtain ⟨t, hreads, hcheck⟩ := yields_check.mp hrun
    obtain ⟨_, hexact, _⟩ := bind_eq_ok.mp hcheck
    rw [responseTimes_reads hreads]
    refine ⟨⟨t, List.mem_singleton.mpr rfl⟩, fun time htime => ?_⟩
    rw [List.mem_singleton.mp htime]
    exact exactThreshold_verifiesAt hexact

/-- With a clock, documents that are accepted can be accepted whenever they verify. -/
theorem Accepts.late (haccepts : Accepts c context nodeSet documents h)
    (hclock : c.responseClock = true) (hle : context.now ≤ time)
    (hverifies : ∀ document ∈ documents, document.VerifiesAt context.authenticated nodeSet time) :
    ∃ h', Accepts c context nodeSet documents h' ∧ time ∈ c.responseTimes context.now h' := by
  have hread : Reads c context.now time [⟨.clock, time⟩] := .of_clock hclock hle
  have htime : time ∈ c.responseTimes context.now [⟨.clock, time⟩] := by
    rw [responseTimes_reads hread]
    exact List.mem_singleton.mpr rfl
  cases haccepts with
  | decision hrequest hrun =>
    obtain ⟨response, t, t', before, after, rfl, hreads, _, hvalid, hresponse, hcheck⟩ :=
      yields_askForDecision.mp hrun
    have hlater := checkDecision_later hcheck (hverifies _ (List.mem_singleton.mpr rfl))
    refine ⟨_, .decision hrequest (yields_askForDecision.mpr ⟨response, t, time, before, _, rfl,
      hreads, hread, hvalid, hresponse, hlater⟩), (responseTimes_asked rfl rfl hreads hread).1⟩
  | contribution hrequest hrun =>
    obtain ⟨response, t, t', before, after, rfl, hreads, _, hvalid, hresponse, hcheck⟩ :=
      yields_askForContribution.mp hrun
    have hlater := acceptContribution_later hcheck (hverifies _ (List.mem_singleton.mpr rfl))
    refine ⟨_, .contribution hrequest (yields_askForContribution.mpr ⟨response, t, time, before, _,
      rfl, hreads, hread, hvalid, hresponse, hlater⟩), (responseTimes_asked rfl rfl hreads hread).1⟩
  | persisted hrun =>
    rw [recheckDecision_eq] at hrun
    obtain ⟨t, _, hcheck⟩ := yields_check.mp hrun
    have hlater := yields_check.mpr ⟨time, hread,
      checkDecision_later hcheck (hverifies _ (List.mem_singleton.mpr rfl))⟩
    rw [← recheckDecision_eq] at hlater
    exact ⟨_, .persisted hlater, htime⟩
  | denial hrun =>
    rw [checkOffer_denied_eq] at hrun
    obtain ⟨t, _, hcheck⟩ := yields_check.mp hrun
    have hlater := yields_check.mpr ⟨time, hread,
      checkDecision_later hcheck (hverifies _ (List.mem_singleton.mpr rfl))⟩
    rw [← checkOffer_denied_eq] at hlater
    exact ⟨_, .denial hlater, htime⟩
  | contributions hrun =>
    rw [checkOffer_contributions_eq] at hrun
    obtain ⟨t, _, hcheck⟩ := yields_check.mp hrun
    have hlater := yields_check.mpr ⟨time, hread, checkContributions_later hcheck hverifies⟩
    rw [← checkOffer_contributions_eq] at hlater
    exact ⟨_, .contributions hlater, htime⟩

theorem Accepts.nonempty (haccepts : Accepts c context nodeSet documents h)
    (hcontext : Authenticated c context nodeSet) : ∃ document, document ∈ documents := by
  cases haccepts with
  | @contributions contributions _ _ hrun =>
    rw [checkOffer_contributions_eq] at hrun
    obtain ⟨t, _, hcheck⟩ := yields_check.mp hrun
    obtain ⟨_, hexact, _⟩ := bind_eq_ok.mp hcheck
    obtain ⟨⟨⟩, hcount, _⟩ := bind_eq_ok.mp hexact
    have htwo := operationNodeSet_required hcontext.nodeSet
    have hpos : 0 < contributions.length := by
      rw [not_not.mp (failIf_eq_ok.mp hcount)]
      omega
    obtain ⟨contribution, hmem⟩ := List.exists_mem_of_length_pos hpos
    exact ⟨_, List.mem_map_of_mem hmem⟩
  | decision => exact ⟨_, List.mem_singleton.mpr rfl⟩
  | contribution => exact ⟨_, List.mem_singleton.mpr rfl⟩
  | persisted => exact ⟨_, List.mem_singleton.mpr rfl⟩
  | denial => exact ⟨_, List.mem_singleton.mpr rfl⟩

/-- **No document is accepted after its operation has expired, nor after it or a document that it
rests on has, exactly when** nothing is read from a clock, or a document of those accepted together,
or the authorization of the recipient key, expires no later than the operation. -/
theorem accepted_in_time_iff (hcontext : Authenticated c context nodeSet)
    {documents : List NodeDocument} (haccepts : Accepts c context nodeSet documents h) :
    (∀ h', Accepts c context nodeSet documents h' → ∀ t ∈ c.responseTimes context.now h',
      t < context.authenticated.statement.expiresAt ∧ ∀ document ∈ documents,
        ∀ expiry ∈ document.chainExpiries context.authenticated, t < expiry) ↔
      c.responseClock = false ∨
        (∃ document ∈ documents,
          document.expiresAt ≤ context.authenticated.statement.expiresAt) ∨
        context.authenticated.statement.recipientAuthorization.statement.expiresAt ≤
          context.authenticated.statement.expiresAt := by
  have hoperation := SignedRuntimeReleaseOperationV1.verify_eq_ok.mp hcontext.verified
  have hnow : context.now < context.authenticated.statement.expiresAt := by
    rw [hoperation.statementEq]
    exact hoperation.active.2
  constructor
  · intro hintime
    by_contra hnot
    rw [not_or, not_or, Bool.not_eq_false] at hnot
    obtain ⟨hclock, hdocuments, hauthorization⟩ := hnot
    rw [UInt64.not_le] at hauthorization
    -- they can be accepted when the operation expires, unless they were accepted later still
    obtain ⟨⟨t, ht⟩, hverifies⟩ := haccepts.verifiesAt hcontext
    have hbefore := (hintime h haccepts t ht).1
    have hlater : ∀ document ∈ documents, document.VerifiesAt context.authenticated nodeSet
        context.authenticated.statement.expiresAt := by
      intro document hdocument
      have hverified := hverifies t ht document hdocument
      have hlong : context.authenticated.statement.expiresAt < document.expiresAt :=
        UInt64.not_le.mp fun hle => hdocuments ⟨document, hdocument, hle⟩
      exact hverified.later (UInt64.le_of_lt hbefore) (hverified.chain_after hlong hauthorization)
    obtain ⟨h', haccepts', ht'⟩ := haccepts.late hclock (UInt64.le_of_lt hnow) hlater
    exact UInt64.lt_irrefl _ (hintime h' haccepts' _ ht').1
  · intro hcondition h' haccepts' t ht
    obtain ⟨_, hverifies⟩ := haccepts'.verifiesAt hcontext
    refine ⟨?_, fun document hdocument => (hverifies t ht document hdocument).inTime⟩
    rcases hcondition with hclock | ⟨document, hdocument, hshort⟩ | hshort
    · rw [RuntimeReleaseCoordinator.responseTimes, if_neg (Bool.eq_false_iff.mp hclock)] at ht
      rw [List.mem_singleton.mp ht]
      exact hnow
    · exact UInt64.lt_of_lt_of_le ((hverifies t ht document hdocument).inTime _
        document.expiresAt_mem_chain) hshort
    · obtain ⟨document, hdocument⟩ := haccepts'.nonempty hcontext
      exact UInt64.lt_of_lt_of_le ((hverifies t ht document hdocument).inTime _
        document.authorization_mem_chain) hshort

end

end

/-! ## 7. An acceptance after the operation has expired -/

section

attribute [local instance] acceptingCurves tailEchoCrypto constantWallet

open ReleaseSample

def shortSample : ReleaseSample := { sample with lifetime := 30 }

theorem shortSample_ok : shortSample.Ok := by decide

def shortContext : StartedOperationContext where
  draft := { sampleDraft with signedRuntimeReleaseOperation := shortSample.signed }
  signedRuntimeReleaseOperation := shortSample.signed
  authenticated := shortSample.operation
  orderedProviders := sampleCoordinator.selectedProviders
  replayableRightsDecisions := []
  now := 100
  mode := .exactResume

variable {c : RuntimeReleaseCoordinator}

theorem shortSample_accepts {t : UInt64} {h : History CoordinatorOp.Reply}
    (hreads : Reads c 100 t h) (hstart : 100 ≤ t.toNat + 5)
    (hend : t.toNat < 160) : Accepts c shortContext nodeSet
      ((sampleContributions shortSample).map .contribution) h := by
  have hcheck : checkContributions shortContext nodeSet (sampleContributions shortSample) t =
      .ok (.contributionsReady (sampleContributions shortSample)) :=
    bind_eq_ok.mpr ⟨_, sampleContributions_checked shortSample_ok hstart hend, rfl⟩
  have hrun := (yields_check (c := c)).mpr ⟨t, hreads, hcheck⟩
  have hyields : Yields (c.checkOffer shortContext.authenticated nodeSet shortContext.now
      (.contributionsReady (sampleContributions shortSample))) h
        (.ok (.contributionsReady (sampleContributions shortSample))) := by
    rw [checkOffer_contributions_eq]
    exact hrun
  exact .contributions hyields

theorem shortSample_authenticated (hissuer : c.expectedRuntimeIssuer = seedKey _ 6) :
    Authenticated c shortContext nodeSet := by
  refine ⟨?_, orElse_eq_ok.mpr epoch_nodeSet⟩
  rw [hissuer]
  exact signed_verify shortSample_ok (by decide) (by decide)

/-- **Contributions are accepted after the operation has expired**: the operation is over at 130, and
they are checked, and accepted, at 135. -/
theorem accepted_after_expiry :
    ∃ h, Authenticated sampleCoordinator.withResponseClock shortContext nodeSet ∧
      Accepts sampleCoordinator.withResponseClock shortContext nodeSet
        ((sampleContributions shortSample).map .contribution) h ∧
          ∃ t ∈ sampleCoordinator.withResponseClock.responseTimes shortContext.now h,
            shortContext.authenticated.statement.expiresAt ≤ t := by
  have hreads : Reads sampleCoordinator.withResponseClock 100 135 [⟨.clock, (135 : UInt64)⟩] :=
    .of_clock rfl (by decide)
  refine ⟨_, shortSample_authenticated rfl, shortSample_accepts hreads (by decide) (by decide), 135,
    ?_, by decide⟩
  rw [show shortContext.now = 100 from rfl, responseTimes_reads hreads]
  exact List.mem_singleton.mpr rfl

theorem accepted_in_time_iff_sample :
    sampleCoordinator.responseClock = false ∧ ∀ h', Accepts sampleCoordinator shortContext nodeSet
        ((sampleContributions shortSample).map .contribution) h' →
      ∀ t ∈ sampleCoordinator.responseTimes shortContext.now h',
        t < shortContext.authenticated.statement.expiresAt ∧
          ∀ document ∈ (sampleContributions shortSample).map NodeDocument.contribution,
            ∀ expiry ∈ document.chainExpiries shortContext.authenticated, t < expiry :=
  ⟨rfl, (accepted_in_time_iff (shortSample_authenticated rfl)
    (shortSample_accepts (.call rfl) (by decide) (by decide))).mpr (.inl rfl)⟩

end

end ElastosRuntime.ReleaseCoordinator
