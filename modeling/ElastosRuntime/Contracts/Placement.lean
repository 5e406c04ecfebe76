/-
# A custody epoch placed in a pool

`validate_custody_epoch_against_pool_at` (`custody_pool.rs`): a pool, an epoch and a committee
authorization of one policy authority, and the nodes of the epoch looked up in the pool.

What the function checks is spread over the verification of three documents, the validation that
their canonical forms repeat, and one loop.  `Placed` collects what that says about the nodes and
their members, `Authorized` what it says about the documents, and
`validateCustodyEpochAgainstPoolAt_eq_ok` puts them together.
-/
import ElastosRuntime.Contracts.ReleaseChain

namespace ElastosRuntime.Contracts

open Codec

/-! ## 1. Errors and verified documents -/

inductive CustodyPoolError where
  | contract (error : ContractError)
  | custodyEpoch (error : CustodyEpochError)
  | bindingMismatch (field : String)
  | unexpectedIssuer (field : String)
  | invalidPoolSignature
  | invalidCommitteeAuthorizationSignature
  | unknownNode
  | notYetValid
  | expired
  | revoked
  | policyViolation (rule : String)
deriving DecidableEq

@[reducible] def decEqId32 {domain : String} : DecidableEq (Id32 domain) := fun a b =>
  decidable_of_iff (a.bytes = b.bytes) ⟨fun h => by cases a; cases b; cases h; rfl, fun h => h ▸ rfl⟩

attribute [local instance] decEqId32

deriving instance DecidableEq for CustodyApprovedSuitesV1

deriving instance DecidableEq for CustodyPoolMemberStateV1

section

variable [Curves] [Crypto]

structure VerifiedCustodyPoolV1 where
  poolIdentity : CustodyPoolIdentityV1
  issuer : CustodyEpochIssuerKeyV1
  members : List CustodyPoolMemberV1

omit [Crypto] in
/-- As with the manifests, the binary search of the source is a search. -/
def VerifiedCustodyPoolV1.member (v : VerifiedCustodyPoolV1) (nodePublicKey : NodePublicKey) :
    Option CustodyPoolMemberV1 :=
  v.members.find? fun member => member.nodePublicKey = nodePublicKey

def SignedCustodyPoolV1.verify (v : SignedCustodyPoolV1)
    (expectedIssuer : CustodyEpochIssuerKeyV1) : Except CustodyPoolError VerifiedCustodyPoolV1 := do
  (requireCanonical v).mapError .contract
  failIf (v.statement.issuer ≠ expectedIssuer) (.unexpectedIssuer "custody_pool_issuer")
  verifySignature CustodyPoolError.contract .invalidPoolSignature v.statement.issuer v.statement
    v.signature
  let poolIdentity ← v.poolIdentity.mapError .contract
  pure ⟨poolIdentity, v.statement.issuer, v.statement.members⟩

def SignedCustodyCommitteeAuthorizationV1.authorizationIdentity
    (v : SignedCustodyCommitteeAuthorizationV1) :
    Except ContractError CustodyCommitteeAuthorizationIdentityV1 := SizedIdentity.of v

structure VerifiedCustodyCommitteeAuthorizationV1 where
  authorizationIdentity : CustodyCommitteeAuthorizationIdentityV1
  issuer : CustodyEpochIssuerKeyV1
  poolIdentity : CustodyPoolIdentityV1
  custodyEpochIdentity : CustodyEpochIdentityV1

def SignedCustodyCommitteeAuthorizationV1.verify (v : SignedCustodyCommitteeAuthorizationV1)
    (expectedIssuer : CustodyEpochIssuerKeyV1)
    (expectedAuthorizationIdentity : CustodyCommitteeAuthorizationIdentityV1)
    (expectedPoolIdentity : CustodyPoolIdentityV1)
    (expectedEpochIdentity : CustodyEpochIdentityV1) :
    Except CustodyPoolError VerifiedCustodyCommitteeAuthorizationV1 := do
  (requireCanonical v).mapError .contract
  let authorizationIdentity ← v.authorizationIdentity.mapError .contract
  failIf (authorizationIdentity ≠ expectedAuthorizationIdentity)
    (.bindingMismatch "custody_committee_authorization_identity")
  failIf (v.statement.issuer ≠ expectedIssuer)
    (.unexpectedIssuer "custody_committee_authorization_issuer")
  failIf (v.statement.poolIdentity ≠ expectedPoolIdentity)
    (.bindingMismatch "custody_pool_identity")
  failIf (v.statement.custodyEpochIdentity ≠ expectedEpochIdentity)
    (.bindingMismatch "custody_epoch_identity")
  verifySignature CustodyPoolError.contract .invalidCommitteeAuthorizationSignature
    v.statement.issuer v.statement v.signature
  pure ⟨authorizationIdentity, v.statement.issuer, v.statement.poolIdentity,
    v.statement.custodyEpochIdentity⟩

structure ValidatedCustodyCommitteeV1 where
  poolIdentity : CustodyPoolIdentityV1
  authorizationIdentity : CustodyCommitteeAuthorizationIdentityV1
  committee : VerifiedCustodyEpochV1

/-! ## 2. Placing the nodes -/

omit [Crypto] in
def validatePoolMemberActiveAt (member : CustodyPoolMemberV1) (nowUnixSeconds : UInt64) :
    Except CustodyPoolError Unit := do
  failIf (nowUnixSeconds < member.validFrom) .notYetValid
  failIf (member.validUntil ≤ nowUnixSeconds) .expired
  failIf (member.state = .revoked) .revoked

omit [Crypto] in
/-- The loop over the nodes, behind the operators and the failure domains that were seen. -/
def placeNodes (pool : VerifiedCustodyPoolV1) (approvedSuites : CustodyApprovedSuitesV1)
    (nowUnixSeconds : UInt64) : List CustodyPoolOperatorIdV1 → List CustodyPoolFailureDomainIdV1 →
      List CustodyNodeIdentityV1 → Except CustodyPoolError Unit
  | _, _, [] => pure ()
  | operators, domains, node :: nodes => do
    let member ← okOr (pool.member node.nodePublicKey) .unknownNode
    failIf (node.custodyPublicKey ≠ member.custodyPublicKey)
      (.bindingMismatch "node_custody_public_key")
    failIf (approvedSuites ≠ member.approvedSuites) (.bindingMismatch "approved_suites")
    validatePoolMemberActiveAt member nowUnixSeconds
    failIf (member.operatorId ∈ operators) (.policyViolation "duplicate_operator")
    failIf (member.failureDomainId ∈ domains) (.policyViolation "duplicate_failure_domain")
    placeNodes pool approvedSuites nowUnixSeconds (member.operatorId :: operators)
      (member.failureDomainId :: domains) nodes

def validateCustodyEpochAgainstPoolAt (expectedPolicyAuthority : CustodyEpochIssuerKeyV1)
    (expectedAuthorizationIdentity : CustodyCommitteeAuthorizationIdentityV1)
    (signedPool : SignedCustodyPoolV1) (signedEpoch : SignedCustodyEpochV1)
    (signedCommitteeAuthorization : SignedCustodyCommitteeAuthorizationV1)
    (nowUnixSeconds : UInt64) : Except CustodyPoolError ValidatedCustodyCommitteeV1 := do
  let verifiedPool ← signedPool.verify expectedPolicyAuthority
  let verifiedEpoch ← signedEpoch.verify.mapError .custodyEpoch
  failIf (verifiedEpoch.issuer ≠ expectedPolicyAuthority) (.unexpectedIssuer "custody_epoch_issuer")
  let verifiedAuthorization ← signedCommitteeAuthorization.verify expectedPolicyAuthority
    expectedAuthorizationIdentity verifiedPool.poolIdentity verifiedEpoch.epochIdentity
  failIf (verifiedEpoch.threshold.required ≠ 2 ∨ verifiedEpoch.threshold.total ≠ 3)
    (.policyViolation "committee_threshold")
  placeNodes verifiedPool verifiedEpoch.approvedSuites nowUnixSeconds [] [] verifiedEpoch.nodes
  pure ⟨verifiedPool.poolIdentity, verifiedAuthorization.authorizationIdentity, verifiedEpoch⟩

/-! ## 3. What is established -/

/-- A node of an epoch and the pool member it names, which may serve at the time. -/
structure Names (pool : CustodyPoolStatementV1) (approvedSuites : CustodyApprovedSuitesV1)
    (now : UInt64) (node : CustodyNodeIdentityV1) (member : CustodyPoolMemberV1) : Prop where
  listed : member ∈ pool.members
  nodePublicKey : member.nodePublicKey = node.nodePublicKey
  custodyPublicKey : member.custodyPublicKey = node.custodyPublicKey
  approvedSuites : member.approvedSuites = approvedSuites
  active : member.state = .active
  begun : member.validFrom ≤ now
  lasting : now < member.validUntil

/-- The nodes of a 2-of-3 epoch are three members of the pool that have nothing in common. -/
structure Placed (pool : CustodyPoolStatementV1) (epoch : CustodyEpochStatementV1) (now : UInt64)
    (members : List CustodyPoolMemberV1) : Prop where
  threshold : epoch.threshold = ⟨2, 3⟩
  coordinates : epoch.nodes.map (·.shareCoordinate.value) = [1, 2, 3]
  inOrder : Ascending CustodyNodeIdentityV1.order epoch.nodes
  named : List.Forall₂ (Names pool epoch.approvedSuites now) epoch.nodes members
  nodeKeys : (members.map (·.nodePublicKey)).Nodup
  custodyKeys : (members.map (·.custodyPublicKey)).Nodup
  operators : (members.map (·.operatorId)).Nodup
  failureDomains : (members.map (·.failureDomainId)).Nodup

/-- Three well-formed documents that one authority signed, of which the authorization is the
expected one and ties the epoch to the pool. -/
structure Authorized (authority : CustodyEpochIssuerKeyV1)
    (identity : CustodyCommitteeAuthorizationIdentityV1) (pool : SignedCustodyPoolV1)
    (epoch : SignedCustodyEpochV1) (authorization : SignedCustodyCommitteeAuthorizationV1) :
    Prop where
  poolCanonical : requireCanonical pool = .ok ()
  poolIssuer : pool.statement.issuer = authority
  poolSigned : SignedBy pool.statement.issuer.value pool.statement pool.signature
  epochCanonical : requireCanonical epoch = .ok ()
  epochIssuer : epoch.statement.issuer = authority
  epochSigned : SignedBy epoch.statement.issuer.value epoch.statement epoch.signature
  authorizationCanonical : requireCanonical authorization = .ok ()
  authorizationIdentity : authorization.authorizationIdentity = .ok identity
  authorizationIssuer : authorization.statement.issuer = authority
  authorizationSigned :
    SignedBy authorization.statement.issuer.value authorization.statement authorization.signature
  forPool : pool.poolIdentity = .ok authorization.statement.poolIdentity
  forEpoch : epoch.epochIdentity = .ok authorization.statement.custodyEpochIdentity

/-! ## 4. The loop -/

section

variable {pool : VerifiedCustodyPoolV1} {approvedSuites : CustodyApprovedSuitesV1} {now : UInt64}

variable {member : CustodyPoolMemberV1}

omit [Crypto] in
theorem validatePoolMemberActiveAt_eq_ok :
    validatePoolMemberActiveAt member now = .ok () ↔
      member.state = .active ∧ member.validFrom ≤ now ∧ now < member.validUntil := by
  simp only [validatePoolMemberActiveAt, bind_eq_ok, failIf_eq_ok, exists_unit, UInt64.not_lt,
    UInt64.not_le]
  have hstate : ¬member.state = .revoked ↔ member.state = .active := by
    cases member.state <;> simp
  rw [hstate]
  constructor
  · rintro ⟨hbegun, hlasting, hactive⟩
    exact ⟨hactive, hbegun, hlasting⟩
  · rintro ⟨hactive, hbegun, hlasting⟩
    exact ⟨hbegun, hlasting, hactive⟩

variable {nodes : List CustodyNodeIdentityV1}

omit [Crypto] in
/-- **What the loop accepts**, behind what was seen: members for all nodes, whose operators and
failure domains are new and differ from each other. -/
theorem placeNodes_eq_ok :
    ∀ {operators : List CustodyPoolOperatorIdV1} {domains : List CustodyPoolFailureDomainIdV1},
      placeNodes pool approvedSuites now operators domains nodes = .ok () ↔
        ∃ members, List.Forall₂ (fun node member =>
            pool.member node.nodePublicKey = some member ∧
              member.custodyPublicKey = node.custodyPublicKey ∧
              member.approvedSuites = approvedSuites ∧ member.state = .active ∧
              member.validFrom ≤ now ∧ now < member.validUntil) nodes members ∧
          (members.map (·.operatorId)).Nodup ∧ (members.map (·.failureDomainId)).Nodup ∧
          (∀ member ∈ members, member.operatorId ∉ operators) ∧
          ∀ member ∈ members, member.failureDomainId ∉ domains := by
  induction nodes with
  | nil =>
    intro operators domains
    refine ⟨fun _ => ⟨[], .nil, .nil, .nil, by simp, by simp⟩, fun _ => rfl⟩
  | cons node nodes ih =>
    intro operators domains
    simp only [placeNodes, bind_eq_ok, okOr_eq_ok, failIf_eq_ok, exists_unit, not_not,
      validatePoolMemberActiveAt_eq_ok, ih]
    constructor
    · rintro ⟨member, hmember, hcustody, hsuites, hactive, hoperator, hdomain, members, hrest,
        hoperators, hdomains, hnewOperators, hnewDomains⟩
      refine ⟨member :: members, .cons ⟨hmember, hcustody.symm, hsuites.symm, hactive⟩ hrest,
        ?_, ?_, ?_, ?_⟩
      · rw [List.map_cons, List.nodup_cons]
        refine ⟨fun hmem => ?_, hoperators⟩
        obtain ⟨other, hother, hsame⟩ := List.mem_map.mp hmem
        exact hnewOperators other hother (hsame ▸ List.mem_cons_self)
      · rw [List.map_cons, List.nodup_cons]
        refine ⟨fun hmem => ?_, hdomains⟩
        obtain ⟨other, hother, hsame⟩ := List.mem_map.mp hmem
        exact hnewDomains other hother (hsame ▸ List.mem_cons_self)
      · exact List.forall_mem_cons.mpr ⟨hoperator, fun other hother hmem =>
          hnewOperators other hother (List.mem_cons_of_mem _ hmem)⟩
      · exact List.forall_mem_cons.mpr ⟨hdomain, fun other hother hmem =>
          hnewDomains other hother (List.mem_cons_of_mem _ hmem)⟩
    · rintro ⟨_, hall, hoperators, hdomains, hnewOperators, hnewDomains⟩
      cases hall with
      | @cons _ member _ members hnode hrest =>
        obtain ⟨hmember, hcustody, hsuites, hactive⟩ := hnode
        rw [List.map_cons, List.nodup_cons] at hoperators hdomains
        rw [List.forall_mem_cons] at hnewOperators hnewDomains
        refine ⟨member, hmember, hcustody.symm, hsuites.symm, hactive, hnewOperators.1,
          hnewDomains.1, members, hrest, hoperators.2, hdomains.2, fun other hother hmem => ?_,
          fun other hother hmem => ?_⟩
        · rcases List.mem_cons.mp hmem with hsame | hmem
          · exact hoperators.1 (hsame ▸ List.mem_map.mpr ⟨other, hother, rfl⟩)
          · exact hnewOperators.2 other hother hmem
        · rcases List.mem_cons.mp hmem with hsame | hmem
          · exact hdomains.1 (hsame ▸ List.mem_map.mpr ⟨other, hother, rfl⟩)
          · exact hnewDomains.2 other hother hmem

omit [Curves] [Crypto] in
theorem nodup_of_ascending {α : Type} {key : α → List UInt8} {l : List α}
    (h : Ascending key l) : (l.map key).Nodup := by
  have hlt : (l.map key).Pairwise (· < ·) := List.isChain_iff_pairwise.mp h
  refine List.Pairwise.imp (fun hab => ?_) hlt
  rintro rfl
  exact Std.lt_irrefl hab

omit [Crypto] in
/-- In a pool whose members are in order, the search finds the member of a key. -/
theorem member_eq_some {key : NodePublicKey}
    (h : Ascending CustodyPoolMemberV1.order pool.members) :
    pool.member key = some member ↔ member ∈ pool.members ∧ member.nodePublicKey = key := by
  constructor
  · intro hfind
    exact ⟨List.mem_of_find?_eq_some hfind,
      by simpa using List.find?_some hfind⟩
  · rintro ⟨hmem, rfl⟩
    rw [VerifiedCustodyPoolV1.member]
    cases hfind : pool.members.find? fun other => other.nodePublicKey = member.nodePublicKey with
    | none =>
      have hnone := List.find?_eq_none.mp hfind member hmem
      simp at hnone
    | some found =>
      have hkey : found.nodePublicKey = member.nodePublicKey := by simpa using List.find?_some hfind
      have horder : found.order = member.order := congrArg NodePublicKey.order hkey
      rw [List.inj_on_of_nodup_map (nodup_of_ascending h) (List.mem_of_find?_eq_some hfind) hmem
        horder]

omit [Crypto] in
/-- The coordinates that the constructors hand out. -/
theorem coordinates_of_assignCoordinates :
    ∀ {index : Nat}, assignCoordinates index nodes = .ok nodes →
      nodes.map (·.shareCoordinate.value) =
        (List.range' index nodes.length).map fun i => UInt8.ofNat (i + 1) := by
  induction nodes with
  | nil => exact fun _ => rfl
  | cons node nodes ih =>
    intro index h
    obtain ⟨coordinate, hcoordinate, h⟩ := bind_eq_ok.mp h
    obtain ⟨rest, hrest, h⟩ := bind_eq_ok.mp h
    obtain ⟨hnode, rfl⟩ := List.cons.inj (Except.ok.inj h)
    have hvalue : node.shareCoordinate.value = UInt8.ofNat (index + 1) := by
      obtain ⟨⟨⟩, -, hnew⟩ := bind_eq_ok.mp hcoordinate
      rw [← hnode]
      unfold ShareCoordinateV1.new Checked.new at hnew
      split at hnew
      · cases hnew
        rfl
      · cases hnew
    rw [List.map_cons, ih hrest, hvalue, List.length_cons, List.range'_succ, List.map_cons]

end

/-! ## 5. The documents -/

section

variable {authority : CustodyEpochIssuerKeyV1} {identity : CustodyCommitteeAuthorizationIdentityV1}
  {pool : SignedCustodyPoolV1} {epoch : SignedCustodyEpochV1}
  {authorization : SignedCustodyCommitteeAuthorizationV1} {now : UInt64}

theorem SignedCustodyPoolV1.verify_eq_ok {verified : VerifiedCustodyPoolV1} :
    pool.verify authority = .ok verified ↔ requireCanonical pool = .ok () ∧
      pool.statement.issuer = authority ∧
      SignedBy pool.statement.issuer.value pool.statement pool.signature ∧
      ∃ poolIdentity, pool.poolIdentity = .ok poolIdentity ∧
        ⟨poolIdentity, pool.statement.issuer, pool.statement.members⟩ = verified := by
  simp only [SignedCustodyPoolV1.verify, bind_eq_ok, mapError_eq_ok, failIf_eq_ok, not_not,
    verifySignature_eq_ok, exists_unit, pure_eq_ok]

theorem SignedCustodyEpochV1.verify_eq_ok {verified : VerifiedCustodyEpochV1} :
    epoch.verify = .ok verified ↔ requireCanonical epoch = .ok () ∧
      SignedBy epoch.statement.issuer.value epoch.statement epoch.signature ∧
      ∃ epochIdentity, epoch.epochIdentity = .ok epochIdentity ∧
        epoch.toVerified epochIdentity = verified := by
  simp only [SignedCustodyEpochV1.verify, bind_eq_ok, mapError_eq_ok, verifySignature_eq_ok,
    exists_unit, pure_eq_ok]

theorem SignedCustodyCommitteeAuthorizationV1.verify_eq_ok {poolIdentity : CustodyPoolIdentityV1}
    {epochIdentity : CustodyEpochIdentityV1}
    {verified : VerifiedCustodyCommitteeAuthorizationV1} :
    authorization.verify authority identity poolIdentity epochIdentity = .ok verified ↔
      requireCanonical authorization = .ok () ∧
      authorization.authorizationIdentity = .ok identity ∧
      authorization.statement.issuer = authority ∧
      authorization.statement.poolIdentity = poolIdentity ∧
      authorization.statement.custodyEpochIdentity = epochIdentity ∧
      SignedBy authorization.statement.issuer.value authorization.statement
        authorization.signature ∧
      ⟨identity, authority, poolIdentity, epochIdentity⟩ = verified := by
  simp only [SignedCustodyCommitteeAuthorizationV1.verify, bind_eq_ok, mapError_eq_ok,
    failIf_eq_ok, not_not, verifySignature_eq_ok, exists_unit, pure_eq_ok]
  constructor
  · rintro ⟨hcanonical, _, hidentity, rfl, rfl, rfl, rfl, hsigned, rfl⟩
    exact ⟨hcanonical, hidentity, rfl, rfl, rfl, hsigned, rfl⟩
  · rintro ⟨hcanonical, hidentity, rfl, rfl, rfl, hsigned, rfl⟩
    exact ⟨hcanonical, _, hidentity, rfl, rfl, rfl, rfl, hsigned, rfl⟩

omit [Crypto] in
/-- What the canonical form of a pool says of its members. -/
theorem pool_inOrder (h : requireCanonical pool = .ok ()) :
    Ascending CustodyPoolMemberV1.order pool.statement.members := by
  obtain ⟨⟨⟩, hstatement, -⟩ := bind_eq_ok.mp (valid_of_requireCanonical h)
  exact (CustodyPoolStatementV1.valid_parts (valid_of_requireCanonical hstatement)).2.2

omit [Crypto] in
/-- What the canonical form of an epoch says of its nodes: as many as the threshold says, with the
coordinates of their places in the order of their keys, and no custody key twice. -/
theorem epoch_nodes (h : requireCanonical epoch = .ok ()) :
    epoch.statement.nodes.length = epoch.statement.threshold.total.toNat ∧
      epoch.statement.nodes.map (·.shareCoordinate.value) =
        (List.range' 0 epoch.statement.nodes.length).map (fun i => UInt8.ofNat (i + 1)) ∧
      Ascending CustodyNodeIdentityV1.order epoch.statement.nodes ∧
      (epoch.statement.nodes.map (·.custodyPublicKey)).Nodup := by
  obtain ⟨⟨⟩, hstatement, -⟩ := bind_eq_ok.mp (valid_of_requireCanonical h)
  obtain ⟨⟨⟩, -, h⟩ := bind_eq_ok.mp (valid_of_requireCanonical hstatement)
  obtain ⟨⟨⟩, -, h⟩ := bind_eq_ok.mp h
  obtain ⟨⟨⟩, -, h⟩ := bind_eq_ok.mp h
  obtain ⟨⟨⟩, hlen, h⟩ := bind_eq_ok.mp h
  obtain ⟨⟨⟩, hnodes, hkeys⟩ := bind_eq_ok.mp h
  rw [rejectIf_eq_ok, not_or, not_not] at hlen
  rw [rejectIf_eq_ok, not_not] at hkeys
  obtain ⟨hassign, hasc, -⟩ := checkNodes_eq_ok hnodes
  exact ⟨hlen.1, coordinates_of_assignCoordinates hassign, hasc, hkeys⟩

omit [Crypto] in
/-- The keys of the named members are the keys of the nodes. -/
theorem map_of_named {α : Type} {f : CustodyNodeIdentityV1 → α} {g : CustodyPoolMemberV1 → α}
    {names : CustodyNodeIdentityV1 → CustodyPoolMemberV1 → Prop}
    (hkey : ∀ node member, names node member → g member = f node)
    {nodes : List CustodyNodeIdentityV1} {members : List CustodyPoolMemberV1}
    (h : List.Forall₂ names nodes members) : members.map g = nodes.map f := by
  induction h with
  | nil => rfl
  | cons hnode _ ih => rw [List.map_cons, List.map_cons, hkey _ _ hnode, ih]

/-- **When an epoch is placed in a pool**: three documents of the authority that belong together,
and three members of the pool for the three nodes of a 2-of-3 epoch. -/
theorem validateCustodyEpochAgainstPoolAt_eq_ok {committee : ValidatedCustodyCommitteeV1} :
    validateCustodyEpochAgainstPoolAt authority identity pool epoch authorization now =
        .ok committee ↔
      Authorized authority identity pool epoch authorization ∧
      (∃ members, Placed pool.statement epoch.statement now members) ∧
      committee = ⟨authorization.statement.poolIdentity, identity,
        epoch.toVerified authorization.statement.custodyEpochIdentity⟩ := by
  simp only [validateCustodyEpochAgainstPoolAt, bind_eq_ok, mapError_eq_ok, failIf_eq_ok, not_not,
    exists_unit, pure_eq_ok, SignedCustodyPoolV1.verify_eq_ok, SignedCustodyEpochV1.verify_eq_ok,
    SignedCustodyCommitteeAuthorizationV1.verify_eq_ok, placeNodes_eq_ok]
  constructor
  · rintro ⟨_, ⟨hpool, rfl, hpoolSigned, _, hpoolIdentity, rfl⟩, _,
      ⟨hepoch, hepochSigned, _, hepochIdentity, rfl⟩, hissuer, _,
      ⟨hauth, hidentity, hauthIssuer, rfl, rfl, hauthSigned, rfl⟩, hthreshold,
      ⟨members, hmembers, hoperators, hdomains, -, -⟩, rfl⟩
    obtain ⟨hlen, hcoordinates, hinOrder, hcustody⟩ := epoch_nodes hepoch
    rw [not_or, not_not, not_not] at hthreshold
    have hnodes : epoch.statement.threshold = ⟨2, 3⟩ := by
      cases hsame : epoch.statement.threshold with
      | mk required total =>
        rw [SignedCustodyEpochV1.toVerified, hsame] at hthreshold
        rw [ThresholdV1.mk.injEq]
        exact hthreshold
    rw [hlen, hnodes] at hcoordinates
    have hnamed : List.Forall₂ (Names pool.statement epoch.statement.approvedSuites now)
        epoch.statement.nodes members := by
      refine hmembers.imp fun node member hnode => ?_
      obtain ⟨hfound, hkey, hsuites, hactive, hbegun, hlasting⟩ := hnode
      obtain ⟨hlisted, hnode⟩ := (member_eq_some (pool_inOrder hpool)).mp hfound
      exact ⟨hlisted, hnode, hkey, hsuites, hactive, hbegun, hlasting⟩
    refine ⟨⟨hpool, rfl, hpoolSigned, hepoch, hissuer, hepochSigned, hauth, hidentity, hauthIssuer,
      hauthSigned, hpoolIdentity, hepochIdentity⟩, ⟨members, hnodes, hcoordinates, hinOrder, hnamed,
      ?_, ?_, hoperators, hdomains⟩, rfl⟩
    · have hkeys : (epoch.statement.nodes.map (·.nodePublicKey)).Nodup := by
        refine List.Nodup.of_map NodePublicKey.order ?_
        rw [List.map_map]
        exact nodup_of_ascending hinOrder
      rwa [map_of_named (fun _ _ h => h.nodePublicKey) hnamed]
    · rwa [map_of_named (fun _ _ h => h.custodyPublicKey) hnamed]
  · rintro ⟨hauthorized, ⟨members, hplaced⟩, rfl⟩
    refine ⟨_, ⟨hauthorized.poolCanonical, hauthorized.poolIssuer, hauthorized.poolSigned, _,
      hauthorized.forPool, rfl⟩, _, ⟨hauthorized.epochCanonical, hauthorized.epochSigned, _,
      hauthorized.forEpoch, rfl⟩, hauthorized.epochIssuer, _, ⟨hauthorized.authorizationCanonical,
      hauthorized.authorizationIdentity, hauthorized.authorizationIssuer, rfl, rfl,
      hauthorized.authorizationSigned, rfl⟩, ?_, ⟨members, ?_, hplaced.operators,
      hplaced.failureDomains, by simp, by simp⟩, rfl⟩
    · rw [SignedCustodyEpochV1.toVerified, hplaced.threshold]
      exact not_or.mpr ⟨not_not.mpr rfl, not_not.mpr rfl⟩
    · refine hplaced.named.imp fun node member hnode => ?_
      exact ⟨(member_eq_some (pool_inOrder hauthorized.poolCanonical)).mpr
        ⟨hnode.listed, hnode.nodePublicKey⟩, hnode.custodyPublicKey, hnode.approvedSuites,
        hnode.active, hnode.begun, hnode.lasting⟩

end

end

/-! ## 6. A pool to evaluate the model with -/

namespace PlacementSample

section

attribute [local instance] acceptingCurves tailEchoCrypto

theorem length_seed (seed : UInt8) : (seed :: List.replicate 31 0).length = 32 := rfl

def seedId (seed : UInt8) : Bytes 32 := ⟨seed :: List.replicate 31 0, length_seed seed⟩

def member (seed : UInt8) : CustodyPoolMemberV1 where
  nodePublicKey := seedKey _ seed
  custodyPublicKey := seedWrapKey _ seed
  operatorId := ⟨seedId seed⟩
  failureDomainId := ⟨seedId seed⟩
  approvedSuites := ReleaseSample.suites
  validFrom := 0
  validUntil := 10
  state := .active

def members : List CustodyPoolMemberV1 := [member 1, member 2, member 3]

def pool : SignedCustodyPoolV1 := ⟨⟨seedKey _ 9, members⟩, ReleaseSample.signatureOf 9⟩

@[irreducible] def poolIdentity : CustodyPoolIdentityV1 :=
  okValue ⟨Bytes.zero 32, 1⟩ pool.poolIdentity

def authorization : SignedCustodyCommitteeAuthorizationV1 :=
  ⟨⟨seedKey _ 9, poolIdentity, ReleaseSample.epochIdentity⟩, ReleaseSample.signatureOf 9⟩

@[irreducible] def authorizationIdentity : CustodyCommitteeAuthorizationIdentityV1 :=
  okValue ⟨Bytes.zero 32, 1⟩ authorization.authorizationIdentity

theorem member_valid (seed : UInt8) : (member seed).validate = .ok () :=
  bind_eq_ok.mpr ⟨(), Checked.recheck_eq _, bind_eq_ok.mpr ⟨(), Checked.recheck_eq _, bind_eq_ok.mpr
    ⟨(), (CustodyPoolOperatorIdV1.encodes _).requireCanonical, bind_eq_ok.mpr
      ⟨(), (CustodyPoolFailureDomainIdV1.encodes _).requireCanonical, bind_eq_ok.mpr
        ⟨(), (CustodyApprovedSuitesV1.encodes suites_valid).requireCanonical, rfl⟩⟩⟩⟩⟩

theorem poolStatement_valid : pool.statement.validate = .ok () := by
  refine bind_eq_ok.mpr ⟨(), Checked.recheck_eq _, bind_eq_ok.mpr ⟨(), by decide, bind_eq_ok.mpr
    ⟨(), ?_, by decide⟩⟩⟩
  refine CustodyPoolStatementV1.checkMembers_of_ascending (fun m hm => ?_) (by decide)
    fun _ h => nomatch h
  obtain ⟨seed, rfl⟩ : ∃ seed, m = member seed := by
    simp only [pool, members, List.mem_cons, List.not_mem_nil, or_false] at hm
    rcases hm with rfl | rfl | rfl <;> exact ⟨_, rfl⟩
  exact (CustodyPoolMemberV1.encodes (member_valid seed)).requireCanonical

theorem pool_valid : pool.validate = .ok () :=
  bind_eq_ok.mpr ⟨(), (CustodyPoolStatementV1.encodes poolStatement_valid).requireCanonical, rfl⟩

theorem pool_encodes : Encodes pool (202 + 3 * 1697) :=
  SignedCustodyPoolV1.encodes pool_valid (by decide)

theorem poolIdentity_eq : pool.poolIdentity = .ok poolIdentity := by
  unfold poolIdentity
  exact eq_okValue _ (SizedIdentity.exists_of pool_encodes (by decide) (by decide))

theorem poolIdentity_valid : poolIdentity.validate = .ok () :=
  SizedIdentity.valid_of_eq_ok (show SizedIdentity.of pool = .ok _ from poolIdentity_eq)

theorem authorizationStatement_valid : authorization.statement.validate = .ok () :=
  bind_eq_ok.mpr ⟨(), Checked.recheck_eq _, bind_eq_ok.mpr
    ⟨(), (CustodyPoolIdentityV1.encodes poolIdentity_valid).requireCanonical,
      (CustodyEpochIdentityV1.encodes ReleaseSample.epochIdentity_valid).requireCanonical⟩⟩

theorem authorizationStatement_encodes : EncodesWithin authorization.statement 348 := by
  obtain ⟨n₁, h₁, hpool⟩ := (CustodyPoolIdentityV1.encodes poolIdentity_valid).nested (by omega)
  obtain ⟨n₂, h₂, hepoch⟩ :=
    (CustodyEpochIdentityV1.encodes ReleaseSample.epochIdentity_valid).nested (by omega)
  have hfields := (emits_fixed authorization.statement.issuer.value).bind (hpool.bind hepoch)
  exact .of_emits authorizationStatement_valid hfields (by decide) (by omega)

theorem authorization_encodes : EncodesWithin authorization 496 :=
  Signed.encodes (bind_eq_ok.mpr ⟨(), authorizationStatement_encodes.requireCanonical, rfl⟩)
    (fun _ => authorizationStatement_encodes) (by decide) (by decide)

theorem authorizationIdentity_eq :
    authorization.authorizationIdentity = .ok authorizationIdentity := by
  unfold authorizationIdentity
  exact eq_okValue _ (authorization_encodes.exists_of (by decide))

theorem authorized : Authorized (seedKey _ 9) authorizationIdentity pool ReleaseSample.epoch
    authorization where
  poolCanonical := pool_encodes.requireCanonical
  poolIssuer := rfl
  poolSigned := ReleaseSample.signedBy _ 9
    ⟨_, Nat.le_refl _, CustodyPoolStatementV1.encodes poolStatement_valid⟩
  epochCanonical := (SignedCustodyEpochV1.encodes ReleaseSample.epoch_valid).requireCanonical
  epochIssuer := rfl
  epochSigned := ReleaseSample.signedBy _ 9
    (CustodyEpochStatementV1.encodes ReleaseSample.epochStatement_valid)
  authorizationCanonical := authorization_encodes.requireCanonical
  authorizationIdentity := authorizationIdentity_eq
  authorizationIssuer := rfl
  authorizationSigned := ReleaseSample.signedBy _ 9 authorizationStatement_encodes
  forPool := poolIdentity_eq
  forEpoch := ReleaseSample.epochIdentity_eq

theorem placed : Placed pool.statement ReleaseSample.epoch.statement 5 members where
  threshold := rfl
  coordinates := rfl
  inOrder := by decide
  named := .cons ⟨by simp [pool, members], rfl, rfl, rfl, rfl, by decide, by decide⟩ <|
    .cons ⟨by simp [pool, members], rfl, rfl, rfl, rfl, by decide, by decide⟩ <|
    .cons ⟨by simp [pool, members], rfl, rfl, rfl, rfl, by decide, by decide⟩ .nil
  nodeKeys := by decide
  custodyKeys := by decide
  operators := by decide
  failureDomains := by decide

end

end PlacementSample

section

attribute [local instance] acceptingCurves tailEchoCrypto

open PlacementSample

theorem validateCustodyEpochAgainstPoolAt_eq_ok_sample :
    validateCustodyEpochAgainstPoolAt (seedKey _ 9) authorizationIdentity pool ReleaseSample.epoch
      authorization 5 = .ok ⟨poolIdentity, authorizationIdentity,
        ReleaseSample.epoch.toVerified ReleaseSample.epochIdentity⟩ :=
  validateCustodyEpochAgainstPoolAt_eq_ok.mpr ⟨authorized, ⟨members, placed⟩, rfl⟩

/-- An epoch that is placed in its pool is refused with an authorization that is not the expected
one. -/
theorem placed_epoch_refused : ¬∀ (authority : CustodyEpochIssuerKeyV1)
    (identity : CustodyCommitteeAuthorizationIdentityV1) (pool : SignedCustodyPoolV1)
    (epoch : SignedCustodyEpochV1) (authorization : SignedCustodyCommitteeAuthorizationV1)
    (now : UInt64),
    (∃ committee, validateCustodyEpochAgainstPoolAt authority identity pool epoch authorization
      now = .ok committee) ↔
    (∃ verified, pool.verify authority = .ok verified) ∧
      (∃ verified, epoch.verify = .ok verified ∧ verified.issuer = authority) ∧
      ∃ members, Placed pool.statement epoch.statement now members := by
  intro hall
  let other : CustodyCommitteeAuthorizationIdentityV1 :=
    ⟨PlacementSample.authorizationIdentity.sha256, PlacementSample.authorizationIdentity.bytes + 1⟩
  have hpool := SignedCustodyPoolV1.verify_eq_ok.mpr ⟨authorized.poolCanonical,
    authorized.poolIssuer, authorized.poolSigned, _, authorized.forPool, rfl⟩
  have hepoch := SignedCustodyEpochV1.verify_eq_ok.mpr ⟨authorized.epochCanonical,
    authorized.epochSigned, _, authorized.forEpoch, rfl⟩
  obtain ⟨committee, h⟩ := (hall (seedKey _ 9) other pool ReleaseSample.epoch authorization 5).mpr
    ⟨⟨_, hpool⟩, ⟨_, hepoch, rfl⟩, members, placed⟩
  have hidentity := (validateCustodyEpochAgainstPoolAt_eq_ok.mp h).1.authorizationIdentity
  rw [authorizationIdentity_eq] at hidentity
  have hbytes : PlacementSample.authorizationIdentity.bytes =
      PlacementSample.authorizationIdentity.bytes + 1 :=
    congrArg SizedIdentity.bytes (Except.ok.inj hidentity)
  exact absurd hbytes.symm (by simp)

end

end ElastosRuntime.Contracts
