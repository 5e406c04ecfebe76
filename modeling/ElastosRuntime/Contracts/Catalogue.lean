/-
# Every record, one codec

The 54 records of the contracts and what holds of them together: each decodes to what was
encoded, each encodes back to what was decoded, and no byte string is two records.  The first two
are the round trips of `Canonical`; the third holds because the domains are different words
without a zero byte, so the first zero byte of an encoding tells where its domain ends.
-/
import ElastosRuntime.Contracts.Release

namespace ElastosRuntime.Contracts

open Codec

/-! ## 1. The records -/

/-- A name for each implementation of `CanonicalBody`. -/
inductive BodyKind where
  | recipientKeyIdentity
  | profileIdentity
  | encryptedContentIdentity
  | rightsPolicyIdentity
  | keyEnvelopeIdentity
  | protectedContentBinding
  | nodeSet
  | custodyNodeIdentity
  | custodyEnvelopeManifest
  | pqHybridSealedShare
  | custodyEnvelope
  | storedShareAad
  | releasedShareAad
  | custodyApprovedSuites
  | custodyEpochIdentity
  | custodyEpochStatement
  | signedCustodyEpoch
  | custodyPoolOperatorId
  | custodyPoolFailureDomainId
  | custodyPoolMember
  | custodyPoolIdentity
  | custodyCommitteeAuthorizationIdentity
  | custodyPoolStatement
  | signedCustodyPool
  | custodyCommitteeAuthorizationStatement
  | signedCustodyCommitteeAuthorization
  | runtimeCustodyProvisioningId
  | custodyNodeProvisioningRecordIdentity
  | custodyNodeProvisioningRecord
  | runtimeCustodyProvisioningStatement
  | signedRuntimeCustodyProvisioning
  | contentAccessId
  | rightsObservationFinality
  | rightsPolicyBody
  | rightsEvaluationEvidenceRequest
  | rightsEvaluationEvidence
  | rightsAuthorityScope
  | rightsRequest
  | walletSignedRightsRequest
  | rightsReceiptStatement
  | signedRightsReceipt
  | recipientKeyAuthorizationStatement
  | signedRecipientKeyAuthorization
  | releaseAuthorityScope
  | keyReleaseRequest
  | nodeRightsDecisionStatement
  | signedNodeRightsDecision
  | recipientSealedContribution
  | nodeContributionStatement
  | signedNodeContribution
  | terminalReceiptStatement
  | signedTerminalReceipt
  | runtimeReleaseOperationStatement
  | signedRuntimeReleaseOperation
deriving DecidableEq

variable [Curves] [Crypto]

/-- A record together with its codec and the proof that the two halves of it agree. -/
structure Body where
  Carrier : Type
  [codec : CanonicalBody Carrier]
  [lawful : LawfulBody Carrier]

attribute [instance] Body.codec Body.lawful

def BodyKind.body : BodyKind → Body
  | recipientKeyIdentity => ⟨RecipientKeyIdentityV1⟩
  | profileIdentity => ⟨ProfileIdentityV1⟩
  | encryptedContentIdentity => ⟨EncryptedContentIdentityV1⟩
  | rightsPolicyIdentity => ⟨RightsPolicyIdentityV1⟩
  | keyEnvelopeIdentity => ⟨KeyEnvelopeIdentityV1⟩
  | protectedContentBinding => ⟨ProtectedContentBindingV1⟩
  | nodeSet => ⟨NodeSetV1⟩
  | custodyNodeIdentity => ⟨CustodyNodeIdentityV1⟩
  | custodyEnvelopeManifest => ⟨CustodyEnvelopeManifestV1⟩
  | pqHybridSealedShare => ⟨PqHybridSealedShareV1⟩
  | custodyEnvelope => ⟨CustodyEnvelopeV1⟩
  | storedShareAad => ⟨StoredShareAadV1⟩
  | releasedShareAad => ⟨ReleasedShareAadV1⟩
  | custodyApprovedSuites => ⟨CustodyApprovedSuitesV1⟩
  | custodyEpochIdentity => ⟨CustodyEpochIdentityV1⟩
  | custodyEpochStatement => ⟨CustodyEpochStatementV1⟩
  | signedCustodyEpoch => ⟨SignedCustodyEpochV1⟩
  | custodyPoolOperatorId => ⟨CustodyPoolOperatorIdV1⟩
  | custodyPoolFailureDomainId => ⟨CustodyPoolFailureDomainIdV1⟩
  | custodyPoolMember => ⟨CustodyPoolMemberV1⟩
  | custodyPoolIdentity => ⟨CustodyPoolIdentityV1⟩
  | custodyCommitteeAuthorizationIdentity => ⟨CustodyCommitteeAuthorizationIdentityV1⟩
  | custodyPoolStatement => ⟨CustodyPoolStatementV1⟩
  | signedCustodyPool => ⟨SignedCustodyPoolV1⟩
  | custodyCommitteeAuthorizationStatement => ⟨CustodyCommitteeAuthorizationStatementV1⟩
  | signedCustodyCommitteeAuthorization => ⟨SignedCustodyCommitteeAuthorizationV1⟩
  | runtimeCustodyProvisioningId => ⟨RuntimeCustodyProvisioningIdV1⟩
  | custodyNodeProvisioningRecordIdentity => ⟨CustodyNodeProvisioningRecordIdentityV1⟩
  | custodyNodeProvisioningRecord => ⟨CustodyNodeProvisioningRecordV1⟩
  | runtimeCustodyProvisioningStatement => ⟨RuntimeCustodyProvisioningStatementV1⟩
  | signedRuntimeCustodyProvisioning => ⟨SignedRuntimeCustodyProvisioningV1⟩
  | contentAccessId => ⟨ContentAccessIdV1⟩
  | rightsObservationFinality => ⟨RightsObservationFinalityV1⟩
  | rightsPolicyBody => ⟨RightsPolicyBodyV1⟩
  | rightsEvaluationEvidenceRequest => ⟨RightsEvaluationEvidenceRequestV1⟩
  | rightsEvaluationEvidence => ⟨RightsEvaluationEvidenceV1⟩
  | rightsAuthorityScope => ⟨RightsAuthorityScopeV1⟩
  | rightsRequest => ⟨RightsRequestV1⟩
  | walletSignedRightsRequest => ⟨WalletSignedRightsRequestV1⟩
  | rightsReceiptStatement => ⟨RightsReceiptStatementV1⟩
  | signedRightsReceipt => ⟨SignedRightsReceiptV1⟩
  | recipientKeyAuthorizationStatement => ⟨RecipientKeyAuthorizationStatementV1⟩
  | signedRecipientKeyAuthorization => ⟨SignedRecipientKeyAuthorizationV1⟩
  | releaseAuthorityScope => ⟨ReleaseAuthorityScopeV1⟩
  | keyReleaseRequest => ⟨KeyReleaseRequestV1⟩
  | nodeRightsDecisionStatement => ⟨NodeRightsDecisionStatementV1⟩
  | signedNodeRightsDecision => ⟨SignedNodeRightsDecisionV1⟩
  | recipientSealedContribution => ⟨RecipientSealedContributionV1⟩
  | nodeContributionStatement => ⟨NodeContributionStatementV1⟩
  | signedNodeContribution => ⟨SignedNodeContributionV1⟩
  | terminalReceiptStatement => ⟨TerminalReceiptStatementV1⟩
  | signedTerminalReceipt => ⟨SignedTerminalReceiptV1⟩
  | runtimeReleaseOperationStatement => ⟨RuntimeReleaseOperationStatementV1⟩
  | signedRuntimeReleaseOperation => ⟨SignedRuntimeReleaseOperationV1⟩

abbrev BodyKind.Carrier (k : BodyKind) : Type := k.body.Carrier

/-! ## 2. Domains -/

/-- The bytes of a record's domain. -/
def BodyKind.domain (k : BodyKind) : List UInt8 := utf8Bytes (CanonicalBody.DOMAIN k.Carrier)

/-- The domain at a position; the libraries do not matter to it. -/
def domainAt (i : Nat) : List UInt8 :=
  @BodyKind.domain acceptingCurves keyEchoCrypto (BodyKind.ofNat i)

theorem domain_eq (k : BodyKind) : k.ctorIdx < 54 ∧ k.domain = domainAt k.ctorIdx := by
  cases k <;> exact ⟨by decide, rfl⟩

omit [Curves] [Crypto] in
/-- **The domains are different words.**  Compared as the numbers their bytes spell, which is what
the kernel compares fastest. -/
theorem domainAt_nodup : ((List.range 54).map fun i => ofBeBytes (domainAt i)).Nodup := by
  decide +kernel

omit [Curves] [Crypto] in
/-- **No domain contains a zero byte.** -/
theorem zero_notMem_domainAt : ∀ i < 54, 0 ∉ domainAt i := by decide +kernel

theorem BodyKind.domain_injective {k k' : BodyKind} (h : k.domain = k'.domain) : k = k' := by
  obtain ⟨hi, hk⟩ := domain_eq k
  obtain ⟨hi', hk'⟩ := domain_eq k'
  have hnum : ofBeBytes (domainAt k.ctorIdx) = ofBeBytes (domainAt k'.ctorIdx) := by
    rw [← hk, ← hk', h]
  have hidx : k.ctorIdx = k'.ctorIdx :=
    List.inj_on_of_nodup_map domainAt_nodup (List.mem_range.mpr hi) (List.mem_range.mpr hi') hnum
  rw [← BodyKind.ofNat_ctorIdx k, hidx, BodyKind.ofNat_ctorIdx]

theorem BodyKind.zero_notMem_domain (k : BodyKind) : 0 ∉ k.domain := by
  obtain ⟨hi, hk⟩ := domain_eq k
  rw [hk]
  exact zero_notMem_domainAt _ hi

omit [Curves] [Crypto] in
/-- The first zero byte ends the first part. -/
theorem takeWhile_ne_zero {d rest : List UInt8} (h : 0 ∉ d) :
    (d ++ [0] ++ rest).takeWhile (· ≠ 0) = d := by
  rw [List.append_assoc, List.takeWhile_append_of_pos]
  · simp
  · intro b hb
    exact decide_eq_true (ne_of_mem_of_not_mem hb h)

/-- **One byte string, one record**: what two records accept starts with the domains of both. -/
theorem kind_unique {k k' : BodyKind} {bytes : List UInt8} {v : k.Carrier} {v' : k'.Carrier}
    (h : fromCanonicalBytes bytes = .ok v) (h' : fromCanonicalBytes bytes = .ok v') : k = k' := by
  obtain ⟨fields, hb⟩ := header_of_fromCanonicalBytes h
  obtain ⟨fields', hb'⟩ := header_of_fromCanonicalBytes h'
  refine BodyKind.domain_injective ?_
  calc k.domain
      = bytes.takeWhile (· ≠ 0) := by rw [hb]; exact (takeWhile_ne_zero k.zero_notMem_domain).symm
    _ = k'.domain := by rw [hb']; exact takeWhile_ne_zero k'.zero_notMem_domain

/-! ## 3. The codec -/

/-- **The canonical codec is a bijection on its image, for every record.**  A value that encodes
is what its encoding decodes to; an accepted byte string is the encoding of what it decodes to;
and no byte string is accepted for two records. -/
theorem canonical_codec_bijective :
    (∀ (k : BodyKind) (v : k.Carrier) (bytes : List UInt8),
      canonicalBytes v = .ok bytes → fromCanonicalBytes bytes = .ok v) ∧
    (∀ (k : BodyKind) (v : k.Carrier) (bytes : List UInt8),
      fromCanonicalBytes bytes = .ok v → canonicalBytes v = .ok bytes) ∧
    (∀ (k k' : BodyKind) (v : k.Carrier) (v' : k'.Carrier) (bytes : List UInt8),
      fromCanonicalBytes bytes = .ok v → fromCanonicalBytes bytes = .ok v' → k = k') :=
  ⟨fun _ _ _ => fromCanonicalBytes_of_canonicalBytes,
    fun _ _ _ => canonicalBytes_of_fromCanonicalBytes, fun _ _ _ _ _ => kind_unique⟩

omit [Curves] [Crypto] in
/-- The envelope of a KiB of content, two of whose three nodes release it: it encodes, its
encoding decodes to it and encodes back, and is not the encoding of a node set. -/
theorem canonical_codec_key_envelope :
    letI := acceptingCurves
    letI := keyEchoCrypto
    let v : KeyEnvelopeIdentityV1 :=
      ⟨⟨Bytes.zero 32, 1024⟩, Bytes.zero 32, 4096, Bytes.zero 32, ⟨2, 3⟩, ⟨Bytes.zero 32, 1⟩,
        ⟨Bytes.zero 32, 1⟩, ⟨Bytes.zero 32, 1⟩⟩
    ∃ bytes, canonicalBytes v = .ok bytes ∧
      (fromCanonicalBytes bytes : Except ContractError KeyEnvelopeIdentityV1) = .ok v ∧
      (fromCanonicalBytes bytes : Except ContractError NodeSetV1).isOk = false := by
  let _ := acceptingCurves
  let _ := keyEchoCrypto
  intro v
  obtain ⟨encodes, decodes, unique⟩ := canonical_codec_bijective
  obtain ⟨bytes, hbytes⟩ : ∃ bytes, canonicalBytes v = .ok bytes := ⟨_, rfl⟩
  have hv := encodes .keyEnvelopeIdentity v bytes hbytes
  refine ⟨bytes, decodes .keyEnvelopeIdentity v bytes hv, hv, ?_⟩
  cases h : (fromCanonicalBytes bytes : Except ContractError NodeSetV1) with
  | error e => rfl
  | ok w => exact nomatch unique .keyEnvelopeIdentity .nodeSet v w bytes hv h

/-! ## 4. What a hash names -/

omit [Curves] [Crypto] in
theorem build_eq_ok {α : Type} {validate : α → Except ContractError Unit} {value built : α} :
    build validate value = .ok built ↔ validate value = .ok () ∧ value = built := by
  rw [build, bind_eq_ok]
  exact ⟨fun ⟨_, h, h'⟩ => ⟨h, Except.ok.inj h'⟩, fun ⟨h, h'⟩ => ⟨(), h, congrArg _ h'⟩⟩

omit [Curves] [Crypto] in
/-- A constructor that sorts what it is given and checks the result. -/
theorem build_sorted_iff {α β : Type} {key : α → List UInt8} {l other : List α} {v : β}
    {validate : β → Except ContractError Unit} (make : List α → β)
    (hmake : Function.Injective make) (hasc : ∀ l, validate (make l) = .ok () → Ascending key l)
    (h : build validate (make (sortByKey key l)) = .ok v) :
    build validate (make (sortByKey key other)) = .ok v ↔ other.Perm l := by
  obtain ⟨hvalid, rfl⟩ := build_eq_ok.mp h
  rw [build_eq_ok, ← sortByKey_eq_iff_perm (hasc _ hvalid)]
  exact ⟨fun hother => hmake hother.2, fun hother => by rw [hother]; exact ⟨hvalid, rfl⟩⟩

omit [Crypto] in
/-- Handing out coordinates leaves the keys alone. -/
theorem order_of_assignCoordinates : ∀ {index : Nat} {nodes placed : List CustodyNodeIdentityV1},
    assignCoordinates index nodes = .ok placed →
      placed.map CustodyNodeIdentityV1.order = nodes.map CustodyNodeIdentityV1.order
  | _, [], _, h => by
    cases h
    rfl
  | _, node :: nodes, _, h => by
    obtain ⟨_, _, h⟩ := bind_eq_ok.mp h
    obtain ⟨_, hrest, h⟩ := bind_eq_ok.mp h
    cases h
    exact congrArg (List.cons node.order) (order_of_assignCoordinates hrest)

omit [Crypto] in
/-- The nodes of an accepted list can be given in any order. -/
theorem placed_of_perm {nodes other placed : List CustodyNodeIdentityV1} {threshold : ThresholdV1}
    {field : String} (hvalid : validateCustodyNodeSet placed threshold field = .ok ())
    (h : assignCoordinates 0 (sortByKey CustodyNodeIdentityV1.order nodes) = .ok placed)
    (hperm : other.Perm nodes) :
    sortByKey CustodyNodeIdentityV1.order other = sortByKey CustodyNodeIdentityV1.order nodes := by
  obtain ⟨⟨⟩, _, hvalid⟩ := bind_eq_ok.mp hvalid
  obtain ⟨⟨⟩, _, hvalid⟩ := bind_eq_ok.mp hvalid
  obtain ⟨⟨⟩, hvalid, _⟩ := bind_eq_ok.mp hvalid
  refine (sortByKey_eq_iff_perm ?_).mpr hperm
  rw [Ascending, ← order_of_assignCoordinates h]
  exact (checkNodes_eq_ok hvalid).2.1

omit [Crypto] in
/-- **A record does not tell in which order its parts were given**, and tells everything else of
them: once a constructor accepts a list, it makes the same record of another list exactly if that
has the same elements.  Nodes may be given in any order too; their coordinates are handed out. -/
theorem parts_in_any_order :
    (∀ threshold members other v, NodeSetV1.new threshold members = .ok v →
      (NodeSetV1.new threshold other = .ok v ↔ other.Perm members)) ∧
    (∀ issuer members other v, CustodyPoolStatementV1.new issuer members = .ok v →
      (CustodyPoolStatementV1.new issuer other = .ok v ↔ other.Perm members)) ∧
    (∀ request binding issuer outcome refs other issued expires v,
      TerminalReceiptStatementV1.new request binding issuer outcome refs issued expires = .ok v →
      (TerminalReceiptStatementV1.new request binding issuer outcome other issued expires =
        .ok v ↔ other.Perm refs)) ∧
    (∀ issuer suites threshold nodes other v,
      CustodyEpochStatementV1.new issuer suites threshold nodes = .ok v → other.Perm nodes →
      CustodyEpochStatementV1.new issuer suites threshold other = .ok v) ∧
    ∀ content pool epoch authorization threshold commitment nodes other v,
      CustodyEnvelopeManifestV1.new content pool epoch authorization threshold commitment nodes =
        .ok v → other.Perm nodes →
      CustodyEnvelopeManifestV1.new content pool epoch authorization threshold commitment other =
        .ok v := by
  refine ⟨?_, ?_, ?_, ?_, ?_⟩
  · intro threshold members other v h
    exact build_sorted_iff (fun members => NodeSetV1.mk threshold members)
      (fun _ _ h => congrArg NodeSetV1.members h) (fun _ h => (NodeSetV1.valid_parts h).2.2) h
  · intro issuer members other v h
    exact build_sorted_iff (fun members => CustodyPoolStatementV1.mk issuer members)
      (fun _ _ h => congrArg CustodyPoolStatementV1.members h)
      (fun _ h => (CustodyPoolStatementV1.valid_parts h).2.2) h
  · intro request binding issuer outcome refs other issued expires v h
    exact build_sorted_iff
      (fun refs => TerminalReceiptStatementV1.mk request binding issuer outcome refs issued expires)
      (fun _ _ h => congrArg TerminalReceiptStatementV1.contributionRefs h)
      (fun _ h => (TerminalReceiptStatementV1.refs_valid h).1) h
  · intro issuer suites threshold nodes other v h hperm
    obtain ⟨placed, hplaced, hbuild⟩ := bind_eq_ok.mp h
    obtain ⟨hvalid, rfl⟩ := build_eq_ok.mp hbuild
    obtain ⟨⟨⟩, _, hvalid⟩ := bind_eq_ok.mp hvalid
    obtain ⟨⟨⟩, _, hvalid⟩ := bind_eq_ok.mp hvalid
    rwa [CustodyEpochStatementV1.new, placed_of_perm hvalid hplaced hperm]
  · intro content pool epoch authorization threshold commitment nodes other v h hperm
    obtain ⟨placed, hplaced, hbuild⟩ := bind_eq_ok.mp h
    obtain ⟨hvalid, rfl⟩ := build_eq_ok.mp hbuild
    rwa [CustodyEnvelopeManifestV1.new,
      placed_of_perm (CustodyEnvelopeManifestV1.nodes_valid hvalid) hplaced hperm]

omit [Curves] [Crypto] in
theorem parts_in_any_order_sample : letI := acceptingCurves
    ∃ v, NodeSetV1.new ⟨2, 3⟩ [seedKey _ 1, seedKey _ 2, seedKey _ 3] = .ok v ∧
      NodeSetV1.new ⟨2, 3⟩ [seedKey _ 3, seedKey _ 1, seedKey _ 2] = .ok v := by
  let _ := acceptingCurves
  have hvalid : NodeSetV1.validate ⟨⟨2, 3⟩, [seedKey _ 1, seedKey _ 2, seedKey _ 3]⟩ = .ok () := by
    decide
  have h : ∃ v, NodeSetV1.new ⟨2, 3⟩ [seedKey _ 1, seedKey _ 2, seedKey _ 3] = .ok v := by
    rw [NodeSetV1.new, (NodeSetV1.valid_parts hvalid).2.2.sortByKey_eq]
    exact ⟨_, build_eq hvalid⟩
  obtain ⟨v, h⟩ := h
  exact ⟨v, h, (parts_in_any_order.1 _ _ _ _ h).mpr
    (List.perm_append_singleton _ [seedKey _ 1, seedKey _ 2]).symm⟩

end ElastosRuntime.Contracts
