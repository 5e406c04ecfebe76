/-
# A record that passes its check encodes

The encoder can fail in two ways: a nested record or a byte string can be longer than its two-byte
length prefix allows, and a nested record can fail its own check.  For the records of a release
neither happens once the outer check has passed, because every variable part of them is bounded:
suite names by 96 bytes, node lists by 16 nodes, sealed contributions by 16 KiB.

`EncodesWithin value n` states that, and the theorems of this module prove it record by record,
each from those of its parts.  So `canonical_bytes()?` cannot fail on a record that was built, and
its hash is defined.
-/
import ElastosRuntime.Contracts.PoolCapacity
import ElastosRuntime.Contracts.Release

namespace ElastosRuntime.Contracts

open Codec CanonicalBody

/-- The record encodes, in at most `n` bytes. -/
def EncodesWithin {α : Type} [CanonicalBody α] (value : α) (n : Nat) : Prop :=
  ∃ m ≤ n, Encodes value m

namespace EncodesWithin

variable {α : Type} [CanonicalBody α] {value : α} {n m : Nat}

/-- No domain of the contracts is longer than 79 bytes. -/
theorem of_emits (hv : validate value = .ok ()) (h : Emits (encodeFields value) m)
    (hd : (domainHeader (DOMAIN α)).length ≤ 80) (hn : 80 + m ≤ n) : EncodesWithin value n :=
  ⟨_, by omega, .of_emits hv h rfl⟩

theorem nested (h : EncodesWithin value n) (hn : n ≤ 65535) :
    ∃ m ≤ n + 2, Emits (Encoder.nested value) m :=
  let ⟨m, hm, he⟩ := h
  ⟨2 + m, by omega, he.nested (hm.trans hn)⟩

theorem requireCanonical (h : EncodesWithin value n) : Contracts.requireCanonical value = .ok () :=
  let ⟨_, _, he⟩ := h
  he.requireCanonical

theorem canonicalHash [Crypto] (h : EncodesWithin value n) :
    ∃ digest, Contracts.canonicalHash value = .ok digest :=
  let ⟨_, _, _, hbytes, _⟩ := h
  ⟨_, bind_eq_ok.mpr ⟨_, hbytes, rfl⟩⟩

/-- A document within the bound of an identity has that identity. -/
theorem exists_of [LawfulBody α] [Crypto] {s : IdentitySpec} (h : EncodesWithin value n)
    (hn : n ≤ s.maximum.toNat) :
    ∃ identity : SizedIdentity s, SizedIdentity.of value = .ok identity := by
  obtain ⟨m, hm, bytes, hbytes, rfl⟩ := h
  obtain ⟨fields, hheader⟩ :=
    header_of_fromCanonicalBytes (fromCanonicalBytes_of_canonicalBytes hbytes)
  refine SizedIdentity.exists_of ⟨bytes, hbytes, rfl⟩ ?_ (hm.trans hn)
  rw [hheader, domainHeader, List.length_append, List.length_append, List.length_singleton]
  omega

end EncodesWithin

/-! ## 1. Identities -/

theorem EncryptedContentIdentityV1.encodes {v : EncryptedContentIdentityV1}
    (h : v.validate = .ok ()) : EncodesWithin v 120 :=
  .of_emits h ((emits_fixed v.ciphertextSha256).bind (emits_u64 v.ciphertextBytes))
    (by decide) (by omega)

theorem SizedIdentity.encodes {s : IdentitySpec} {v : SizedIdentity s} (h : v.validate = .ok ())
    (hd : (domainHeader s.domain).length ≤ 80) : EncodesWithin v 116 :=
  .of_emits h ((emits_fixed v.sha256).bind (emits_u32 v.bytes)) hd (by omega)

theorem RightsPolicyIdentityV1.encodes {v : RightsPolicyIdentityV1} (h : v.validate = .ok ()) :
    EncodesWithin v 116 := SizedIdentity.encodes h (by decide)

theorem CustodyEpochIdentityV1.encodes {v : CustodyEpochIdentityV1} (h : v.validate = .ok ()) :
    EncodesWithin v 116 := SizedIdentity.encodes h (by decide)

theorem CustodyPoolIdentityV1.encodes {v : CustodyPoolIdentityV1} (h : v.validate = .ok ()) :
    EncodesWithin v 116 := SizedIdentity.encodes h (by decide)

theorem CustodyCommitteeAuthorizationIdentityV1.encodes
    {v : CustodyCommitteeAuthorizationIdentityV1} (h : v.validate = .ok ()) :
    EncodesWithin v 116 := SizedIdentity.encodes h (by decide)

theorem RecipientKeyIdentityV1.encodes {v : RecipientKeyIdentityV1} (h : v.validate = .ok ()) :
    EncodesWithin v 210 := by
  have hlen := length_le_of_validateAsciiIdentifier h
  rw [MAX_RECIPIENT_ENCRYPTION_SUITE_ID_BYTES] at hlen
  have hsuite : Emits (Encoder.string v.encryptionSuiteId) _ := emits_string (by omega)
  exact .of_emits h (hsuite.bind (emits_fixed v.keyId)) (by decide) (by omega)

theorem ThresholdV1.emits (v : ThresholdV1) : Emits v.encode 2 :=
  (emits_u8 v.required).bind (emits_u8 v.total)

theorem KeyEnvelopeIdentityV1.encodes {v : KeyEnvelopeIdentityV1} (h : v.validate = .ok ()) :
    EncodesWithin v 626 := by
  have hvalid := h
  obtain ⟨⟨⟩, hcontent, h⟩ := bind_eq_ok.mp h
  obtain ⟨⟨⟩, _, h⟩ := bind_eq_ok.mp h
  obtain ⟨⟨⟩, hpool, h⟩ := bind_eq_ok.mp h
  obtain ⟨⟨⟩, hepoch, h⟩ := bind_eq_ok.mp h
  obtain ⟨⟨⟩, hauth, _⟩ := bind_eq_ok.mp h
  obtain ⟨n₁, h₁, hcontent⟩ := (EncryptedContentIdentityV1.encodes hcontent).nested (by omega)
  obtain ⟨n₂, h₂, hpool⟩ := (CustodyPoolIdentityV1.encodes hpool).nested (by omega)
  obtain ⟨n₃, h₃, hepoch⟩ := (CustodyEpochIdentityV1.encodes hepoch).nested (by omega)
  obtain ⟨n₄, h₄, hauth⟩ :=
    (CustodyCommitteeAuthorizationIdentityV1.encodes hauth).nested (by omega)
  have hfields := hcontent.bind <| (emits_fixed v.envelopeSha256).bind <|
    (emits_u32 v.envelopeBytes).bind <| (emits_fixed v.nodeSetId).bind <| v.threshold.emits.bind <|
    hpool.bind <| hepoch.bind hauth
  exact .of_emits hvalid hfields (by decide) (by omega)

section

variable [Curves]

theorem ProfileIdentityV1.encodes (v : ProfileIdentityV1) : EncodesWithin v 112 :=
  .of_emits v.recheck_eq (emits_fixed v.value)
    (by dsimp only [DOMAIN]; decide) (by omega)

theorem ProtectedContentBindingV1.encodes {v : ProtectedContentBindingV1}
    (h : v.validate = .ok ()) : EncodesWithin v 1114 := by
  have hvalid := h
  obtain ⟨⟨⟩, hcontent, h⟩ := bind_eq_ok.mp h
  obtain ⟨⟨⟩, henvelope, h⟩ := bind_eq_ok.mp h
  obtain ⟨⟨⟩, hpolicy, _⟩ := bind_eq_ok.mp h
  obtain ⟨n₁, h₁, hcontent⟩ := (EncryptedContentIdentityV1.encodes hcontent).nested (by omega)
  obtain ⟨n₂, h₂, henvelope⟩ := (KeyEnvelopeIdentityV1.encodes henvelope).nested (by omega)
  obtain ⟨n₃, h₃, hpolicy⟩ := (RightsPolicyIdentityV1.encodes hpolicy).nested (by omega)
  obtain ⟨n₄, h₄, hprofile⟩ := (ProfileIdentityV1.encodes v.profile).nested (by omega)
  have hfields := hcontent.bind <| henvelope.bind <| hpolicy.bind <| hprofile.bind <|
    (emits_fixed v.wallet).bind (emits_fixed v.runtimeSessionBinding.value)
  exact .of_emits hvalid hfields (by dsimp only [DOMAIN]; decide) (by omega)

/-! ## 2. Signed documents -/

omit [Curves] in
/-- A signed document encodes when its statement leaves room for the signature. -/
theorem Signed.encodes {α : Type} [CanonicalBody α] {spec : SignedSpec}
    {v : Signed α spec} {n : Nat}
    (h : v.validate = .ok ())
    (hstatement : CanonicalBody.validate v.statement = .ok () → EncodesWithin v.statement n)
    (hd : (domainHeader spec.domain).length ≤ 80) (hn : n ≤ 65535) :
    EncodesWithin v (n + 148) := by
  obtain ⟨⟨⟩, hcanonical, hsignature⟩ := bind_eq_ok.mp h
  rw [rejectIf_eq_ok, not_not, ED25519_SIGNATURE_BYTES] at hsignature
  obtain ⟨m, hm, hnested⟩ := (hstatement (valid_of_requireCanonical hcanonical)).nested hn
  have hbytes : Emits (Encoder.bytes v.signature) (2 + v.signature.length) :=
    emits_bytes (by omega)
  exact .of_emits h (hnested.bind hbytes) hd (by omega)

omit [Curves] in
/-- A counted list of records takes at most its length times what each of them does. -/
theorem emits_list {α : Type} {f : α → Encoder Unit} {l : List α} {n : Nat}
    (h : ∀ a ∈ l, ∃ m ≤ n, Emits (f a) m) : ∃ m ≤ l.length * n, Emits (l.forM f) m := by
  induction l with
  | nil => exact ⟨0, by simp, .nothing⟩
  | cons a l ih =>
    obtain ⟨m, hm, hl⟩ := ih fun b hb => h b (.tail _ hb)
    obtain ⟨k, hk, ha⟩ := h a (.head _)
    refine ⟨k + m, ?_, ha.bind hl⟩
    rw [List.length_cons, Nat.succ_mul]
    omega

/-! ## 3. Custody -/

theorem CustodyNodeIdentityV1.valid (v : CustodyNodeIdentityV1) : v.validate = .ok () :=
  bind_eq_ok.mpr ⟨(), v.nodePublicKey.recheck_eq, bind_eq_ok.mpr
    ⟨(), v.custodyPublicKey.recheck_eq, v.shareCoordinate.recheck_eq⟩⟩

theorem CustodyNodeIdentityV1.encodes (v : CustodyNodeIdentityV1) : EncodesWithin v 1329 := by
  have hfields := (emits_fixed v.nodePublicKey.value).bind <|
    (emits_fixed v.custodyPublicKey.value).bind (emits_u8 v.shareCoordinate.value)
  exact .of_emits v.valid hfields (by dsimp only [DOMAIN]; decide) (by omega)

/-- An accepted list of nodes is short. -/
theorem emits_nodes {nodes : List CustodyNodeIdentityV1} {threshold : ThresholdV1}
    {nodesField : String} (h : validateCustodyNodeSet nodes threshold nodesField = .ok ()) :
    ∃ m ≤ 21296, Emits (nodes.forM Encoder.nested) m := by
  obtain ⟨⟨⟩, _, h⟩ := bind_eq_ok.mp h
  obtain ⟨⟨⟩, hlen, _⟩ := bind_eq_ok.mp h
  rw [rejectIf_eq_ok, not_or, not_lt] at hlen
  have hlen : nodes.length ≤ 16 := hlen.2
  obtain ⟨m, hm, hemits⟩ := emits_list (l := nodes) (n := 1331) fun node _ =>
    node.encodes.nested (by omega)
  exact ⟨m, by omega, hemits⟩

theorem CustodyEpochStatementV1.encodes {v : CustodyEpochStatementV1} (h : v.validate = .ok ()) :
    EncodesWithin v 21610 := by
  have hvalid := h
  obtain ⟨⟨⟩, _, h⟩ := bind_eq_ok.mp h
  obtain ⟨⟨⟩, hsuites, hnodes⟩ := bind_eq_ok.mp h
  have hsuites := (CustodyApprovedSuitesV1.encodes (valid_of_requireCanonical hsuites)).nested
    (by omega)
  obtain ⟨n, hn, hnodes⟩ := emits_nodes hnodes
  have hfields := (emits_fixed v.issuer.value).bind <| hsuites.bind <| v.threshold.emits.bind <|
    (emits_u8 (UInt8.ofNat v.nodes.length)).bind hnodes
  exact .of_emits hvalid hfields (by dsimp only [DOMAIN]; decide) (by omega)

theorem SignedCustodyEpochV1.encodes {v : SignedCustodyEpochV1} (h : v.validate = .ok ()) :
    EncodesWithin v 21758 :=
  Signed.encodes h CustodyEpochStatementV1.encodes (by decide) (by omega)

theorem NodeSetV1.encodes {v : NodeSetV1} (h : v.validate = .ok ()) : EncodesWithin v 595 := by
  obtain ⟨ht, hlen, _⟩ := NodeSetV1.valid_parts h
  have hsmall := ThresholdV1.total_le ht
  have hmembers : Emits (v.members.forM fun member => Encoder.fixed member.value) _ :=
    .forM fun member _ => emits_fixed member.value
  have hfields := v.threshold.emits.bind <|
    (emits_u8 (UInt8.ofNat v.members.length)).bind hmembers
  exact .of_emits h hfields (by dsimp only [DOMAIN]; decide) (by omega)

theorem CustodyEnvelopeManifestV1.encodes {v : CustodyEnvelopeManifestV1}
    (h : v.validate = .ok ()) : EncodesWithin v 21887 := by
  have hvalid := h
  obtain ⟨⟨⟩, hcontent, h⟩ := bind_eq_ok.mp h
  obtain ⟨⟨⟩, hpool, h⟩ := bind_eq_ok.mp h
  obtain ⟨⟨⟩, hepoch, h⟩ := bind_eq_ok.mp h
  obtain ⟨⟨⟩, hauth, hnodes⟩ := bind_eq_ok.mp h
  obtain ⟨n₁, h₁, hcontent⟩ := (EncryptedContentIdentityV1.encodes hcontent).nested (by omega)
  obtain ⟨n₂, h₂, hpool⟩ := (CustodyPoolIdentityV1.encodes hpool).nested (by omega)
  obtain ⟨n₃, h₃, hepoch⟩ := (CustodyEpochIdentityV1.encodes hepoch).nested (by omega)
  obtain ⟨n₄, h₄, hauth⟩ :=
    (CustodyCommitteeAuthorizationIdentityV1.encodes hauth).nested (by omega)
  obtain ⟨n₅, h₅, hnodes⟩ := emits_nodes hnodes
  have hfields := hcontent.bind <| hpool.bind <| hepoch.bind <| hauth.bind <|
    v.threshold.emits.bind <| (emits_fixed v.contentKeyCommitment).bind <|
    (emits_u8 (UInt8.ofNat v.nodes.length)).bind hnodes
  exact .of_emits hvalid hfields (by dsimp only [DOMAIN]; decide) (by omega)

theorem PqHybridSealedShareV1.encodes {v : PqHybridSealedShareV1} (h : v.validate = .ok ()) :
    EncodesWithin v 1262 := by
  have hvalid := h
  obtain ⟨⟨⟩, hlen, _⟩ := bind_eq_ok.mp h
  rw [rejectIf_eq_ok, not_not] at hlen
  have hlen : v.envelope.length = 1180 := hlen
  exact .of_emits hvalid (emits_bytes (by omega)) (by dsimp only [DOMAIN]; decide) (by omega)

theorem StoredShareAadV1.encodes (v : StoredShareAadV1) : EncodesWithin v 1443 := by
  obtain ⟨n, hn, hnode⟩ := v.node.encodes.nested (by omega)
  exact .of_emits v.node.encodes.requireCanonical ((emits_fixed v.manifestHash).bind hnode)
    (by dsimp only [DOMAIN]; decide) (by omega)

/-! ## 4. Rights -/

omit [Curves] in
theorem RightsPolicyBodyV1.encodes {v : RightsPolicyBodyV1} (h : v.validate = .ok ()) :
    EncodesWithin v 336 := by
  have hvalid := h
  obtain ⟨⟨⟩, hcontent, _⟩ := bind_eq_ok.mp h
  have hfinality : EncodesWithin v.observationFinality 81 :=
    .of_emits rfl (emits_u8 _) (by decide) (by omega)
  obtain ⟨n₁, h₁, hcontent⟩ :=
    (EncryptedContentIdentityV1.encodes (valid_of_requireCanonical hcontent)).nested (by omega)
  obtain ⟨n₂, h₂, hfinality⟩ := hfinality.nested (by omega)
  have hfields := hcontent.bind <| (emits_fixed v.contentAccessId.value).bind <|
    (emits_u8 v.requiredAction.toByte).bind <| (emits_u8 v.subjectSource.toByte).bind <|
    (emits_u64 v.chainId).bind <| (emits_fixed v.contractAddress.value).bind <|
    (emits_fixed v.functionSelector.value).bind <| (emits_u8 v.methodAbi.toByte).bind hfinality
  exact .of_emits hvalid hfields (by decide) (by omega)

theorem RightsAuthorityScopeV1.encodes {v : RightsAuthorityScopeV1}
    (h : CanonicalBody.validate v = .ok ()) : EncodesWithin v 1409 := by
  obtain ⟨⟨⟩, hbinding, hrecipient⟩ := bind_eq_ok.mp h
  obtain ⟨n₁, h₁, hbinding⟩ :=
    (ProtectedContentBindingV1.encodes (valid_of_requireCanonical hbinding)).nested (by omega)
  obtain ⟨n₂, h₂, hrecipient⟩ :=
    (RecipientKeyIdentityV1.encodes (valid_of_requireCanonical hrecipient)).nested (by omega)
  have hfields := hbinding.bind <| (emits_u8 v.action.toByte).bind hrecipient
  exact .of_emits h hfields (by dsimp only [DOMAIN]; decide) (by omega)

theorem RightsRequestV1.encodes {v : RightsRequestV1} (h : v.validate = .ok ()) :
    EncodesWithin v 1441 := by
  have hvalid := h
  obtain ⟨⟨⟩, hbinding, h⟩ := bind_eq_ok.mp h
  obtain ⟨⟨⟩, hrecipient, _⟩ := bind_eq_ok.mp h
  obtain ⟨n₁, h₁, hbinding⟩ :=
    (ProtectedContentBindingV1.encodes (valid_of_requireCanonical hbinding)).nested (by omega)
  obtain ⟨n₂, h₂, hrecipient⟩ :=
    (RecipientKeyIdentityV1.encodes (valid_of_requireCanonical hrecipient)).nested (by omega)
  have hfields := hbinding.bind <| (emits_u8 v.action.toByte).bind <| hrecipient.bind <|
    (emits_u64 v.issuedAt).bind <| (emits_u64 v.expiresAt).bind (emits_fixed v.replayNonce)
  exact .of_emits hvalid hfields (by dsimp only [DOMAIN]; decide) (by omega)

theorem WalletSignedRightsRequestV1.encodes {v : WalletSignedRightsRequestV1}
    (h : v.validate = .ok ()) : EncodesWithin v 1590 := by
  have hvalid := h
  obtain ⟨⟨⟩, hrequest, hsignature⟩ := bind_eq_ok.mp h
  rw [rejectIf_eq_ok, not_or, not_not, WALLET_SIGNATURE_BYTES] at hsignature
  obtain ⟨n, hn, hrequest⟩ :=
    (RightsRequestV1.encodes (valid_of_requireCanonical hrequest)).nested (by omega)
  have hbytes : Emits (Encoder.bytes v.walletSignature) (2 + v.walletSignature.length) :=
    emits_bytes (by omega)
  exact .of_emits hvalid (hrequest.bind hbytes) (by dsimp only [DOMAIN]; decide) (by omega)

theorem RightsEvaluationEvidenceRequestV1.encodes {v : RightsEvaluationEvidenceRequestV1}
    (h : v.validate = .ok ()) : EncodesWithin v 1314 := by
  have hvalid := h
  obtain ⟨⟨⟩, hbinding, h⟩ := bind_eq_ok.mp h
  obtain ⟨⟨⟩, hpolicy, _⟩ := bind_eq_ok.mp h
  obtain ⟨n₁, h₁, hbinding⟩ :=
    (ProtectedContentBindingV1.encodes (valid_of_requireCanonical hbinding)).nested (by omega)
  obtain ⟨n₂, h₂, hpolicy⟩ :=
    (RightsPolicyIdentityV1.encodes (valid_of_requireCanonical hpolicy)).nested (by omega)
  exact .of_emits hvalid (hbinding.bind hpolicy) (by dsimp only [DOMAIN]; decide) (by omega)

theorem RecipientKeyAuthorizationStatementV1.encodes [Crypto]
    {v : RecipientKeyAuthorizationStatementV1} (h : v.validate = .ok ()) :
    EncodesWithin v 2673 := by
  have hvalid := h
  obtain ⟨⟨⟩, hbinding, h⟩ := bind_eq_ok.mp h
  obtain ⟨⟨⟩, hrecipient, _⟩ := bind_eq_ok.mp h
  obtain ⟨n₁, h₁, hbinding⟩ :=
    (ProtectedContentBindingV1.encodes (valid_of_requireCanonical hbinding)).nested (by omega)
  obtain ⟨n₂, h₂, hrecipient⟩ :=
    (RecipientKeyIdentityV1.encodes (valid_of_requireCanonical hrecipient)).nested (by omega)
  have hfields := hbinding.bind <| (emits_u8 v.action.toByte).bind <|
    (emits_fixed v.recipientPublicKey.value).bind <| hrecipient.bind <|
    (emits_fixed v.runtimeOperationIssuer.value).bind <| (emits_u64 v.issuedAt).bind <|
    emits_u64 v.expiresAt
  exact .of_emits hvalid hfields (by dsimp only [DOMAIN]; decide) (by omega)

theorem SignedRecipientKeyAuthorizationV1.encodes [Crypto] {v : SignedRecipientKeyAuthorizationV1}
    (h : v.validate = .ok ()) : EncodesWithin v 2821 :=
  Signed.encodes h RecipientKeyAuthorizationStatementV1.encodes (by decide) (by omega)

/-! ## 5. Releases -/

theorem ReleaseAuthorityScopeV1.encodes {v : ReleaseAuthorityScopeV1}
    (h : CanonicalBody.validate v = .ok ()) : EncodesWithin v 1441 := by
  obtain ⟨⟨⟩, hbinding, hrecipient⟩ := bind_eq_ok.mp h
  obtain ⟨n₁, h₁, hbinding⟩ :=
    (ProtectedContentBindingV1.encodes (valid_of_requireCanonical hbinding)).nested (by omega)
  obtain ⟨n₂, h₂, hrecipient⟩ :=
    (RecipientKeyIdentityV1.encodes (valid_of_requireCanonical hrecipient)).nested (by omega)
  have hfields := hbinding.bind <| (emits_fixed v.rightsRequestHash).bind <|
    (emits_u8 v.action.toByte).bind hrecipient
  exact .of_emits h hfields (by dsimp only [DOMAIN]; decide) (by omega)

theorem KeyReleaseRequestV1.encodes {v : KeyReleaseRequestV1} (h : v.validate = .ok ()) :
    EncodesWithin v 1473 := by
  have hvalid := h
  obtain ⟨⟨⟩, hbinding, h⟩ := bind_eq_ok.mp h
  obtain ⟨⟨⟩, hrecipient, _⟩ := bind_eq_ok.mp h
  obtain ⟨n₁, h₁, hbinding⟩ :=
    (ProtectedContentBindingV1.encodes (valid_of_requireCanonical hbinding)).nested (by omega)
  obtain ⟨n₂, h₂, hrecipient⟩ :=
    (RecipientKeyIdentityV1.encodes (valid_of_requireCanonical hrecipient)).nested (by omega)
  have hfields := hbinding.bind <| (emits_fixed v.rightsRequestHash).bind <|
    (emits_u8 v.action.toByte).bind <| hrecipient.bind <| (emits_u64 v.issuedAt).bind <|
    (emits_u64 v.expiresAt).bind (emits_fixed v.replayNonce)
  exact .of_emits hvalid hfields (by dsimp only [DOMAIN]; decide) (by omega)

theorem NodeRightsDecisionStatementV1.encodes {v : NodeRightsDecisionStatementV1}
    (h : v.validate = .ok ()) : EncodesWithin v 1342 := by
  have hvalid := h
  obtain ⟨⟨⟩, hbinding, _⟩ := bind_eq_ok.mp h
  obtain ⟨n, hn, hbinding⟩ :=
    (ProtectedContentBindingV1.encodes (valid_of_requireCanonical hbinding)).nested (by omega)
  have hfields := (emits_fixed v.releaseRequestHash).bind <|
    (emits_fixed v.rightsRequestHash).bind <| hbinding.bind <|
    (emits_u8 v.action.toByte).bind <| (emits_fixed v.nodePublicKey.value).bind <|
    (emits_u8 v.decision.toByte).bind <| (emits_fixed v.evidenceHash).bind <|
    (emits_u64 v.issuedAt).bind (emits_u64 v.expiresAt)
  exact .of_emits hvalid hfields (by dsimp only [DOMAIN]; decide) (by omega)

theorem SignedNodeRightsDecisionV1.encodes {v : SignedNodeRightsDecisionV1}
    (h : v.validate = .ok ()) : EncodesWithin v 1490 :=
  Signed.encodes h NodeRightsDecisionStatementV1.encodes (by decide) (by omega)

omit [Curves] in
theorem RecipientSealedContributionV1.encodes {v : RecipientSealedContributionV1}
    (h : v.validate = .ok ()) : EncodesWithin v 16678 := by
  have hvalid := h
  obtain ⟨⟨⟩, hrecipient, hlen⟩ := bind_eq_ok.mp h
  have hlen : v.sealedBytes.length ≤ 16384 :=
    Nat.le_of_not_lt (not_or.mp (rejectIf_eq_ok.mp hlen)).2
  obtain ⟨n, hn, hrecipient⟩ :=
    (RecipientKeyIdentityV1.encodes (valid_of_requireCanonical hrecipient)).nested (by omega)
  exact .of_emits hvalid (hrecipient.bind (emits_bytes (by omega))) (by decide) (by omega)

theorem NodeContributionStatementV1.encodes {v : NodeContributionStatementV1}
    (h : v.validate = .ok ()) : EncodesWithin v 19416 := by
  have hvalid := h
  obtain ⟨⟨⟩, hbinding, h⟩ := bind_eq_ok.mp h
  obtain ⟨⟨⟩, hdecision, h⟩ := bind_eq_ok.mp h
  obtain ⟨⟨⟩, hsealed, _⟩ := bind_eq_ok.mp h
  obtain ⟨n₁, h₁, hbinding⟩ :=
    (ProtectedContentBindingV1.encodes (valid_of_requireCanonical hbinding)).nested (by omega)
  obtain ⟨n₂, h₂, hdecision⟩ :=
    (SignedNodeRightsDecisionV1.encodes (valid_of_requireCanonical hdecision)).nested (by omega)
  obtain ⟨n₃, h₃, hsealed⟩ :=
    (RecipientSealedContributionV1.encodes (valid_of_requireCanonical hsealed)).nested (by omega)
  have hfields := (emits_fixed v.releaseRequestHash).bind <| hbinding.bind <| hdecision.bind <|
    hsealed.bind <| (emits_u64 v.issuedAt).bind (emits_u64 v.expiresAt)
  exact .of_emits hvalid hfields (by dsimp only [DOMAIN]; decide) (by omega)

theorem SignedNodeContributionV1.encodes {v : SignedNodeContributionV1}
    (h : v.validate = .ok ()) : EncodesWithin v 19564 :=
  Signed.encodes h NodeContributionStatementV1.encodes (by decide) (by omega)

theorem NodeContributionRefV1.emits (v : NodeContributionRefV1) : Emits v.encode 128 :=
  (emits_fixed v.nodePublicKey.value).bind <| (emits_fixed v.decisionHash).bind <|
    (emits_fixed v.contributionHash).bind (emits_fixed v.contributionCommitment)

theorem TerminalReceiptStatementV1.encodes {v : TerminalReceiptStatementV1}
    (h : v.validate = .ok ()) : EncodesWithin v 33918 := by
  have hrefs := (refs_valid h).2.trans
    (Nat.le_of_lt_succ v.binding.keyEnvelope.threshold.total.toNat_lt)
  have hvalid := h
  obtain ⟨⟨⟩, hbinding, _⟩ := bind_eq_ok.mp h
  obtain ⟨n, hn, hbinding⟩ :=
    (ProtectedContentBindingV1.encodes (valid_of_requireCanonical hbinding)).nested (by omega)
  have hlist : Emits (v.contributionRefs.forM NodeContributionRefV1.encode) _ :=
    .forM fun ref _ => ref.emits
  have hfields := (emits_fixed v.releaseRequestHash).bind <| hbinding.bind <|
    (emits_fixed v.issuer.value).bind <| (emits_u8 v.outcome.toByte).bind <|
    (emits_u8 (UInt8.ofNat v.contributionRefs.length)).bind <| hlist.bind <|
    (emits_u64 v.issuedAt).bind (emits_u64 v.expiresAt)
  exact .of_emits hvalid hfields (by dsimp only [DOMAIN]; decide) (by omega)

theorem SignedTerminalReceiptV1.encodes {v : SignedTerminalReceiptV1} (h : v.validate = .ok ()) :
    EncodesWithin v 34066 :=
  Signed.encodes h TerminalReceiptStatementV1.encodes (by decide) (by omega)

theorem RuntimeReleaseOperationStatementV1.encodes [Crypto]
    {v : RuntimeReleaseOperationStatementV1} (h : v.validate = .ok ()) :
    EncodesWithin v 31000 := by
  have hvalid := h
  obtain ⟨⟨⟩, _, h⟩ := bind_eq_ok.mp h
  obtain ⟨⟨⟩, hrights, h⟩ := bind_eq_ok.mp h
  obtain ⟨⟨⟩, hrelease, h⟩ := bind_eq_ok.mp h
  obtain ⟨⟨⟩, _, h⟩ := bind_eq_ok.mp h
  obtain ⟨⟨⟩, hauth, h⟩ := bind_eq_ok.mp h
  obtain ⟨⟨⟩, hpolicy, h⟩ := bind_eq_ok.mp h
  obtain ⟨⟨⟩, hevidence, h⟩ := bind_eq_ok.mp h
  obtain ⟨⟨⟩, _, h⟩ := bind_eq_ok.mp h
  obtain ⟨⟨⟩, hepoch, _⟩ := bind_eq_ok.mp h
  obtain ⟨n₁, h₁, hrights⟩ :=
    (WalletSignedRightsRequestV1.encodes (valid_of_requireCanonical hrights)).nested (by omega)
  obtain ⟨n₂, h₂, hrelease⟩ :=
    (KeyReleaseRequestV1.encodes (valid_of_requireCanonical hrelease)).nested (by omega)
  obtain ⟨n₃, h₃, hauth⟩ :=
    (SignedRecipientKeyAuthorizationV1.encodes (valid_of_requireCanonical hauth)).nested (by omega)
  obtain ⟨n₄, h₄, hpolicy⟩ :=
    (RightsPolicyBodyV1.encodes (valid_of_requireCanonical hpolicy)).nested (by omega)
  obtain ⟨n₅, h₅, hevidence⟩ :=
    (RightsEvaluationEvidenceRequestV1.encodes (valid_of_requireCanonical hevidence)).nested
      (by omega)
  obtain ⟨n₆, h₆, hepoch⟩ :=
    (SignedCustodyEpochV1.encodes (valid_of_requireCanonical hepoch)).nested (by omega)
  have hfields := (emits_fixed v.runtimeOperationIssuer.value).bind <| hrights.bind <|
    hrelease.bind <| (emits_fixed v.recipientPublicKey.value).bind <| hauth.bind <|
    hpolicy.bind <| hevidence.bind <| hepoch.bind <| (emits_fixed v.auditRequestId.value).bind <|
    (emits_u64 v.issuedAt).bind (emits_u64 v.expiresAt)
  exact .of_emits hvalid hfields (by dsimp only [DOMAIN]; decide) (by omega)

theorem SignedRuntimeReleaseOperationV1.encodes [Crypto] {v : SignedRuntimeReleaseOperationV1}
    (h : v.validate = .ok ()) : EncodesWithin v 31148 :=
  Signed.encodes h RuntimeReleaseOperationStatementV1.encodes (by decide) (by omega)

end

end ElastosRuntime.Contracts
