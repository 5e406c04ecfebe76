/-
# Custody epochs, pools and provisioning

Who may hold shares: the epoch that names a committee (`custody_epoch.rs`), the pool its members
are drawn from and the authorization that ties the two (`custody_pool.rs`), and the record and
order by which one node is given its share (`custody_provisioning.rs`).
-/
import ElastosRuntime.Contracts.Custody
import ElastosRuntime.Contracts.Signed

namespace ElastosRuntime.Contracts

open Codec

/-! ## 1. Approved suites -/

def CUSTODY_X_WING_AES256GCM_SUITE_ID_V1 : String :=
  "elastos-xwing-draft06-hkdf-sha256-aes256gcm/v1"

structure CustodyApprovedSuitesV1 where
  recipientEncryptionSuiteId : String
  storedShareHpkeSuiteId : String
  releasedShareHpkeSuiteId : String

namespace CustodyApprovedSuitesV1

def validate (v : CustodyApprovedSuitesV1) : Except ContractError Unit := do
  validateAsciiIdentifier v.recipientEncryptionSuiteId "recipient_encryption_suite_id"
    MAX_RECIPIENT_ENCRYPTION_SUITE_ID_BYTES
  validateAsciiIdentifier v.storedShareHpkeSuiteId "stored_share_hpke_suite_id"
    MAX_RECIPIENT_ENCRYPTION_SUITE_ID_BYTES
  validateAsciiIdentifier v.releasedShareHpkeSuiteId "released_share_hpke_suite_id"
    MAX_RECIPIENT_ENCRYPTION_SUITE_ID_BYTES
  rejectIf (v.recipientEncryptionSuiteId ≠ CUSTODY_X_WING_AES256GCM_SUITE_ID_V1)
    (.invalidField "recipient_encryption_suite_id")
  rejectIf (v.storedShareHpkeSuiteId ≠ CUSTODY_X_WING_AES256GCM_SUITE_ID_V1)
    (.invalidField "stored_share_hpke_suite_id")
  rejectIf (v.releasedShareHpkeSuiteId ≠ CUSTODY_X_WING_AES256GCM_SUITE_ID_V1)
    (.invalidField "released_share_hpke_suite_id")

def new (recipientEncryptionSuiteId storedShareHpkeSuiteId releasedShareHpkeSuiteId : String) :
    Except ContractError CustodyApprovedSuitesV1 :=
  build validate ⟨recipientEncryptionSuiteId, storedShareHpkeSuiteId, releasedShareHpkeSuiteId⟩

instance : CanonicalBody CustodyApprovedSuitesV1 where
  DOMAIN := "elastos.protected-content.custody-approved-suites/v1"
  validate := validate
  encodeFields v := do
    Encoder.string v.recipientEncryptionSuiteId
    Encoder.string v.storedShareHpkeSuiteId
    Encoder.string v.releasedShareHpkeSuiteId
  decodeFields := do
    new
      (← Decoder.string "recipient_encryption_suite_id" MAX_RECIPIENT_ENCRYPTION_SUITE_ID_BYTES)
      (← Decoder.string "stored_share_hpke_suite_id" MAX_RECIPIENT_ENCRYPTION_SUITE_ID_BYTES)
      (← Decoder.string "released_share_hpke_suite_id" MAX_RECIPIENT_ENCRYPTION_SUITE_ID_BYTES)

instance : LawfulBody CustodyApprovedSuitesV1 where
  mirrors _ h := by
    obtain ⟨⟨⟩, h₁, h'⟩ := bind_eq_ok.mp h
    obtain ⟨⟨⟩, h₂, h'⟩ := bind_eq_ok.mp h'
    obtain ⟨⟨⟩, h₃, _⟩ := bind_eq_ok.mp h'
    exact (mirrors_string (length_le_of_validateAsciiIdentifier h₁)).bind <|
      (mirrors_string (length_le_of_validateAsciiIdentifier h₂)).bind <|
      (mirrors_string (length_le_of_validateAsciiIdentifier h₃)).last (build_eq h)

end CustodyApprovedSuitesV1

/-! ## 2. Identifiers and states of pool members -/

/-- An identifier of its own domain, which any 32 bytes are. -/
structure Id32 (domain : String) where
  bytes : Bytes 32

instance {domain : String} : CanonicalBody (Id32 domain) where
  DOMAIN := domain
  validate _ := pure ()
  encodeFields v := Encoder.fixed v.bytes
  decodeFields := do pure ⟨← Decoder.fixed 32⟩

instance {domain : String} : LawfulBody (Id32 domain) where
  mirrors v _ := (mirrors_fixed v.bytes).map Id32.mk

abbrev CustodyPoolOperatorIdV1 := Id32 "elastos.protected-content.custody-pool.operator-id/v1"

abbrev CustodyPoolFailureDomainIdV1 :=
  Id32 "elastos.protected-content.custody-pool.failure-domain-id/v1"

inductive CustodyPoolMemberStateV1 where
  | active
  | revoked

namespace CustodyPoolMemberStateV1

def toByte : CustodyPoolMemberStateV1 → UInt8
  | active => 0
  | revoked => 1

def decode (value : UInt8) : Except ContractError CustodyPoolMemberStateV1 :=
  match value with
  | 0 => .ok active
  | 1 => .ok revoked
  | _ => .error (.invalidField "custody_pool_member_state")

theorem decode_toByte (state : CustodyPoolMemberStateV1) : decode state.toByte = .ok state := by
  cases state <;> rfl

end CustodyPoolMemberStateV1

/-! ## 3. Epochs -/

variable [Curves]

structure CustodyEpochStatementV1 where
  issuer : CustodyEpochIssuerKeyV1
  approvedSuites : CustodyApprovedSuitesV1
  threshold : ThresholdV1
  nodes : List CustodyNodeIdentityV1

namespace CustodyEpochStatementV1

def validate (v : CustodyEpochStatementV1) : Except ContractError Unit := do
  v.issuer.recheck
  requireCanonical v.approvedSuites
  validateCustodyNodeSet v.nodes v.threshold "custody_epoch.nodes"

def new (issuer : CustodyEpochIssuerKeyV1) (approvedSuites : CustodyApprovedSuitesV1)
    (threshold : ThresholdV1) (nodes : List CustodyNodeIdentityV1) :
    Except ContractError CustodyEpochStatementV1 := do
  let nodes ← assignCoordinates 0 (sortByKey CustodyNodeIdentityV1.order nodes)
  build validate ⟨issuer, approvedSuites, threshold, nodes⟩

def nodeSet (v : CustodyEpochStatementV1) : Except ContractError NodeSetV1 :=
  NodeSetV1.new v.threshold (v.nodes.map (·.nodePublicKey))

instance : CanonicalBody CustodyEpochStatementV1 where
  DOMAIN := "elastos.protected-content.custody-epoch-statement/v1"
  validate := validate
  encodeFields v := do
    Encoder.fixed v.issuer.value
    Encoder.nested v.approvedSuites
    v.threshold.encode
    Encoder.u8 (UInt8.ofNat v.nodes.length)
    v.nodes.forM Encoder.nested
  decodeFields := do
    let issuer ← CustodyEpochIssuerKeyV1.new (← Decoder.fixed 32)
    let approvedSuites ← Decoder.nested "approved_suites"
    let threshold ← ThresholdV1.decode
    let count ← Decoder.u8
    let nodes ← many (Decoder.nested "custody_node") count.toNat
    new issuer approvedSuites threshold nodes

instance : LawfulBody CustodyEpochStatementV1 where
  mirrors v h := by
    obtain ⟨⟨⟩, _, h'⟩ := bind_eq_ok.mp h
    obtain ⟨⟨⟩, _, hnodes⟩ := bind_eq_ok.mp h'
    obtain ⟨ht, hsmall, hassign⟩ := validateCustodyNodeSet_eq_ok hnodes
    exact (mirrors_fixed _).check v.issuer.new_value <| (mirrors_nested _).bind <|
      (ThresholdV1.mirrors ht).bind <| (mirrors_u8 _).bind <|
      (mirrors_counted hsmall fun node _ => mirrors_nested node).last <|
      bind_eq_ok.mpr ⟨v.nodes, hassign, build_eq h⟩

end CustodyEpochStatementV1

abbrev SignedCustodyEpochV1 :=
  Signed CustodyEpochStatementV1
    ⟨"elastos.protected-content.signed-custody-epoch/v1", "statement", "issuer_signature",
      "issuer_signature"⟩

def SignedCustodyEpochV1.epochIdentity [Crypto] (v : SignedCustodyEpochV1) :
    Except ContractError CustodyEpochIdentityV1 := SizedIdentity.of v

/-! ## 4. Pools -/

def MAX_CUSTODY_POOL_MEMBERS_V1 : Nat := 64

structure CustodyPoolMemberV1 where
  nodePublicKey : NodePublicKey
  custodyPublicKey : NodeCustodyPublicKeyV1
  operatorId : CustodyPoolOperatorIdV1
  failureDomainId : CustodyPoolFailureDomainIdV1
  approvedSuites : CustodyApprovedSuitesV1
  validFrom : UInt64
  validUntil : UInt64
  state : CustodyPoolMemberStateV1

namespace CustodyPoolMemberV1

def validate (v : CustodyPoolMemberV1) : Except ContractError Unit := do
  v.nodePublicKey.recheck
  v.custodyPublicKey.recheck
  requireCanonical v.operatorId
  requireCanonical v.failureDomainId
  requireCanonical v.approvedSuites
  rejectIf (v.validUntil ≤ v.validFrom) (.invalidField "custody_pool_member_window")

def new (nodePublicKey : NodePublicKey) (custodyPublicKey : NodeCustodyPublicKeyV1)
    (operatorId : CustodyPoolOperatorIdV1) (failureDomainId : CustodyPoolFailureDomainIdV1)
    (approvedSuites : CustodyApprovedSuitesV1) (activeWindow : UInt64 × UInt64)
    (state : CustodyPoolMemberStateV1) : Except ContractError CustodyPoolMemberV1 :=
  build validate
    ⟨nodePublicKey, custodyPublicKey, operatorId, failureDomainId, approvedSuites, activeWindow.1,
      activeWindow.2, state⟩

instance : CanonicalBody CustodyPoolMemberV1 where
  DOMAIN := "elastos.protected-content.custody-pool.member/v1"
  validate := validate
  encodeFields v := do
    Encoder.fixed v.nodePublicKey.value
    Encoder.fixed v.custodyPublicKey.value
    Encoder.nested v.operatorId
    Encoder.nested v.failureDomainId
    Encoder.nested v.approvedSuites
    Encoder.u64 v.validFrom
    Encoder.u64 v.validUntil
    Encoder.u8 v.state.toByte
  decodeFields := do
    new
      (← NodePublicKey.new (← Decoder.fixed 32))
      (← NodeCustodyPublicKeyV1.new (← Decoder.fixed 1216))
      (← Decoder.nested "operator_id")
      (← Decoder.nested "failure_domain_id")
      (← Decoder.nested "approved_suites")
      (← Decoder.u64, ← Decoder.u64)
      (← CustodyPoolMemberStateV1.decode (← Decoder.u8))

instance : LawfulBody CustodyPoolMemberV1 where
  mirrors v h :=
    (mirrors_fixed _).check v.nodePublicKey.new_value <|
    (mirrors_fixed _).check v.custodyPublicKey.new_value <|
    (mirrors_nested _).bind <| (mirrors_nested _).bind <| (mirrors_nested _).bind <|
    (mirrors_u64 _).bind <| (mirrors_u64 _).bind <|
    (mirrors_u8 _).checkLast v.state.decode_toByte (build_eq h)

def order (v : CustodyPoolMemberV1) : List UInt8 := v.nodePublicKey.order

end CustodyPoolMemberV1

structure CustodyPoolStatementV1 where
  issuer : CustodyEpochIssuerKeyV1
  members : List CustodyPoolMemberV1

namespace CustodyPoolStatementV1

/-- The first loop of `validate`, after the member `previous`. -/
def checkMembers :
    Option CustodyPoolMemberV1 → List CustodyPoolMemberV1 → Except ContractError Unit
  | _, [] => pure ()
  | previous, member :: members => do
    requireCanonical member
    rejectIf (¬∀ p ∈ previous, p.order < member.order) (.invalidField "custody_pool_members")
    checkMembers member members

def validate (v : CustodyPoolStatementV1) : Except ContractError Unit := do
  v.issuer.recheck
  rejectIf (v.members = [] ∨ MAX_CUSTODY_POOL_MEMBERS_V1 < v.members.length)
    (.invalidField "custody_pool_members")
  checkMembers none v.members
  rejectIf (¬(v.members.map (·.custodyPublicKey)).Nodup) (.invalidField "node_custody_public_key")

def new (issuer : CustodyEpochIssuerKeyV1) (members : List CustodyPoolMemberV1) :
    Except ContractError CustodyPoolStatementV1 :=
  build validate ⟨issuer, sortByKey CustodyPoolMemberV1.order members⟩

instance : CanonicalBody CustodyPoolStatementV1 where
  DOMAIN := "elastos.protected-content.custody-pool.statement/v1"
  validate := validate
  encodeFields v := do
    Encoder.fixed v.issuer.value
    rejectIf (255 < v.members.length) (.invalidField "custody_pool_members")
    Encoder.u8 (UInt8.ofNat v.members.length)
    v.members.forM Encoder.nested
  decodeFields := do
    let issuer ← CustodyEpochIssuerKeyV1.new (← Decoder.fixed 32)
    let count ← Decoder.u8
    rejectIf (count = 0 ∨ MAX_CUSTODY_POOL_MEMBERS_V1 < count.toNat)
      (.invalidField "custody_pool_members")
    let members ← many (Decoder.nested "custody_pool_member") count.toNat
    new issuer members

/-- What the loop establishes, by induction on the list. -/
theorem checkMembers_eq_ok {members : List CustodyPoolMemberV1} :
    ∀ {previous : Option CustodyPoolMemberV1}, checkMembers previous members = .ok () →
      Ascending CustodyPoolMemberV1.order members ∧
        ∀ p ∈ previous, ∀ member ∈ members.head?, p.order < member.order := by
  induction members with
  | nil =>
    intro previous _
    exact ⟨.nil, fun _ _ _ h => nomatch h⟩
  | cons member members ih =>
    intro previous h
    obtain ⟨⟨⟩, _, h⟩ := bind_eq_ok.mp h
    obtain ⟨⟨⟩, hprev, h⟩ := bind_eq_ok.mp h
    rw [rejectIf_eq_ok, not_not] at hprev
    obtain ⟨hasc, hhead⟩ := ih h
    refine ⟨ascending_cons.mpr ⟨hhead member rfl, hasc⟩, ?_⟩
    rintro p hp _ ⟨⟩
    exact hprev p hp

/-- Canonical members in order pass the loop. -/
theorem checkMembers_of_ascending {members : List CustodyPoolMemberV1} :
    ∀ {previous : Option CustodyPoolMemberV1},
      (∀ member ∈ members, requireCanonical member = .ok ()) →
      Ascending CustodyPoolMemberV1.order members →
      (∀ p ∈ previous, ∀ member ∈ members.head?, p.order < member.order) →
      checkMembers previous members = .ok () := by
  induction members with
  | nil => exact fun _ _ _ => rfl
  | cons member members ih =>
    intro previous hcanonical hasc hprev
    obtain ⟨hhead, hasc⟩ := ascending_cons.mp hasc
    refine bind_eq_ok.mpr ⟨(), hcanonical member List.mem_cons_self, bind_eq_ok.mpr
      ⟨(), rejectIf_eq_ok.mpr (not_not.mpr fun p hp => hprev p hp member rfl), ?_⟩⟩
    refine ih (fun m hm => hcanonical m (List.mem_cons_of_mem _ hm)) hasc ?_
    rintro _ ⟨⟩
    exact hhead

theorem valid_parts {v : CustodyPoolStatementV1} (h : v.validate = .ok ()) :
    v.members ≠ [] ∧ v.members.length ≤ 64 ∧ Ascending CustodyPoolMemberV1.order v.members := by
  obtain ⟨⟨⟩, _, h⟩ := bind_eq_ok.mp h
  obtain ⟨⟨⟩, hlen, h⟩ := bind_eq_ok.mp h
  obtain ⟨⟨⟩, hmembers, _⟩ := bind_eq_ok.mp h
  rw [rejectIf_eq_ok, not_or] at hlen
  exact ⟨hlen.1, Nat.le_of_not_lt hlen.2, (checkMembers_eq_ok hmembers).1⟩

instance : LawfulBody CustodyPoolStatementV1 where
  mirrors v h := by
    obtain ⟨hne, hlen, hasc⟩ := valid_parts h
    have hsmall : v.members.length < 256 := by omega
    have hnat : (UInt8.ofNat v.members.length).toNat = v.members.length :=
      UInt8.toNat_ofNat_of_lt' hsmall
    refine (mirrors_fixed _).check v.issuer.new_value <| .given fun _ _ =>
      (mirrors_u8 _).bind <| .skip (b := ()) ?_ ?_
    · rw [rejectIf_eq_ok, not_or, ← UInt8.toNat_inj, hnat]
      exact ⟨by simpa using hne, Nat.not_lt.mpr hlen⟩
    · refine (mirrors_counted hsmall fun member _ => mirrors_nested member).last ?_
      rw [new, hasc.sortByKey_eq]
      exact build_eq h

end CustodyPoolStatementV1

abbrev SignedCustodyPoolV1 :=
  Signed CustodyPoolStatementV1
    ⟨"elastos.protected-content.signed-custody-pool/v1", "statement", "issuer_signature",
      "custody_pool_signature"⟩

def SignedCustodyPoolV1.poolIdentity [Crypto] (v : SignedCustodyPoolV1) :
    Except ContractError CustodyPoolIdentityV1 := SizedIdentity.of v

/-! ## 5. Committee authorizations -/

structure CustodyCommitteeAuthorizationStatementV1 where
  issuer : CustodyEpochIssuerKeyV1
  poolIdentity : CustodyPoolIdentityV1
  custodyEpochIdentity : CustodyEpochIdentityV1

namespace CustodyCommitteeAuthorizationStatementV1

def validate (v : CustodyCommitteeAuthorizationStatementV1) : Except ContractError Unit := do
  v.issuer.recheck
  requireCanonical v.poolIdentity
  requireCanonical v.custodyEpochIdentity

def new (issuer : CustodyEpochIssuerKeyV1) (poolIdentity : CustodyPoolIdentityV1)
    (custodyEpochIdentity : CustodyEpochIdentityV1) :
    Except ContractError CustodyCommitteeAuthorizationStatementV1 :=
  build validate ⟨issuer, poolIdentity, custodyEpochIdentity⟩

instance : CanonicalBody CustodyCommitteeAuthorizationStatementV1 where
  DOMAIN := "elastos.protected-content.custody-committee-authorization-statement/v1"
  validate := validate
  encodeFields v := do
    Encoder.fixed v.issuer.value
    Encoder.nested v.poolIdentity
    Encoder.nested v.custodyEpochIdentity
  decodeFields := do
    new
      (← CustodyEpochIssuerKeyV1.new (← Decoder.fixed 32))
      (← Decoder.nested "pool_identity")
      (← Decoder.nested "custody_epoch_identity")

instance : LawfulBody CustodyCommitteeAuthorizationStatementV1 where
  mirrors v h :=
    (mirrors_fixed _).check v.issuer.new_value <| (mirrors_nested _).bind <|
    (mirrors_nested _).last (build_eq h)

end CustodyCommitteeAuthorizationStatementV1

abbrev SignedCustodyCommitteeAuthorizationV1 :=
  Signed CustodyCommitteeAuthorizationStatementV1
    ⟨"elastos.protected-content.signed-custody-committee-authorization/v1", "statement",
      "custody_committee_authorization_signature", "custody_committee_authorization_signature"⟩

/-! ## 6. Provisioning -/

def MAX_RUNTIME_CUSTODY_PROVISIONING_LIFETIME_SECS : UInt64 := 60

instance : CanonicalBody RuntimeCustodyProvisioningIdV1 :=
  .newtype "elastos.protected-content.runtime-custody-provisioning-id/v1"

instance : LawfulBody RuntimeCustodyProvisioningIdV1 := lawful_newtype

structure CustodyNodeProvisioningRecordIdentityV1 where
  recordSha256 : Digest32
  recordBytes : UInt32

namespace CustodyNodeProvisioningRecordIdentityV1

def validate (v : CustodyNodeProvisioningRecordIdentityV1) : Except ContractError Unit := do
  rejectIf (v.recordSha256 = Bytes.zero 32)
    (.invalidField "custody_node_provisioning_record_sha256")
  rejectIf (v.recordBytes = 0) (.invalidField "custody_node_provisioning_record_bytes")

def new (recordSha256 : Digest32) (recordBytes : UInt32) :
    Except ContractError CustodyNodeProvisioningRecordIdentityV1 :=
  build validate ⟨recordSha256, recordBytes⟩

instance : CanonicalBody CustodyNodeProvisioningRecordIdentityV1 where
  DOMAIN := "elastos.protected-content.custody-node-provisioning-record-identity/v1"
  validate := validate
  encodeFields v := do
    Encoder.fixed v.recordSha256
    Encoder.u32 v.recordBytes
  decodeFields := do new (← Decoder.fixed 32) (← Decoder.u32)

instance : LawfulBody CustodyNodeProvisioningRecordIdentityV1 where
  mirrors _ h := (mirrors_fixed _).bind <| (mirrors_u32 _).last (build_eq h)

end CustodyNodeProvisioningRecordIdentityV1

structure CustodyNodeProvisioningRecordV1 where
  keyEnvelopeIdentity : KeyEnvelopeIdentityV1
  manifest : CustodyEnvelopeManifestV1
  selectedNodePublicKey : NodePublicKey
  sealedShare : PqHybridSealedShareV1

namespace CustodyNodeProvisioningRecordV1

def validate [Crypto] (v : CustodyNodeProvisioningRecordV1) : Except ContractError Unit := do
  requireCanonical v.keyEnvelopeIdentity
  requireCanonical v.manifest
  v.selectedNodePublicKey.recheck
  requireCanonical v.sealedShare
  rejectIf (v.manifest.node v.selectedNodePublicKey).isNone
    (.invalidField "selected_node_public_key")
  let nodeSet ← v.manifest.nodeSet
  let nodeSetId ← nodeSet.nodeSetId
  rejectIf (nodeSetId ≠ v.keyEnvelopeIdentity.nodeSetId) (.invalidField "key_envelope.node_set_id")
  rejectIf (nodeSet.threshold ≠ v.keyEnvelopeIdentity.threshold)
    (.invalidField "key_envelope.threshold")
  rejectIf (v.manifest.encryptedContent ≠ v.keyEnvelopeIdentity.encryptedContent)
    (.invalidField "key_envelope.encrypted_content")
  rejectIf (v.manifest.threshold ≠ v.keyEnvelopeIdentity.threshold)
    (.invalidField "key_envelope.threshold")
  rejectIf (v.manifest.custodyPool ≠ v.keyEnvelopeIdentity.custodyPool)
    (.invalidField "key_envelope.custody_pool")
  rejectIf (v.manifest.custodyEpoch ≠ v.keyEnvelopeIdentity.custodyEpoch)
    (.invalidField "key_envelope.custody_epoch")
  rejectIf
    (v.manifest.custodyCommitteeAuthorization ≠ v.keyEnvelopeIdentity.custodyCommitteeAuthorization)
    (.invalidField "key_envelope.custody_committee_authorization")

def new [Crypto] (keyEnvelopeIdentity : KeyEnvelopeIdentityV1)
    (manifest : CustodyEnvelopeManifestV1) (selectedNodePublicKey : NodePublicKey)
    (sealedShare : PqHybridSealedShareV1) : Except ContractError CustodyNodeProvisioningRecordV1 :=
  build validate ⟨keyEnvelopeIdentity, manifest, selectedNodePublicKey, sealedShare⟩

instance [Crypto] : CanonicalBody CustodyNodeProvisioningRecordV1 where
  DOMAIN := "elastos.protected-content.custody-node-provisioning-record/v1"
  validate := validate
  encodeFields v := do
    Encoder.nested v.keyEnvelopeIdentity
    Encoder.nested v.manifest
    Encoder.fixed v.selectedNodePublicKey.value
    Encoder.nested v.sealedShare
  decodeFields := do
    new
      (← Decoder.nested "key_envelope_identity")
      (← Decoder.nested "custody_manifest")
      (← NodePublicKey.new (← Decoder.fixed 32))
      (← Decoder.nested "sealed_share")

instance [Crypto] : LawfulBody CustodyNodeProvisioningRecordV1 where
  mirrors v h :=
    (mirrors_nested _).bind <| (mirrors_nested _).bind <|
    (mirrors_fixed _).check v.selectedNodePublicKey.new_value <|
    (mirrors_nested _).last (build_eq h)

end CustodyNodeProvisioningRecordV1

structure RuntimeCustodyProvisioningStatementV1 where
  runtimeOperationIssuer : RuntimeOperationIssuerKeyV1
  recordIdentity : CustodyNodeProvisioningRecordIdentityV1
  provisioningId : RuntimeCustodyProvisioningIdV1
  issuedAt : UInt64
  expiresAt : UInt64

namespace RuntimeCustodyProvisioningStatementV1

def validate (v : RuntimeCustodyProvisioningStatementV1) : Except ContractError Unit := do
  v.runtimeOperationIssuer.recheck
  requireCanonical v.recordIdentity
  requireCanonical v.provisioningId
  validateTimeWindow v.issuedAt v.expiresAt MAX_RUNTIME_CUSTODY_PROVISIONING_LIFETIME_SECS
    "runtime_custody_provisioning_lifetime"

def new (runtimeOperationIssuer : RuntimeOperationIssuerKeyV1)
    (recordIdentity : CustodyNodeProvisioningRecordIdentityV1)
    (provisioningId : RuntimeCustodyProvisioningIdV1) (issuedAt expiresAt : UInt64) :
    Except ContractError RuntimeCustodyProvisioningStatementV1 :=
  build validate ⟨runtimeOperationIssuer, recordIdentity, provisioningId, issuedAt, expiresAt⟩

instance : CanonicalBody RuntimeCustodyProvisioningStatementV1 where
  DOMAIN := "elastos.protected-content.runtime-custody-provisioning-statement/v1"
  validate := validate
  encodeFields v := do
    Encoder.fixed v.runtimeOperationIssuer.value
    Encoder.nested v.recordIdentity
    Encoder.nested v.provisioningId
    Encoder.u64 v.issuedAt
    Encoder.u64 v.expiresAt
  decodeFields := do
    new
      (← RuntimeOperationIssuerKeyV1.new (← Decoder.fixed 32))
      (← Decoder.nested "record_identity")
      (← Decoder.nested "provisioning_id")
      (← Decoder.u64)
      (← Decoder.u64)

instance : LawfulBody RuntimeCustodyProvisioningStatementV1 where
  mirrors v h :=
    (mirrors_fixed _).check v.runtimeOperationIssuer.new_value <| (mirrors_nested _).bind <|
    (mirrors_nested _).bind <| (mirrors_u64 _).bind <| (mirrors_u64 _).last (build_eq h)

end RuntimeCustodyProvisioningStatementV1

abbrev SignedRuntimeCustodyProvisioningV1 :=
  Signed RuntimeCustodyProvisioningStatementV1
    ⟨"elastos.protected-content.runtime-custody-provisioning/v1", "statement",
      "runtime_signature", "runtime_signature"⟩

end ElastosRuntime.Contracts
