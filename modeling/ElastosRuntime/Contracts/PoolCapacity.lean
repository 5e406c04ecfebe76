/-
# How many members a custody pool can have

The constructor of a pool admits up to 64 members, but a signed pool carries its statement behind
a length prefix of two bytes.  Every member takes the same number of bytes, because its
identifiers are of fixed length and its approved suites are the one suite there is
(`member_encodes`), so the two limits can be compared: 38 members fit, 39 do not, and a pool of 39
to 64 members can be built and cannot be written down (`encodable_iff`).
-/
import ElastosRuntime.Contracts.CustodyAuthority

namespace ElastosRuntime.Contracts

open Codec

/-! ## 1. The parts of a member -/

theorem CustodyApprovedSuitesV1.encodes {v : CustodyApprovedSuitesV1} (h : v.validate = .ok ()) :
    Encodes v 197 := by
  have hvalid := h
  obtain ⟨⟨⟩, _, h⟩ := bind_eq_ok.mp h
  obtain ⟨⟨⟩, _, h⟩ := bind_eq_ok.mp h
  obtain ⟨⟨⟩, _, h⟩ := bind_eq_ok.mp h
  obtain ⟨⟨⟩, h₁, h⟩ := bind_eq_ok.mp h
  obtain ⟨⟨⟩, h₂, h₃⟩ := bind_eq_ok.mp h
  rw [rejectIf_eq_ok, not_not] at h₁ h₂ h₃
  -- each of the three is the one suite there is
  have hsuite : (utf8Bytes CUSTODY_X_WING_AES256GCM_SUITE_ID_V1).length = 46 := by decide
  have emits : ∀ {s : String}, s = CUSTODY_X_WING_AES256GCM_SUITE_ID_V1 →
      Emits (Encoder.string s) (2 + 46) := by
    rintro _ rfl
    rw [← hsuite]
    exact emits_string (by omega)
  have hfields : Emits (CanonicalBody.encodeFields v) (2 + 46 + (2 + 46 + (2 + 46))) :=
    (emits h₁).bind ((emits h₂).bind (emits h₃))
  exact .of_emits hvalid hfields (by decide)

theorem CustodyPoolOperatorIdV1.encodes (v : CustodyPoolOperatorIdV1) : Encodes v 86 :=
  .of_emits rfl (emits_fixed v.bytes) (by decide)

theorem CustodyPoolFailureDomainIdV1.encodes (v : CustodyPoolFailureDomainIdV1) : Encodes v 92 :=
  .of_emits rfl (emits_fixed v.bytes) (by decide)

section

variable [Curves]

/-! ## 2. Members, statements, pools -/

/-- **Every member takes the same number of bytes.** -/
theorem CustodyPoolMemberV1.encodes {v : CustodyPoolMemberV1} (h : v.validate = .ok ()) :
    Encodes v 1695 := by
  have hvalid := h
  obtain ⟨⟨⟩, _, h⟩ := bind_eq_ok.mp h
  obtain ⟨⟨⟩, _, h⟩ := bind_eq_ok.mp h
  obtain ⟨⟨⟩, _, h⟩ := bind_eq_ok.mp h
  obtain ⟨⟨⟩, _, h⟩ := bind_eq_ok.mp h
  obtain ⟨⟨⟩, hsuites, _⟩ := bind_eq_ok.mp h
  have hoperator := v.operatorId.encodes.nested (by omega)
  have hdomain := v.failureDomainId.encodes.nested (by omega)
  have hsuites := (CustodyApprovedSuitesV1.encodes (valid_of_requireCanonical hsuites)).nested
    (by omega)
  have hfields := (emits_fixed v.nodePublicKey.value).bind <|
    (emits_fixed v.custodyPublicKey.value).bind <| hoperator.bind <| hdomain.bind <|
    hsuites.bind <| (emits_u64 v.validFrom).bind <| (emits_u64 v.validUntil).bind <|
    emits_u8 v.state.toByte
  exact .of_emits hvalid hfields (by dsimp only [CanonicalBody.DOMAIN]; decide)

namespace CustodyPoolStatementV1

variable {members : List CustodyPoolMemberV1}

theorem members_valid :
    ∀ {previous : Option CustodyPoolMemberV1}, checkMembers previous members = .ok () →
      ∀ member ∈ members, member.validate = .ok () := by
  induction members with
  | nil => exact fun _ _ h => nomatch h
  | cons member members ih =>
    intro previous h
    obtain ⟨⟨⟩, hmember, h⟩ := bind_eq_ok.mp h
    obtain ⟨⟨⟩, _, h⟩ := bind_eq_ok.mp h
    exact List.forall_mem_cons.mpr ⟨valid_of_requireCanonical hmember, ih h⟩

variable {v : CustodyPoolStatementV1}

/-- A statement that passes its check encodes, whatever the number of its members. -/
theorem encodes (h : v.validate = .ok ()) : Encodes v (85 + v.members.length * 1697) := by
  obtain ⟨hne, hlen, _⟩ := valid_parts h
  have hvalid := h
  obtain ⟨⟨⟩, _, h⟩ := bind_eq_ok.mp h
  obtain ⟨⟨⟩, _, h⟩ := bind_eq_ok.mp h
  obtain ⟨⟨⟩, hmembers, _⟩ := bind_eq_ok.mp h
  have hnested : ∀ member ∈ v.members, Emits (Encoder.nested member) (2 + 1695) :=
    fun member hmem => (CustodyPoolMemberV1.encodes (members_valid hmembers member hmem)).nested
      (by omega)
  have hcount : rejectIf (255 < v.members.length) (.invalidField "custody_pool_members") =
      .ok () := rejectIf_eq_ok.mpr (by omega)
  have hlist := (emits_u8 (UInt8.ofNat v.members.length)).bind (Emits.forM hnested)
  have hfields : Emits (CanonicalBody.encodeFields v)
      (32 + (1 + v.members.length * (2 + 1695))) :=
    (emits_fixed v.issuer.value).bind (.given hcount hlist)
  have hheader : (domainHeader (CanonicalBody.DOMAIN CustodyPoolStatementV1)).length = 52 := by
    dsimp only [CanonicalBody.DOMAIN]
    decide
  exact .of_emits hvalid hfields (by rw [hheader]; omega)

/-- Sorting the members keeps their number. -/
theorem new_parts {issuer : CustodyEpochIssuerKeyV1} (h : new issuer members = .ok v) :
    v.validate = .ok () ∧ v.members.length = members.length := by
  obtain ⟨⟨⟩, hvalid, ⟨⟩⟩ := bind_eq_ok.mp h
  exact ⟨hvalid, List.length_insertionSort _ members⟩

end CustodyPoolStatementV1

namespace SignedCustodyPoolV1

/-- A signed pool of up to 38 members encodes ... -/
theorem encodes {v : SignedCustodyPoolV1} (h : v.validate = .ok ())
    (hlen : v.statement.members.length ≤ 38) :
    Encodes v (202 + v.statement.members.length * 1697) := by
  obtain ⟨⟨⟩, hstatement, hsignature⟩ := bind_eq_ok.mp h
  rw [rejectIf_eq_ok, not_not, ED25519_SIGNATURE_BYTES] at hsignature
  have hnested := (CustodyPoolStatementV1.encodes (valid_of_requireCanonical hstatement)).nested
    (by omega)
  have hbytes : Emits (Encoder.bytes v.signature) (2 + v.signature.length) :=
    emits_bytes (by omega)
  have hheader : (domainHeader (CanonicalBody.DOMAIN SignedCustodyPoolV1)).length = 49 := by
    dsimp only [CanonicalBody.DOMAIN]
    decide
  exact .of_emits h (hnested.bind hbytes) (by rw [hheader]; omega)

/-- ... and one of 39 or more, although its constructor accepts it, does not. -/
theorem not_encodes {v : SignedCustodyPoolV1} (h : v.validate = .ok ())
    (hlen : 38 < v.statement.members.length) :
    canonicalBytes v = .error (.fieldTooLong "canonical byte string") := by
  obtain ⟨⟨⟩, hstatement, _⟩ := bind_eq_ok.mp h
  have hstop := (CustodyPoolStatementV1.encodes (valid_of_requireCanonical hstatement)).not_nested
    (by omega)
  have hrun : ∀ out, (CanonicalBody.encodeFields v).run out =
      .error (.fieldTooLong "canonical byte string") := fun out => by
    change ((Encoder.nested v.statement >>= fun _ => Encoder.bytes v.signature).run out) = _
    rw [StateT.run_bind, hstop out]
    rfl
  rw [canonicalBytes, show CanonicalBody.validate v = .ok () from h]
  exact congrArg (· >>= fun r => pure r.2) (hrun _)

end SignedCustodyPoolV1

/-! ## 3. The two limits compared -/

variable [Crypto]

/-- **A pool that the constructors accept can be written down, has an identity and is read back
if and only if it has at most 38 members.** -/
theorem SignedCustodyPoolV1.encodable_iff {issuer : CustodyEpochIssuerKeyV1}
    {members : List CustodyPoolMemberV1} {statement : CustodyPoolStatementV1}
    {signature : List UInt8} {pool : SignedCustodyPoolV1}
    (hstatement : CustodyPoolStatementV1.new issuer members = .ok statement)
    (hpool : Signed.new statement signature = .ok pool) :
    (∃ bytes identity, canonicalBytes pool = .ok bytes ∧ pool.poolIdentity = .ok identity ∧
        fromCanonicalBytes bytes = .ok pool) ↔ members.length ≤ 38 := by
  obtain ⟨⟨⟩, hvalid, ⟨⟩⟩ := bind_eq_ok.mp hpool
  rw [← (CustodyPoolStatementV1.new_parts hstatement).2]
  constructor
  · rintro ⟨bytes, _, hbytes, _⟩
    by_contra hmany
    rw [not_encodes hvalid (Nat.lt_of_not_le hmany)] at hbytes
    exact nomatch hbytes
  · intro hfew
    obtain ⟨bytes, hbytes, hlen⟩ := encodes hvalid hfew
    obtain ⟨identity, hidentity⟩ : ∃ identity, poolIdentity ⟨statement, signature⟩ = .ok identity :=
      SizedIdentity.exists_of ⟨bytes, hbytes, rfl⟩ (by omega) (by rw [hlen]; simp; omega)
    exact ⟨bytes, identity, hbytes, hidentity, fromCanonicalBytes_of_canonicalBytes hbytes⟩

end

section

attribute [local instance] acceptingCurves keyEchoCrypto

/-- A member that differs from the others in its keys alone. -/
def seedMember (seed : UInt8) : CustodyPoolMemberV1 where
  nodePublicKey := seedKey _ seed
  custodyPublicKey := seedWrapKey _ seed
  operatorId := ⟨Bytes.zero 32⟩
  failureDomainId := ⟨Bytes.zero 32⟩
  approvedSuites :=
    ⟨CUSTODY_X_WING_AES256GCM_SUITE_ID_V1, CUSTODY_X_WING_AES256GCM_SUITE_ID_V1,
      CUSTODY_X_WING_AES256GCM_SUITE_ID_V1⟩
  validFrom := 0
  validUntil := 1
  state := .active

/-- The first `n` of them under one issuer. -/
def seedPoolStatement (n : Nat) : CustodyPoolStatementV1 where
  issuer := seedKey _ 0
  members := (List.range n).map fun i => seedMember (UInt8.ofNat i)

def seedPool (n : Nat) : SignedCustodyPoolV1 := ⟨seedPoolStatement n, List.replicate 64 0⟩

theorem suites_valid : CustodyApprovedSuitesV1.validate
    ⟨CUSTODY_X_WING_AES256GCM_SUITE_ID_V1, CUSTODY_X_WING_AES256GCM_SUITE_ID_V1,
      CUSTODY_X_WING_AES256GCM_SUITE_ID_V1⟩ = .ok () := by decide

theorem seedMember_valid (seed : UInt8) : (seedMember seed).validate = .ok () :=
  bind_eq_ok.mpr ⟨(), Checked.recheck_eq _, bind_eq_ok.mpr ⟨(), Checked.recheck_eq _, bind_eq_ok.mpr
    ⟨(), (CustodyPoolOperatorIdV1.encodes _).requireCanonical, bind_eq_ok.mpr
      ⟨(), (CustodyPoolFailureDomainIdV1.encodes _).requireCanonical, bind_eq_ok.mpr
        ⟨(), (CustodyApprovedSuitesV1.encodes suites_valid).requireCanonical, rfl⟩⟩⟩⟩⟩

theorem seedPoolStatement_valid {n : Nat} (hpos : n ≠ 0) (hfew : n ≤ 64)
    (hasc : Ascending CustodyPoolMemberV1.order (seedPoolStatement n).members)
    (hkeys : ((seedPoolStatement n).members.map (·.custodyPublicKey)).Nodup) :
    (seedPoolStatement n).validate = .ok () := by
  have hlength : (seedPoolStatement n).members.length = n := by
    rw [seedPoolStatement, List.length_map, List.length_range]
  have hsome : (seedPoolStatement n).members ≠ [] := by
    rw [← List.length_pos_iff, hlength]
    exact Nat.pos_of_ne_zero hpos
  have hlimit : ¬MAX_CUSTODY_POOL_MEMBERS_V1 < (seedPoolStatement n).members.length := by
    rw [hlength]
    exact Nat.not_lt.mpr hfew
  refine bind_eq_ok.mpr ⟨(), Checked.recheck_eq _, bind_eq_ok.mpr
    ⟨(), rejectIf_eq_ok.mpr (not_or.mpr ⟨hsome, hlimit⟩), bind_eq_ok.mpr
      ⟨(), ?_, rejectIf_eq_ok.mpr (not_not.mpr hkeys)⟩⟩⟩
  refine CustodyPoolStatementV1.checkMembers_of_ascending (fun member hmember => ?_) hasc
    fun _ h => nomatch h
  obtain ⟨i, -, rfl⟩ := List.mem_map.mp hmember
  exact (CustodyPoolMemberV1.encodes (seedMember_valid _)).requireCanonical

/-- What the two constructors check of it. -/
theorem seedPool_new {n : Nat} (hvalid : (seedPoolStatement n).validate = .ok ())
    (hasc : Ascending CustodyPoolMemberV1.order (seedPoolStatement n).members) :
    CustodyPoolStatementV1.new (seedPoolStatement n).issuer (seedPoolStatement n).members =
        .ok (seedPoolStatement n) ∧
      Signed.new (seedPoolStatement n) (List.replicate 64 0) = .ok (seedPool n) := by
  constructor
  · rw [CustodyPoolStatementV1.new, hasc.sortByKey_eq]
    exact build_eq hvalid
  · have hencodes := (CustodyPoolStatementV1.encodes hvalid).requireCanonical
    exact build_eq (bind_eq_ok.mpr ⟨(), hencodes, rfl⟩)

theorem SignedCustodyPoolV1.encodable_iff_one :
    ∃ bytes identity, canonicalBytes (seedPool 1) = .ok bytes ∧
      (seedPool 1).poolIdentity = .ok identity ∧ fromCanonicalBytes bytes = .ok (seedPool 1) :=
  have hasc : Ascending CustodyPoolMemberV1.order (seedPoolStatement 1).members := by decide
  have hvalid := seedPoolStatement_valid (by decide) (by decide) hasc (by decide)
  have hnew := seedPool_new hvalid hasc
  (SignedCustodyPoolV1.encodable_iff hnew.1 hnew.2).mpr (by decide)

/-- **39 members that differ in their keys alone are a pool, and it cannot be encoded.** -/
theorem SignedCustodyPoolV1.thirtyNine_not_encodable :
    CustodyPoolStatementV1.new (seedPoolStatement 39).issuer (seedPoolStatement 39).members =
        .ok (seedPoolStatement 39) ∧
      Signed.new (seedPoolStatement 39) (List.replicate 64 0) = .ok (seedPool 39) ∧
      canonicalBytes (seedPool 39) = .error (.fieldTooLong "canonical byte string") := by
  have hasc : Ascending CustodyPoolMemberV1.order (seedPoolStatement 39).members := by
    decide +kernel
  have hvalid := seedPoolStatement_valid (by decide) (by decide) hasc (by decide +kernel)
  obtain ⟨hstatement, hpool⟩ := seedPool_new hvalid hasc
  obtain ⟨⟨⟩, hpoolValid, _⟩ := bind_eq_ok.mp hpool
  exact ⟨hstatement, hpool, SignedCustodyPoolV1.not_encodes hpoolValid (by decide)⟩

end

end ElastosRuntime.Contracts
