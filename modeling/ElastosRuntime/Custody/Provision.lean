/-
# Provisioning an envelope

How a content key becomes a custody envelope (`provision.rs`): it is split into as many shares as
the committee has nodes, the shares are put in the order of their coordinates, and each is sealed
to the node at its position, bound to the manifest and to that node.

The splitting itself (`vsss-rs`, over GF(256)) is a third-party crate.  `Gf256` names its two
calls, and `LawfulGf256` is the scheme: shares numbered from one, any threshold of which combine
to the secret.  Provisioning then never fails for a committee that was validated
(`exists_provision`), which is what sealing a payload relies on.
-/
import ElastosRuntime.Custody.ShareWrap

namespace ElastosRuntime.Custody

open Codec Contracts

/-! ## 1. Secret sharing -/

/-- Secret sharing over GF(256): a share is its coordinate followed by its value. -/
class Gf256 where
  splitBytes : (threshold limit : Nat) → (secret : List UInt8) → Rng → Option (List (List UInt8))
  combineBytes : List (List UInt8) → Option (List UInt8)

/-- Values as shares, with coordinates from `coordinate` on. -/
def numberFrom : Nat → List (List UInt8) → List (List UInt8)
  | _, [] => []
  | coordinate, value :: values =>
    (UInt8.ofNat coordinate :: value) :: numberFrom (coordinate + 1) values

class LawfulGf256 [Gf256] : Prop where
  split : ∀ {threshold limit : Nat} (secret : List UInt8) (rng : Rng), 2 ≤ threshold →
    threshold ≤ limit → limit < 256 → ∃ values : List (List UInt8),
      Gf256.splitBytes threshold limit secret rng = some (numberFrom 1 values) ∧
        values.length = limit ∧ ∀ value ∈ values, value.length = secret.length
  combine : ∀ {threshold limit : Nat} {secret : List UInt8} {rng : Rng}
    {shares : List (List UInt8)}, Gf256.splitBytes threshold limit secret rng = some shares →
      ∀ chosen : List (List UInt8), chosen ⊆ shares → chosen.Nodup →
        threshold ≤ chosen.length → Gf256.combineBytes chosen = some secret

/-- One round of the loop of `normalize_share_values`: file a share under its coordinate. -/
def placeShare (total : UInt8) (share : List UInt8) (ordered : List (Option (Bytes 32))) :
    Except CustodyError (List (Option (Bytes 32))) :=
  match share with
  | [] => .error (.malformedShare "split_share_length")
  | coordinate :: value =>
    if h : value.length = 32 then do
      failIf (coordinate = 0 ∨ total < coordinate) (.malformedShare "split_share_coordinate")
      let slot := (coordinate - 1).toNat
      failIf ((ordered.getD slot none).isSome)
        (.malformedShare "duplicate_split_share_coordinate")
      pure (ordered.set slot (some ⟨value, h⟩))
    else .error (.malformedShare "split_share_length")

/-- The shares are taken from the end. -/
def normalizeShareValues (rawShares : List (List UInt8)) (total : UInt8) :
    Except CustodyError (List (Bytes 32)) := do
  let ordered ← rawShares.foldrM (placeShare total) (List.replicate total.toNat none)
  ordered.mapM fun share => okOr share (.malformedShare "missing_split_share")

def splitContentKey [Gf256] (contentKey : ContentEncryptionKeyV1) (threshold : ThresholdV1)
    (shamirRng : Rng) : Except CustodyError (List (Bytes 32)) := do
  let rawShares ← okOr (Gf256.splitBytes threshold.required.toNat threshold.total.toNat
    contentKey.bytes.toList shamirRng) .shamir
  normalizeShareValues rawShares threshold.total

/-! ## 2. Committees and nodes -/

section

variable [Curves] [Crypto]

/-- What `validate_custody_epoch_against_pool_at`, the only way to a value of this type, has
established. -/
structure ValidatedCustodyCommitteeV1 where
  poolIdentity : CustodyPoolIdentityV1
  authorizationIdentity : CustodyCommitteeAuthorizationIdentityV1
  committee : VerifiedCustodyEpochV1
  poolValid : poolIdentity.validate = .ok ()
  authorizationValid : authorizationIdentity.validate = .ok ()
  epochVerified : ∃ signedEpoch : SignedCustodyEpochV1, signedEpoch.verify = .ok committee

structure ExactCustodyEnvelopeNodeV1 where
  nodePublicKey : NodePublicKey
  nodeCustodyPublicKey : NodeCustodyPublicKeyV1

/-- What a stored share is bound to. -/
def storedShareAadBytes (node : CustodyNodeIdentityV1) (manifestHash : Digest32) :
    Except ContractError (List UInt8) := do
  canonicalBytes (← StoredShareAadV1.new manifestHash node)

/-! ## 3. Provisioning -/

variable [XWing] [Aes256Gcm] [Gf256]

/-- The loop over the nodes and their shares. -/
def sealShares (manifestHash : Digest32) :
    List (CustodyNodeIdentityV1 × Bytes 32) → Draws (List PqHybridSealedShareV1)
  | [] => pure []
  | (node, shareValue) :: rest => do
    let aad ← liftM ((storedShareAadBytes node manifestHash).mapError CustodyError.contract)
    let sealed ← sealShare node.custodyPublicKey.value STORED_SHARE_HPKE_INFO_V1 aad shareValue
    let others ← sealShares manifestHash rest
    pure (sealed :: others)

def provisionCustodyEnvelopeFromManifestNodesWithRng
    (encryptedContent : EncryptedContentIdentityV1) (contentKey : ContentEncryptionKeyV1)
    (custodyPool : CustodyPoolIdentityV1) (custodyEpoch : CustodyEpochIdentityV1)
    (custodyCommitteeAuthorization : CustodyCommitteeAuthorizationIdentityV1)
    (threshold : ThresholdV1) (nodes : List CustodyNodeIdentityV1) (hpkeRng shamirRng : Rng) :
    Except CustodyError CustodyEnvelopeV1 := do
  let manifest ← (CustodyEnvelopeManifestV1.new encryptedContent custodyPool custodyEpoch
    custodyCommitteeAuthorization threshold contentKey.commitment nodes).mapError .contract
  let manifestHash ← (canonicalHash manifest).mapError .contract
  let shareValues ← splitContentKey contentKey manifest.threshold shamirRng
  let sealed ← (sealShares manifestHash (manifest.nodes.zip shareValues)).run hpkeRng
  (CustodyEnvelopeV1.new manifest sealed.1).mapError .contract

def provisionCustodyEnvelopeWithRng (encryptedContent : EncryptedContentIdentityV1)
    (contentKey : ContentEncryptionKeyV1) (committee : ValidatedCustodyCommitteeV1)
    (hpkeRng shamirRng : Rng) : Except CustodyError CustodyEnvelopeV1 :=
  provisionCustodyEnvelopeFromManifestNodesWithRng encryptedContent contentKey
    committee.poolIdentity committee.committee.epochIdentity committee.authorizationIdentity
    committee.committee.threshold committee.committee.nodes hpkeRng shamirRng

/-- The generators are seeded by the system, which may refuse. -/
def provisionCustodyEnvelope (encryptedContent : EncryptedContentIdentityV1)
    (contentKey : ContentEncryptionKeyV1) (committee : ValidatedCustodyCommitteeV1)
    (hpkeRng shamirRng : Option Rng) : Except CustodyError CustodyEnvelopeV1 := do
  let hpkeRng ← okOr hpkeRng .randomnessUnavailable
  let shamirRng ← okOr shamirRng .randomnessUnavailable
  provisionCustodyEnvelopeWithRng encryptedContent contentKey committee hpkeRng shamirRng

/-! ## 4. The shares in order -/

omit [Curves] [Crypto] [XWing] [Aes256Gcm] [Gf256] in
/-- **Filing the shares**, by induction on the values: those with coordinates above `k` fill the
slots from `k` on. -/
theorem place_numberFrom {total : UInt8} {values : List (Bytes 32)} : ∀ {k : Nat},
    k + values.length = total.toNat →
      (numberFrom (k + 1) (values.map List.Vector.toList)).foldrM (placeShare total)
          (List.replicate total.toNat none) =
        .ok (List.replicate k none ++ values.map some) := by
  induction values with
  | nil =>
    intro k hk
    rw [List.length_nil, Nat.add_zero] at hk
    rw [List.map_nil, numberFrom, List.foldrM_nil, ← hk, List.map_nil, List.append_nil]
    rfl
  | cons value values ih =>
    intro k hk
    rw [List.length_cons] at hk
    have hrest := ih (k := k + 1) (by omega)
    rw [List.map_cons, numberFrom, List.foldrM_cons, hrest]
    have hsmall : k + 1 < 256 := by have := total.toNat_lt; omega
    have hcoordinate : (UInt8.ofNat (k + 1)).toNat = k + 1 := UInt8.toNat_ofNat_of_lt' hsmall
    have hslot : (UInt8.ofNat (k + 1) - 1).toNat = k := by
      rw [UInt8.toNat_sub_of_le _ _ (by rw [UInt8.le_iff_toNat_le, hcoordinate]; simp), hcoordinate]
      simp
    have hinside : ¬(UInt8.ofNat (k + 1) = 0 ∨ total < UInt8.ofNat (k + 1)) := by
      rw [not_or, ← UInt8.toNat_inj, UInt8.lt_iff_toNat_lt, hcoordinate]
      constructor
      · simp
      · omega
    change (placeShare total (UInt8.ofNat (k + 1) :: value.toList) _) = _
    rw [placeShare, dif_pos value.length_toList]
    refine bind_eq_ok.mpr ⟨(), failIf_eq_ok.mpr hinside, bind_eq_ok.mpr ⟨(), ?_, ?_⟩⟩
    · rw [failIf_eq_ok, hslot, List.replicate_succ', List.append_assoc]
      simp
    · rw [hslot, List.replicate_succ', List.append_assoc]
      simp

omit [Curves] [Crypto] [XWing] [Aes256Gcm] [Gf256] in
theorem normalizeShareValues_numberFrom {total : UInt8} {values : List (Bytes 32)}
    (h : values.length = total.toNat) :
    normalizeShareValues (numberFrom 1 (values.map List.Vector.toList)) total = .ok values := by
  have hplaced := place_numberFrom (k := 0) ((Nat.zero_add _).trans h)
  refine bind_eq_ok.mpr ⟨_, hplaced, mapM_eq_ok.mpr ?_⟩
  rw [List.replicate_zero, List.nil_append, List.forall₂_map_left_iff]
  exact List.forall₂_same.mpr fun _ _ => rfl

omit [Curves] [Crypto] [XWing] [Aes256Gcm] [Gf256] in
theorem exists_map_toList {n : Nat} {l : List (List UInt8)} (h : ∀ value ∈ l, value.length = n) :
    ∃ values : List (Bytes n), values.map List.Vector.toList = l := by
  induction l with
  | nil => exact ⟨[], rfl⟩
  | cons value l ih =>
    obtain ⟨values, rfl⟩ := ih fun value hvalue => h value (List.mem_cons_of_mem _ hvalue)
    exact ⟨⟨value, h value List.mem_cons_self⟩ :: values, rfl⟩

variable {threshold : ThresholdV1}

omit [Curves] [Crypto] [XWing] [Aes256Gcm] in
/-- **A content key splits**, into as many shares as the committee has nodes. -/
theorem exists_splitContentKey [LawfulGf256] (contentKey : ContentEncryptionKeyV1) (shamirRng : Rng)
    (h : threshold.validate = .ok ()) :
    ∃ values, splitContentKey contentKey threshold shamirRng = .ok values ∧
      values.length = threshold.total.toNat := by
  have hbounds := rejectIf_eq_ok.mp h
  rw [not_or, not_or, UInt8.not_lt, UInt8.not_lt, UInt8.le_iff_toNat_le, UInt8.le_iff_toNat_le]
    at hbounds
  obtain ⟨raw, hraw, hlen, hvalues⟩ := LawfulGf256.split contentKey.bytes.toList shamirRng
    hbounds.1 hbounds.2.1 threshold.total.toNat_lt
  obtain ⟨values, rfl⟩ := exists_map_toList fun value hvalue =>
    (hvalues value hvalue).trans contentKey.bytes.length_toList
  rw [List.length_map] at hlen
  exact ⟨values, bind_eq_ok.mpr ⟨_, okOr_eq_ok.mpr hraw, normalizeShareValues_numberFrom hlen⟩,
    hlen⟩

/-! ## 5. Provisioning succeeds -/

variable {nodes : List CustodyNodeIdentityV1}

omit [Crypto] [XWing] [Aes256Gcm] [Gf256] in
/-- The check of a list of nodes does not depend on the name it reports. -/
theorem validateCustodyNodeSet_field {field field' : String}
    (h : validateCustodyNodeSet nodes threshold field = .ok ()) :
    validateCustodyNodeSet nodes threshold field' = .ok () := by
  have hnodes : ∀ {nodes : List CustodyNodeIdentityV1} {index : Nat}
      {previous : Option CustodyNodeIdentityV1},
        checkNodes field index previous nodes = .ok () →
          checkNodes field' index previous nodes = .ok () := by
    intro nodes
    induction nodes with
    | nil => exact fun _ => rfl
    | cons node nodes ih =>
      intro index previous h
      obtain ⟨⟨⟩, hcanonical, h⟩ := bind_eq_ok.mp h
      obtain ⟨expected, hat, h⟩ := bind_eq_ok.mp h
      obtain ⟨⟨⟩, hcoordinate, h⟩ := bind_eq_ok.mp h
      obtain ⟨⟨⟩, hprevious, h⟩ := bind_eq_ok.mp h
      rw [rejectIf_eq_ok] at hprevious
      exact bind_eq_ok.mpr ⟨(), hcanonical, bind_eq_ok.mpr ⟨expected, hat, bind_eq_ok.mpr
        ⟨(), hcoordinate, bind_eq_ok.mpr ⟨(), rejectIf_eq_ok.mpr hprevious, ih h⟩⟩⟩⟩
  obtain ⟨⟨⟩, hthreshold, h⟩ := bind_eq_ok.mp h
  obtain ⟨⟨⟩, hlen, h⟩ := bind_eq_ok.mp h
  obtain ⟨⟨⟩, hcheck, hdistinct⟩ := bind_eq_ok.mp h
  rw [rejectIf_eq_ok] at hlen
  exact bind_eq_ok.mpr ⟨(), hthreshold, bind_eq_ok.mpr ⟨(), rejectIf_eq_ok.mpr hlen,
    bind_eq_ok.mpr ⟨(), hnodes hcheck, hdistinct⟩⟩⟩

omit [Crypto] [XWing] [Aes256Gcm] [Gf256] in
theorem exists_storedShareAadBytes (node : CustodyNodeIdentityV1) (manifestHash : Digest32) :
    ∃ aad, storedShareAadBytes node manifestHash = .ok aad ∧ aad.length ≤ 1443 := by
  obtain ⟨n, hn, bytes, hbytes, rfl⟩ := StoredShareAadV1.encodes ⟨manifestHash, node⟩
  have hnew : StoredShareAadV1.new manifestHash node = .ok ⟨manifestHash, node⟩ :=
    build_eq node.encodes.requireCanonical
  exact ⟨bytes, bind_eq_ok.mpr ⟨_, hnew, hbytes⟩, hn⟩

omit [Crypto] [Gf256] in
/-- Every node of a list gets its share. -/
theorem exists_sealShares [LawfulXWing] [LawfulAes256Gcm] (manifestHash : Digest32)
    (shares : List (CustodyNodeIdentityV1 × Bytes 32)) (rng : Rng) :
    ∃ sealed rng', (sealShares manifestHash shares).run rng = .ok (sealed, rng') ∧
      sealed.length = shares.length ∧ ∀ share ∈ sealed, share.validate = .ok () := by
  induction shares generalizing rng with
  | nil => exact ⟨[], rng, rfl, rfl, fun _ h => absurd h List.not_mem_nil⟩
  | cons entry shares ih =>
    obtain ⟨node, value⟩ := entry
    obtain ⟨aad, haad, hlen⟩ := exists_storedShareAadBytes node manifestHash
    have hbound : (boundAad STORED_SHARE_HPKE_INFO_V1 aad).length ≤ GCM_MAX_BYTES := by
      have hinfo : (utf8Bytes STORED_SHARE_HPKE_INFO_V1).length ≤ 64 := by decide
      rw [boundAad, List.length_append, GCM_MAX_BYTES]
      omega
    obtain ⟨share, rng₁, hshare, hvalid, -⟩ :=
      exists_sealShare value rng node.custodyPublicKey.valid hbound
    obtain ⟨others, rng₂, hothers, hcount, hall⟩ := ih rng₁
    refine ⟨share :: others, rng₂, ?_, ?_, ?_⟩
    · refine bind_eq_ok.mpr ⟨(aad, rng), bind_eq_ok.mpr ⟨aad, mapError_eq_ok.mpr haad, rfl⟩, ?_⟩
      exact bind_eq_ok.mpr ⟨_, hshare, bind_eq_ok.mpr ⟨_, hothers, rfl⟩⟩
    · rw [List.length_cons, List.length_cons, hcount]
    · exact List.forall_mem_cons.mpr ⟨hvalid, hall⟩

variable {encryptedContent : EncryptedContentIdentityV1}

/-- **Provisioning succeeds for a list of nodes that passes its check.** -/
theorem exists_provision_nodes [LawfulXWing] [LawfulAes256Gcm] [LawfulGf256]
    (contentKey : ContentEncryptionKeyV1) {custodyPool : CustodyPoolIdentityV1}
    {custodyEpoch : CustodyEpochIdentityV1}
    {custodyCommitteeAuthorization : CustodyCommitteeAuthorizationIdentityV1}
    (hpkeRng shamirRng : Rng) (hcontent : encryptedContent.validate = .ok ())
    (hpool : custodyPool.validate = .ok ()) (hepoch : custodyEpoch.validate = .ok ())
    (hauthorization : custodyCommitteeAuthorization.validate = .ok ())
    (hnodes : validateCustodyNodeSet nodes threshold "custody_manifest.nodes" = .ok ()) :
    ∃ envelope, provisionCustodyEnvelopeFromManifestNodesWithRng encryptedContent contentKey
      custodyPool custodyEpoch custodyCommitteeAuthorization threshold nodes hpkeRng shamirRng =
        .ok envelope := by
  obtain ⟨hthreshold, -, hassign⟩ := validateCustodyNodeSet_eq_ok hnodes
  let manifest : CustodyEnvelopeManifestV1 := ⟨encryptedContent, custodyPool, custodyEpoch,
    custodyCommitteeAuthorization, threshold, contentKey.commitment, nodes⟩
  have hvalid : manifest.validate = .ok () := bind_eq_ok.mpr ⟨(), hcontent, bind_eq_ok.mpr
    ⟨(), hpool, bind_eq_ok.mpr ⟨(), hepoch, bind_eq_ok.mpr ⟨(), hauthorization, hnodes⟩⟩⟩⟩
  have hmanifest : CustodyEnvelopeManifestV1.new encryptedContent custodyPool custodyEpoch
      custodyCommitteeAuthorization threshold contentKey.commitment nodes = .ok manifest :=
    bind_eq_ok.mpr ⟨nodes, hassign, build_eq hvalid⟩
  obtain ⟨manifestHash, hhash⟩ := (CustodyEnvelopeManifestV1.encodes hvalid).canonicalHash
  obtain ⟨values, hsplit, hcount⟩ := exists_splitContentKey contentKey shamirRng hthreshold
  obtain ⟨shares, rng', hshares, hlen, hall⟩ :=
    exists_sealShares manifestHash (nodes.zip values) hpkeRng
  have htotal : nodes.length = threshold.total.toNat := by
    obtain ⟨⟨⟩, _, hnodes⟩ := bind_eq_ok.mp hnodes
    obtain ⟨⟨⟩, hbounds, _⟩ := bind_eq_ok.mp hnodes
    rw [rejectIf_eq_ok, not_or, not_not] at hbounds
    exact hbounds.1
  have hzip : shares.length = nodes.length := by
    rw [hlen, List.length_zip, hcount, htotal, Nat.min_self]
  have henvelope : CustodyEnvelopeV1.new manifest shares = .ok ⟨manifest, shares⟩ :=
    build_eq <| bind_eq_ok.mpr
      ⟨(), (CustodyEnvelopeManifestV1.encodes hvalid).requireCanonical, bind_eq_ok.mpr
        ⟨(), rejectIf_eq_ok.mpr (not_not.mpr hzip), forM_eq_ok.mpr fun share hshare =>
          (PqHybridSealedShareV1.encodes (hall share hshare)).requireCanonical⟩⟩
  exact ⟨⟨manifest, shares⟩, bind_eq_ok.mpr ⟨manifest, mapError_eq_ok.mpr hmanifest,
    bind_eq_ok.mpr ⟨manifestHash, mapError_eq_ok.mpr hhash, bind_eq_ok.mpr ⟨values, hsplit,
      bind_eq_ok.mpr ⟨(shares, rng'), hshares, mapError_eq_ok.mpr henvelope⟩⟩⟩⟩⟩

omit [XWing] [Aes256Gcm] [Gf256] in
/-- What the verification of an epoch has checked of it. -/
theorem ValidatedCustodyCommitteeV1.accepted (committee : ValidatedCustodyCommitteeV1) :
    committee.committee.epochIdentity.validate = .ok () ∧
      validateCustodyNodeSet committee.committee.nodes committee.committee.threshold
        "custody_epoch.nodes" = .ok () := by
  obtain ⟨signed, hverified⟩ := committee.epochVerified
  obtain ⟨⟨⟩, hcanonical, h⟩ := bind_eq_ok.mp hverified
  obtain ⟨⟨⟩, _, h⟩ := bind_eq_ok.mp h
  obtain ⟨identity, hidentity, h⟩ := bind_eq_ok.mp h
  rw [mapError_eq_ok] at hcanonical hidentity
  obtain ⟨⟨⟩, hstatement, _⟩ := bind_eq_ok.mp (valid_of_requireCanonical hcanonical)
  obtain ⟨⟨⟩, _, hvalid⟩ := bind_eq_ok.mp (valid_of_requireCanonical hstatement)
  obtain ⟨⟨⟩, _, hnodes⟩ := bind_eq_ok.mp hvalid
  rw [← Except.ok.inj h]
  exact ⟨SizedIdentity.valid_of_eq_ok hidentity, hnodes⟩

/-- **Provisioning succeeds for a validated committee.** -/
theorem exists_provision [LawfulXWing] [LawfulAes256Gcm] [LawfulGf256]
    (contentKey : ContentEncryptionKeyV1) (committee : ValidatedCustodyCommitteeV1)
    (hpkeRng shamirRng : Rng) (hcontent : encryptedContent.validate = .ok ()) :
    ∃ envelope, provisionCustodyEnvelope encryptedContent contentKey committee hpkeRng shamirRng =
      .ok envelope :=
  exists_provision_nodes contentKey hpkeRng shamirRng hcontent committee.poolValid
    committee.accepted.1 committee.authorizationValid
    (validateCustodyNodeSet_field committee.accepted.2)

end

/-! ## 6. A committee to evaluate the model with -/

theorem tail_of_mem_numberFrom {k : Nat} {values : List (List UInt8)} {share : List UInt8}
    (h : share ∈ numberFrom k values) : share.tail ∈ values := by
  induction values generalizing k with
  | nil => cases h
  | cons value values ih =>
    rcases List.mem_cons.mp h with rfl | h
    · exact List.mem_cons_self
    · exact List.mem_cons_of_mem _ (ih h)

/-- A scheme whose every share is the secret. -/
@[reducible] def copyingGf256 : Gf256 where
  splitBytes := fun threshold limit secret _ =>
    if 2 ≤ threshold then some (numberFrom 1 (List.replicate limit secret)) else none
  combineBytes := fun shares => shares.head?.map List.tail

theorem copyingGf256_lawful : @LawfulGf256 copyingGf256 := by
  let _ := copyingGf256
  refine ⟨fun {threshold limit} secret rng htwo _ _ => ⟨List.replicate limit secret, if_pos htwo,
    List.length_replicate, fun value hvalue => ?_⟩, fun {threshold limit secret rng shares} h chosen
      hsub _ hlen => ?_⟩
  · rw [List.eq_of_mem_replicate hvalue]
  · obtain ⟨htwo, hshares⟩ := Option.ite_none_right_eq_some.mp h
    rw [← Option.some.inj hshares] at hsub
    cases chosen with
    | nil => rw [List.length_nil] at hlen; omega
    | cons share chosen =>
      have htail := tail_of_mem_numberFrom (hsub List.mem_cons_self)
      exact congrArg some (List.eq_of_mem_replicate htail)

section

attribute [local instance] acceptingCurves tailEchoCrypto

open ReleaseSample in
/-- The committee of the sample epoch. -/
def sampleCommittee : ValidatedCustodyCommitteeV1 where
  poolIdentity := ⟨Bytes.zero 32, 1⟩
  authorizationIdentity := ⟨Bytes.zero 32, 1⟩
  committee := epoch.toVerified epochIdentity
  poolValid := by decide
  authorizationValid := by decide
  epochVerified := by
    refine ⟨epoch, ?_⟩
    obtain ⟨hcanonical, hsigned, hepoch, -, -⟩ := epoch_verified (s := sample)
    exact bind_eq_ok.mpr ⟨(), mapError_eq_ok.mpr hcanonical, bind_eq_ok.mpr
      ⟨(), verifySignature_eq_ok.mpr hsigned, bind_eq_ok.mpr
        ⟨_, mapError_eq_ok.mpr hepoch, rfl⟩⟩⟩

end

end ElastosRuntime.Custody
