/-
# Custody nodes, manifests and envelopes

The nodes that hold the shares of a content key (`custody_envelope.rs`, `node_set.rs`, and the
check `validate_custody_node_set` they share with the custody epochs).

The lists of these records are canonical because their constructors sort them and hand out the
share coordinates by position, and their checks insist on the outcome.  Decoding runs the
constructor again, so the round trip rests on two facts: sorting leaves an ascending list alone,
and handing out coordinates that are already there changes nothing (`assignCoordinates_eq`).
-/
import ElastosRuntime.Contracts.Identity

namespace ElastosRuntime.Contracts

open Codec

/-- What node keys are ordered by. -/
def NodePublicKey.order [Curves] (k : NodePublicKey) : List UInt8 := k.value.toList

variable [Curves]

/-! ## 1. Node sets -/

structure NodeSetV1 where
  threshold : ThresholdV1
  members : List NodePublicKey

namespace NodeSetV1

def validate (v : NodeSetV1) : Except ContractError Unit := do
  v.threshold.validate
  rejectIf (v.members.length ≠ v.threshold.total.toNat ∨ ¬Ascending NodePublicKey.order v.members)
    (.invalidField "node_set.members")
  v.members.forM Checked.recheck

def new (threshold : ThresholdV1) (members : List NodePublicKey) :
    Except ContractError NodeSetV1 :=
  build validate ⟨threshold, sortByKey NodePublicKey.order members⟩

instance : CanonicalBody NodeSetV1 where
  DOMAIN := "elastos.protected-content.node-set/v1"
  validate := validate
  encodeFields v := do
    v.threshold.encode
    Encoder.u8 (UInt8.ofNat v.members.length)
    v.members.forM fun member => Encoder.fixed member.value
  decodeFields := do
    let threshold ← ThresholdV1.decode
    let count ← Decoder.u8
    rejectIf (count.toNat ≠ threshold.total.toNat) (.invalidField "node_set.members")
    let members ← many (do NodePublicKey.new (← Decoder.fixed 32)) count.toNat
    new threshold members

def nodeSetId [Crypto] (v : NodeSetV1) : Except ContractError Digest32 := canonicalHash v

theorem valid_parts {v : NodeSetV1} (h : v.validate = .ok ()) :
    v.threshold.validate = .ok () ∧ v.members.length = v.threshold.total.toNat ∧
      Ascending NodePublicKey.order v.members := by
  obtain ⟨⟨⟩, ht, h⟩ := bind_eq_ok.mp h
  obtain ⟨⟨⟩, hm, _⟩ := bind_eq_ok.mp h
  rw [rejectIf_eq_ok, not_or, not_not, not_not] at hm
  exact ⟨ht, hm.1, hm.2⟩

instance : LawfulBody NodeSetV1 where
  mirrors v h := by
    obtain ⟨ht, hlen, hasc⟩ := valid_parts h
    have hsmall : v.members.length < 256 := by have := ThresholdV1.total_le ht; omega
    refine (ThresholdV1.mirrors ht).bind <| (mirrors_u8 _).bind <| .skip (b := ()) ?_ ?_
    · rw [UInt8.toNat_ofNat_of_lt' hsmall, rejectIf_eq_ok, not_not]
      exact hlen
    · refine (mirrors_counted hsmall fun k _ => (mirrors_fixed _).last k.new_value).last ?_
      rw [new, hasc.sortByKey_eq]
      exact build_eq h

end NodeSetV1

/-! ## 2. Nodes -/

structure CustodyNodeIdentityV1 where
  nodePublicKey : NodePublicKey
  custodyPublicKey : NodeCustodyPublicKeyV1
  shareCoordinate : ShareCoordinateV1

namespace CustodyNodeIdentityV1

def validate (v : CustodyNodeIdentityV1) : Except ContractError Unit := do
  v.nodePublicKey.recheck
  v.custodyPublicKey.recheck
  v.shareCoordinate.recheck

def new (nodePublicKey : NodePublicKey) (custodyPublicKey : NodeCustodyPublicKeyV1)
    (shareCoordinate : ShareCoordinateV1) : Except ContractError CustodyNodeIdentityV1 :=
  build validate ⟨nodePublicKey, custodyPublicKey, shareCoordinate⟩

instance : CanonicalBody CustodyNodeIdentityV1 where
  DOMAIN := "elastos.protected-content.custody-node-identity/v1"
  validate := validate
  encodeFields v := do
    Encoder.fixed v.nodePublicKey.value
    Encoder.fixed v.custodyPublicKey.value
    Encoder.u8 v.shareCoordinate.value
  decodeFields := do
    new
      (← NodePublicKey.new (← Decoder.fixed 32))
      (← NodeCustodyPublicKeyV1.new (← Decoder.fixed 1216))
      (← ShareCoordinateV1.new (← Decoder.u8))

instance : LawfulBody CustodyNodeIdentityV1 where
  mirrors v h :=
    (mirrors_fixed _).check v.nodePublicKey.new_value <|
    (mirrors_fixed _).check v.custodyPublicKey.new_value <|
    (mirrors_u8 _).checkLast v.shareCoordinate.new_value (build_eq h)

def order (v : CustodyNodeIdentityV1) : List UInt8 := v.nodePublicKey.order

end CustodyNodeIdentityV1

/-! ## 3. Lists of nodes -/

/-- The coordinate of the node at a position. -/
def coordinateAt (index : Nat) : Except ContractError ShareCoordinateV1 := do
  rejectIf (255 < index + 1) (.invalidField "share_coordinate")
  ShareCoordinateV1.new (UInt8.ofNat (index + 1))

/-- The loop of the constructors: hand out the coordinates from `index` on. -/
def assignCoordinates :
    Nat → List CustodyNodeIdentityV1 → Except ContractError (List CustodyNodeIdentityV1)
  | _, [] => pure []
  | index, node :: nodes => do
    let shareCoordinate ← coordinateAt index
    let nodes ← assignCoordinates (index + 1) nodes
    pure ({ node with shareCoordinate } :: nodes)

/-- The first loop of `validate_custody_node_set`, `previous` being the node before `index`. -/
def checkNodes (nodesField : String) :
    Nat → Option CustodyNodeIdentityV1 → List CustodyNodeIdentityV1 → Except ContractError Unit
  | _, _, [] => pure ()
  | index, previous, node :: nodes => do
    requireCanonical node
    let expected ← coordinateAt index
    rejectIf (node.shareCoordinate ≠ expected) (.invalidField "share_coordinate")
    rejectIf (¬∀ p ∈ previous, p.order < node.order) (.invalidField nodesField)
    checkNodes nodesField (index + 1) node nodes

def validateCustodyNodeSet (nodes : List CustodyNodeIdentityV1) (threshold : ThresholdV1)
    (nodesField : String) : Except ContractError Unit := do
  threshold.validate
  rejectIf (nodes.length ≠ threshold.total.toNat ∨ MAX_THRESHOLD_NODES.toNat < nodes.length)
    (.invalidField nodesField)
  checkNodes nodesField 0 none nodes
  rejectIf (¬(nodes.map (·.custodyPublicKey)).Nodup) (.invalidField "node_custody_public_key")

/-- **What the first loop establishes**, by induction on the list: coordinates that handing them
out again would not change, and keys in order. -/
theorem checkNodes_eq_ok {nodesField : String} {nodes : List CustodyNodeIdentityV1} :
    ∀ {index : Nat} {previous : Option CustodyNodeIdentityV1},
      checkNodes nodesField index previous nodes = .ok () →
        assignCoordinates index nodes = .ok nodes ∧
          Ascending CustodyNodeIdentityV1.order nodes ∧
            ∀ p ∈ previous, ∀ node ∈ nodes.head?, p.order < node.order := by
  induction nodes with
  | nil =>
    intro index previous _
    exact ⟨rfl, .nil, fun _ _ _ h => nomatch h⟩
  | cons node nodes ih =>
    intro index previous h
    obtain ⟨_, _, h⟩ := bind_eq_ok.mp h
    obtain ⟨expected, hat, h⟩ := bind_eq_ok.mp h
    obtain ⟨⟨⟩, hcoord, h⟩ := bind_eq_ok.mp h
    obtain ⟨⟨⟩, hprev, h⟩ := bind_eq_ok.mp h
    rw [rejectIf_eq_ok, not_not] at hcoord hprev
    obtain ⟨hassign, hasc, hhead⟩ := ih h
    refine ⟨?_, ?_, ?_⟩
    · refine bind_eq_ok.mpr ⟨expected, hat, bind_eq_ok.mpr ⟨nodes, hassign, ?_⟩⟩
      rw [← hcoord]
      rfl
    · exact ascending_cons.mpr ⟨hhead node rfl, hasc⟩
    · rintro p hp _ ⟨⟩
      exact hprev p hp

/-- Accepted lists are short and are left alone by the constructors. -/
theorem validateCustodyNodeSet_eq_ok {nodes : List CustodyNodeIdentityV1} {threshold : ThresholdV1}
    {nodesField : String} (h : validateCustodyNodeSet nodes threshold nodesField = .ok ()) :
    threshold.validate = .ok () ∧ nodes.length < 256 ∧
      assignCoordinates 0 (sortByKey CustodyNodeIdentityV1.order nodes) = .ok nodes := by
  obtain ⟨⟨⟩, ht, h⟩ := bind_eq_ok.mp h
  obtain ⟨⟨⟩, hlen, h⟩ := bind_eq_ok.mp h
  obtain ⟨⟨⟩, hnodes, _⟩ := bind_eq_ok.mp h
  obtain ⟨hassign, hasc, _⟩ := checkNodes_eq_ok hnodes
  rw [rejectIf_eq_ok, not_or, not_not] at hlen
  refine ⟨ht, ?_, ?_⟩
  · have := ThresholdV1.total_le ht
    omega
  · rw [hasc.sortByKey_eq]
    exact hassign

/-! ## 4. Manifests -/

structure CustodyEnvelopeManifestV1 where
  encryptedContent : EncryptedContentIdentityV1
  custodyPool : CustodyPoolIdentityV1
  custodyEpoch : CustodyEpochIdentityV1
  custodyCommitteeAuthorization : CustodyCommitteeAuthorizationIdentityV1
  threshold : ThresholdV1
  contentKeyCommitment : Digest32
  nodes : List CustodyNodeIdentityV1

namespace CustodyEnvelopeManifestV1

def validate (v : CustodyEnvelopeManifestV1) : Except ContractError Unit := do
  v.encryptedContent.validate
  v.custodyPool.validate
  v.custodyEpoch.validate
  v.custodyCommitteeAuthorization.validate
  validateCustodyNodeSet v.nodes v.threshold "custody_manifest.nodes"

def new (encryptedContent : EncryptedContentIdentityV1) (custodyPool : CustodyPoolIdentityV1)
    (custodyEpoch : CustodyEpochIdentityV1)
    (custodyCommitteeAuthorization : CustodyCommitteeAuthorizationIdentityV1)
    (threshold : ThresholdV1) (contentKeyCommitment : Digest32)
    (nodes : List CustodyNodeIdentityV1) : Except ContractError CustodyEnvelopeManifestV1 := do
  let nodes ← assignCoordinates 0 (sortByKey CustodyNodeIdentityV1.order nodes)
  build validate
    ⟨encryptedContent, custodyPool, custodyEpoch, custodyCommitteeAuthorization, threshold,
      contentKeyCommitment, nodes⟩

instance : CanonicalBody CustodyEnvelopeManifestV1 where
  DOMAIN := "elastos.protected-content.custody-envelope-manifest/v1"
  validate := validate
  encodeFields v := do
    Encoder.nested v.encryptedContent
    Encoder.nested v.custodyPool
    Encoder.nested v.custodyEpoch
    Encoder.nested v.custodyCommitteeAuthorization
    v.threshold.encode
    Encoder.fixed v.contentKeyCommitment
    Encoder.u8 (UInt8.ofNat v.nodes.length)
    v.nodes.forM Encoder.nested
  decodeFields := do
    let encryptedContent ← Decoder.nested "encrypted_content"
    let custodyPool ← Decoder.nested "custody_pool"
    let custodyEpoch ← Decoder.nested "custody_epoch"
    let custodyCommitteeAuthorization ← Decoder.nested "custody_committee_authorization"
    let threshold ← ThresholdV1.decode
    let contentKeyCommitment ← Decoder.fixed 32
    let count ← Decoder.u8
    let nodes ← many (Decoder.nested "custody_node") count.toNat
    new encryptedContent custodyPool custodyEpoch custodyCommitteeAuthorization threshold
      contentKeyCommitment nodes

theorem nodes_valid {v : CustodyEnvelopeManifestV1} (h : v.validate = .ok ()) :
    validateCustodyNodeSet v.nodes v.threshold "custody_manifest.nodes" = .ok () := by
  obtain ⟨⟨⟩, _, h⟩ := bind_eq_ok.mp h
  obtain ⟨⟨⟩, _, h⟩ := bind_eq_ok.mp h
  obtain ⟨⟨⟩, _, h⟩ := bind_eq_ok.mp h
  obtain ⟨⟨⟩, _, h⟩ := bind_eq_ok.mp h
  exact h

instance : LawfulBody CustodyEnvelopeManifestV1 where
  mirrors v h := by
    obtain ⟨ht, hsmall, hassign⟩ := validateCustodyNodeSet_eq_ok (nodes_valid h)
    exact (mirrors_nested _).bind <| (mirrors_nested _).bind <| (mirrors_nested _).bind <|
      (mirrors_nested _).bind <| (ThresholdV1.mirrors ht).bind <| (mirrors_fixed _).bind <|
      (mirrors_u8 _).bind <| (mirrors_counted hsmall fun node _ => mirrors_nested node).last <|
      bind_eq_ok.mpr ⟨v.nodes, hassign, build_eq h⟩

def nodeSet (v : CustodyEnvelopeManifestV1) : Except ContractError NodeSetV1 :=
  NodeSetV1.new v.threshold (v.nodes.map (·.nodePublicKey))

/-- The binary search of the source finds, on the ascending list of a valid manifest, the node
that holds the key. -/
def node (v : CustodyEnvelopeManifestV1) (nodePublicKey : NodePublicKey) :
    Option CustodyNodeIdentityV1 :=
  v.nodes.find? fun node => node.nodePublicKey = nodePublicKey

end CustodyEnvelopeManifestV1

/-! ## 5. Sealed shares and envelopes -/

def X_WING_DRAFT06_CIPHERTEXT_BYTES : Nat := 1120
def PQ_HYBRID_AEAD_NONCE_BYTES : Nat := 12
def PQ_HYBRID_WRAPPED_SHARE_BYTES : Nat := 48
def PQ_HYBRID_SEALED_SHARE_ENVELOPE_BYTES : Nat :=
  X_WING_DRAFT06_CIPHERTEXT_BYTES + PQ_HYBRID_AEAD_NONCE_BYTES + PQ_HYBRID_WRAPPED_SHARE_BYTES

structure PqHybridSealedShareV1 where
  envelope : List UInt8

namespace PqHybridSealedShareV1

/-- The X25519 half of the encapsulated key, the last 32 bytes of the hybrid ciphertext. -/
def ephemeralKey (v : PqHybridSealedShareV1) : List UInt8 :=
  (v.envelope.take X_WING_DRAFT06_CIPHERTEXT_BYTES).drop (X_WING_DRAFT06_CIPHERTEXT_BYTES - 32)

def validate (v : PqHybridSealedShareV1) : Except ContractError Unit := do
  rejectIf (v.envelope.length ≠ PQ_HYBRID_SEALED_SHARE_ENVELOPE_BYTES)
    (.invalidField "pq_hybrid_envelope")
  if h : v.ephemeralKey.length = 32 then
    rejectIf (¬validateCanonicalX25519PublicKey ⟨v.ephemeralKey, h⟩)
      (.invalidField "pq_hybrid_eph_x25519")
  else
    throw (.invalidField "pq_hybrid_eph_x25519")

def new (envelope : List UInt8) : Except ContractError PqHybridSealedShareV1 :=
  build validate ⟨envelope⟩

instance : CanonicalBody PqHybridSealedShareV1 where
  DOMAIN := "elastos.protected-content.pq-hybrid-sealed-share/v1"
  validate := validate
  encodeFields v := Encoder.bytes v.envelope
  decodeFields := do
    new (← Decoder.bytes "pq_hybrid_envelope" PQ_HYBRID_SEALED_SHARE_ENVELOPE_BYTES)

instance : LawfulBody PqHybridSealedShareV1 where
  mirrors v h := by
    obtain ⟨⟨⟩, hlen, _⟩ := bind_eq_ok.mp h
    rw [rejectIf_eq_ok, not_not] at hlen
    exact (mirrors_bytes fun _ => hlen.le).last (build_eq h)

end PqHybridSealedShareV1

structure CustodyEnvelopeV1 where
  manifest : CustodyEnvelopeManifestV1
  storedShares : List PqHybridSealedShareV1

namespace CustodyEnvelopeV1

def validate (v : CustodyEnvelopeV1) : Except ContractError Unit := do
  requireCanonical v.manifest
  rejectIf (v.storedShares.length ≠ v.manifest.nodes.length) (.invalidField "stored_shares")
  v.storedShares.forM requireCanonical

def new (manifest : CustodyEnvelopeManifestV1) (storedShares : List PqHybridSealedShareV1) :
    Except ContractError CustodyEnvelopeV1 :=
  build validate ⟨manifest, storedShares⟩

instance : CanonicalBody CustodyEnvelopeV1 where
  DOMAIN := "elastos.protected-content.custody-envelope/v1"
  validate := validate
  encodeFields v := do
    Encoder.nested v.manifest
    Encoder.u8 (UInt8.ofNat v.storedShares.length)
    v.storedShares.forM Encoder.nested
  decodeFields := do
    let manifest ← Decoder.nested "custody_manifest"
    let count ← Decoder.u8
    let storedShares ← many (Decoder.nested "stored_share") count.toNat
    new manifest storedShares

instance : LawfulBody CustodyEnvelopeV1 where
  mirrors v h := by
    obtain ⟨⟨⟩, hmanifest, hshares⟩ := bind_eq_ok.mp h
    obtain ⟨⟨⟩, hlen, _⟩ := bind_eq_ok.mp hshares
    rw [rejectIf_eq_ok, not_not] at hlen
    obtain ⟨_, hnodes, _⟩ := validateCustodyNodeSet_eq_ok
      (CustodyEnvelopeManifestV1.nodes_valid (valid_of_requireCanonical hmanifest))
    exact (mirrors_nested _).bind <| (mirrors_u8 _).bind <|
      (mirrors_counted (hlen ▸ hnodes) fun share _ => mirrors_nested share).last (build_eq h)

end CustodyEnvelopeV1

/-! ## 6. What a share is bound to -/

structure StoredShareAadV1 where
  manifestHash : Digest32
  node : CustodyNodeIdentityV1

namespace StoredShareAadV1

def validate (v : StoredShareAadV1) : Except ContractError Unit := requireCanonical v.node

def new (manifestHash : Digest32) (node : CustodyNodeIdentityV1) :
    Except ContractError StoredShareAadV1 :=
  build validate ⟨manifestHash, node⟩

instance : CanonicalBody StoredShareAadV1 where
  DOMAIN := "elastos.protected-content.stored-share-aad/v1"
  validate := validate
  encodeFields v := do
    Encoder.fixed v.manifestHash
    Encoder.nested v.node
  decodeFields := do new (← Decoder.fixed 32) (← Decoder.nested "custody_node")

instance : LawfulBody StoredShareAadV1 where
  mirrors _ h := (mirrors_fixed _).bind <| (mirrors_nested _).last (build_eq h)

end StoredShareAadV1

structure ReleasedShareAadV1 where
  releaseRequestHash : Digest32
  binding : ProtectedContentBindingV1
  decisionHash : Digest32
  node : CustodyNodeIdentityV1
  recipient : RecipientKeyIdentityV1

namespace ReleasedShareAadV1

def validate (v : ReleasedShareAadV1) : Except ContractError Unit := do
  requireCanonical v.binding
  requireCanonical v.node
  requireCanonical v.recipient

def new (releaseRequestHash : Digest32) (binding : ProtectedContentBindingV1)
    (decisionHash : Digest32) (node : CustodyNodeIdentityV1) (recipient : RecipientKeyIdentityV1) :
    Except ContractError ReleasedShareAadV1 :=
  build validate ⟨releaseRequestHash, binding, decisionHash, node, recipient⟩

instance : CanonicalBody ReleasedShareAadV1 where
  DOMAIN := "elastos.protected-content.released-share-aad/v1"
  validate := validate
  encodeFields v := do
    Encoder.fixed v.releaseRequestHash
    Encoder.nested v.binding
    Encoder.fixed v.decisionHash
    Encoder.nested v.node
    Encoder.nested v.recipient
  decodeFields := do
    new
      (← Decoder.fixed 32)
      (← Decoder.nested "binding")
      (← Decoder.fixed 32)
      (← Decoder.nested "custody_node")
      (← Decoder.nested "recipient")

instance : LawfulBody ReleasedShareAadV1 where
  mirrors _ h :=
    (mirrors_fixed _).bind <| (mirrors_nested _).bind <| (mirrors_fixed _).bind <|
    (mirrors_nested _).bind <| (mirrors_nested _).last (build_eq h)

end ReleasedShareAadV1

end ElastosRuntime.Contracts
