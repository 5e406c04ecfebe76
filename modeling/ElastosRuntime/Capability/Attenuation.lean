/-
# Delegation and attenuation

A delegated token should authorize nothing that its parent would not.  `Covers` is what the
parent's own scope, action, epoch, expiry and classification checks say about a request, and
`Attenuates` asks that they accept whatever validation accepts the child for, in every state of
the store and at every reading of the clock.

Scope, action and classification always attenuate: scopes because matching composes
(`ResourceId.matchesPattern_trans`).  The other two do so up to one exception each, and
`delegate_attenuates_iff` shows that these are the only ones.

* **Expiry.**  `delegate` picks the earlier expiry by the wall-clock second alone and takes the
  requested one on a tie, while a token's expiry also counts the sequence number
  (`ExpiryTie`).
* **Epoch.**  `grant` raises the child's epoch to the counter as it stands when the child is
  issued, which is after the parent was validated (`EpochRaised`).
-/
import ElastosRuntime.Capability.Manager

namespace ElastosRuntime.CapabilityManager

variable [Crypto]

/-! ## 1. Authority and attenuation -/

/-- The checks a parent token makes of a request on its own behalf. -/
structure Covers (parent : CapabilityToken) (store : CapabilityStore) (now : SecureTimestamp)
    (request : AccessRequest) : Prop where
  scope : request.resource.matchesPattern parent.resource = true
  action : parent.action = request.action
  epoch : store.isEpochValid parent.constraints.epoch = true
  expiry : expiryPassed parent.expiry now = false
  classification :
    checkClassification parent.constraints.maxClassification request.classification = .ok ()

/-- Whatever the child is accepted for, the parent covers. -/
def Attenuates (m : CapabilityManager) (parent child : CapabilityToken) : Prop :=
  ∀ (store : CapabilityStore) (clock : ValidationClock) (request : AccessRequest),
    ({ m with store }.validate clock child request).1 = .ok () →
      Covers parent store clock.atExpiry request

omit [Crypto] in
/-- The requested expiry falls in the same second as the parent's, at a later sequence number. -/
def ExpiryTie (parent requested : Option SecureTimestamp) : Prop :=
  ∃ p r, parent = some p ∧ requested = some r ∧ p.unixSecs = r.unixSecs ∧
    p.monotonicSeq < r.monotonicSeq

omit [Crypto] in
/-- The epoch moved past the parent's between its validation and the grant of the child. -/
def EpochRaised (parent : CapabilityToken) (reads : EpochReads) : Prop :=
  parent.constraints.epoch < reads.compared ∧ parent.constraints.epoch < reads.raised

/-! ## 2. The fields of a delegated token -/

section Fields

variable (m : CapabilityManager) (reads : EpochReads) (fresh : Issuance)
  (parent : CapabilityToken) (toCapsule : String) (resource : ResourceId)
  (expiry : Option SecureTimestamp)

/-- A delegated token is signed by the runtime that issued it. -/
theorem delegatedToken_verifies [LawfulCrypto] :
    (m.delegatedToken reads fresh parent toCapsule resource expiry).verifySignature
      m.verifyingKey = true := by
  rw [m.verifyingKey_eq]
  exact CapabilityToken.verifySignature_sign _ _

/-- The constraints of a delegated token: never delegatable, the parent's ceiling and limit, and
the parent's epoch unless the grant raised it. -/
theorem delegatedToken_constraints :
    (m.delegatedToken reads fresh parent toCapsule resource expiry).constraints =
      { epoch := if parent.constraints.epoch < reads.compared then reads.raised
          else parent.constraints.epoch
        delegatable := false
        maxClassification := parent.constraints.maxClassification
        maxUses := parent.constraints.maxUses } := by
  simp only [delegatedToken, grant, CapabilityToken.sign, CapabilityToken.new]
  split <;> rfl

end Fields

omit [Crypto] in
/-- The child's expiry passes no later than the parent's, but for a tie. -/
theorem effectiveExpiry_passed {parent requested : Option SecureTimestamp} {now : SecureTimestamp}
    (htie : ¬ ExpiryTie parent requested)
    (h : expiryPassed (effectiveExpiry parent requested) now = false) :
    expiryPassed parent now = false := by
  cases parent with
  | none => rfl
  | some p =>
    cases requested with
    | none => exact h
    | some r =>
      simp only [effectiveExpiry, expiryPassed] at h ⊢
      split at h
      · exact h
      · next hle =>
        have hseq : p.unixSecs = r.unixSecs → r.monotonicSeq ≤ p.monotonicSeq := by
          intro hsecs
          by_contra hlt
          exact htie ⟨p, r, rfl, rfl, hsecs, Nat.lt_of_not_le hlt⟩
        have hpr : p.isBefore r = false := by
          rw [← Bool.not_eq_true, SecureTimestamp.isBefore_iff]
          omega
        rw [← Bool.not_eq_true] at h ⊢
        intro hp
        apply h
        unfold SecureTimestamp.isExpired at hp ⊢
        rw [SecureTimestamp.isBefore_iff] at hp ⊢
        omega

omit [Crypto] in
/-- No timestamp is before itself, so nothing has expired at its own expiry. -/
theorem expiryPassed_self (expiry : Option SecureTimestamp) (default : SecureTimestamp) :
    expiryPassed expiry (expiry.getD default) = false := by
  cases expiry with
  | none => rfl
  | some e =>
    simp only [expiryPassed, Option.getD_some, SecureTimestamp.isExpired]
    rw [← Bool.not_eq_true, SecureTimestamp.isBefore_iff]
    omega

/-! ## 3. A delegate's delegate -/

/-- **A token that is not delegatable is never delegated.** -/
theorem delegate_ne_ok_of_not_delegatable {m : CapabilityManager} {token : CapabilityToken}
    (h : token.constraints.delegatable = false) (clock : ValidationClock) (reads : EpochReads)
    (fresh : Issuance) (caller toCapsule : String) (resource : ResourceId)
    (expiry : Option SecureTimestamp) (child : CapabilityToken) :
    (m.delegate clock reads fresh token caller toCapsule resource expiry).1 ≠ .ok child := by
  intro hok
  rcases hd : m.delegate clock reads fresh token caller toCapsule resource expiry with
    ⟨issued, m'⟩
  rw [hd] at hok
  dsimp only at hok
  subst hok
  have htrue := (delegate_ok hd).2.1
  rw [h] at htrue
  cases htrue

/-! ## 4. When delegation attenuates -/

section Delegation

variable {m m' : CapabilityManager} {clock : ValidationClock} {reads : EpochReads}
  {fresh : Issuance} {parent child : CapabilityToken} {callerCapsuleId toCapsule : String}
  {resource : ResourceId} {expiry : Option SecureTimestamp}

/-- **The sufficient direction**: without a tie and without a mass revocation in between, the
parent's five checks accept what the child is accepted for. -/
theorem attenuates_of_delegate (hcover : resource.matchesPattern parent.resource = true)
    (htie : ¬ ExpiryTie parent.expiry expiry) (hraised : ¬ EpochRaised parent reads) :
    Attenuates m parent (m'.delegatedToken reads fresh parent toCapsule resource expiry) := by
  intro store clock request hok
  have hchecks := TokenChecks.of_validate (Prod.ext hok rfl)
  have hconstraints := delegatedToken_constraints m' reads fresh parent toCapsule resource expiry
  have hcls := hchecks.classification
  have hepoch := hchecks.epoch
  rw [hconstraints] at hcls hepoch
  dsimp only at hcls hepoch
  refine
    { scope := ResourceId.matchesPattern_trans hcover hchecks.resource
      action := hchecks.action
      epoch := ?_
      expiry := effectiveExpiry_passed htie hchecks.notExpired
      classification := hcls }
  rw [CapabilityStore.isEpochValid_iff]
  unfold EpochRaised at hraised
  split at hepoch <;> omega

/-- **The child is accepted at its own expiry**, for its own resource, by a store that has not
moved past its epoch. -/
theorem delegatedToken_accepted [LawfulCrypto]
    (hchecks : m.TokenChecks clock parent (parentRequest parent callerCapsuleId))
    (huses : ∀ n, parent.constraints.maxUses = some n → 0 < n)
    (hkey : m'.signingKey = m.signingKey) {store : CapabilityStore} (hstore : store.useCounts = ∅)
    (hrevoked : store.revokedTokens = ∅)
    (hepoch : store.epoch ≤
      (m'.delegatedToken reads fresh parent toCapsule resource expiry).constraints.epoch) :
    ({ m with store }.validate
      ⟨fresh.issuedAt, (effectiveExpiry parent.expiry expiry).getD fresh.issuedAt⟩
      (m'.delegatedToken reads fresh parent toCapsule resource expiry)
      ⟨toCapsule, parent.action, resource, none⟩).1 = .ok () := by
  have hvk : m'.verifyingKey = m.verifyingKey := by
    rw [m.verifyingKey_eq, m'.verifyingKey_eq, hkey]
  have hconstraints := delegatedToken_constraints m' reads fresh parent toCapsule resource expiry
  have hsig := delegatedToken_verifies m' reads fresh parent toCapsule resource expiry
  apply validate_isOk
  · exact
      { version := rfl
        signature := hvk ▸ hsig
        issuer := hvk
        capsule := rfl
        action := rfl
        resource := ResourceId.matchesPattern_refl resource
        epoch := hepoch
        notRevoked := by
          simp [CapabilityStore.isTokenRevoked, hrevoked]
        notFuture := by
          have hle : fresh.issuedAt.isFuture fresh.issuedAt = false := by
            simp [SecureTimestamp.isFuture]
          exact hle
        notExpired := expiryPassed_self _ _
        classification := by
          rw [hconstraints]
          exact hchecks.classification }
  · intro n hn
    rw [hconstraints] at hn
    have hpos := huses n hn
    unfold CapabilityStore.getUseCount
    rw [hstore]
    exact hpos

/-- **Delegation attenuates exactly when** the requested expiry does not tie with the parent's
and the epoch has not moved past the parent's.  The matcher composes and the child is never
delegatable in every case. -/
theorem delegate_attenuates_iff [LawfulCrypto]
    (h : m.delegate clock reads fresh parent callerCapsuleId toCapsule resource expiry =
      (.ok child, m')) :
    (∀ outer inner requested : ResourceId, inner.matchesPattern outer = true →
        requested.matchesPattern inner = true → requested.matchesPattern outer = true) ∧
      (∀ (n : CapabilityManager) (clock : ValidationClock) (reads : EpochReads)
        (fresh : Issuance) (caller toCapsule : String) (resource : ResourceId)
        (expiry : Option SecureTimestamp) (grandchild : CapabilityToken),
        (n.delegate clock reads fresh child caller toCapsule resource expiry).1 ≠
          .ok grandchild) ∧
      (Attenuates m parent child ↔
        ¬ ExpiryTie parent.expiry expiry ∧ ¬ EpochRaised parent reads) := by
  obtain ⟨hvalid, -, hcover, rfl⟩ := delegate_ok h
  have hconstraints := delegatedToken_constraints m' reads fresh parent toCapsule resource expiry
  refine ⟨fun _ _ _ => ResourceId.matchesPattern_trans, ?_, ?_, ?_⟩
  · intro n clock reads fresh caller toCapsule resource expiry
    exact delegate_ne_ok_of_not_delegatable (by rw [hconstraints]) clock reads fresh caller
      toCapsule resource expiry
  · intro hatt
    have hchecks := TokenChecks.of_validate hvalid
    obtain ⟨hkey, huses⟩ : m'.signingKey = m.signingKey ∧
        ∀ n, parent.constraints.maxUses = some n → 0 < n := by
      rcases validate_cases hvalid with ⟨rfl, hfree⟩ | ⟨k, hk, rfl, hok⟩
      · exact ⟨rfl, fun n hn => by rw [hfree rfl] at hn; cases hn⟩
      · refine ⟨rfl, fun n hn => ?_⟩
        rw [hk, Option.some.injEq] at hn
        exact hn ▸ Nat.lt_of_le_of_lt (Nat.zero_le _) (hok.mp rfl)
    -- At its own expiry a fresh store of any epoch up to the child's accepts the child.
    have haccepted : ∀ epoch ≤ (m'.delegatedToken reads fresh parent toCapsule resource
          expiry).constraints.epoch,
        Covers parent ⟨epoch, ∅, ∅, false⟩
          ((effectiveExpiry parent.expiry expiry).getD fresh.issuedAt)
          ⟨toCapsule, parent.action, resource, none⟩ := fun epoch hle =>
      hatt _ _ _ (delegatedToken_accepted hchecks huses hkey rfl rfl hle)
    constructor
    · rintro ⟨p, r, hp, hr, hsecs, hseq⟩
      have hpassed := (haccepted 0 (Nat.zero_le _)).expiry
      rw [hp, hr] at hpassed
      simp only [effectiveExpiry, hsecs, Nat.lt_irrefl, if_false, Option.getD_some,
        expiryPassed, SecureTimestamp.isExpired] at hpassed
      rw [← Bool.not_eq_true, SecureTimestamp.isBefore_iff] at hpassed
      omega
    · rintro ⟨hcompared, hraised⟩
      have hvalidEpoch := (haccepted reads.raised (by
        rw [hconstraints]
        dsimp only
        rw [if_pos hcompared])).epoch
      rw [CapabilityStore.isEpochValid_iff] at hvalidEpoch
      exact Nat.not_lt_of_le hvalidEpoch hraised
  · rintro ⟨htie, hraised⟩
    exact attenuates_of_delegate hcover htie hraised

end Delegation

section Examples

/-- A runtime with no state, and a delegatable token that expires at second 2000. -/
def issuer : CapabilityManager := withKey (List.Vector.replicate 32 7) CapabilityStore.new

def expiringParent : CapabilityToken :=
  issuer.grant issuer.epochReads ⟨List.Vector.replicate 16 1, ⟨1000, 1⟩⟩ "reader"
    ⟨"localhost://docs/*"⟩ .read ⟨0, true, none, none⟩ (some ⟨2000, 3⟩)

/-- The delegate of `expiringParent` for one document with a requested expiry. -/
def expiringChild (expiry : SecureTimestamp) : CapabilityToken :=
  issuer.delegatedToken issuer.epochReads ⟨List.Vector.replicate 16 2, ⟨1000, 4⟩⟩ expiringParent
    "viewer" ⟨"localhost://docs/a"⟩ (some expiry)

/-- Delegating from `expiringParent` to `expiringChild`. -/
def delegateExpiring (expiry : SecureTimestamp) :
    Except ValidationError CapabilityToken × CapabilityManager :=
  issuer.delegate ⟨⟨1000, 5⟩, ⟨1000, 6⟩⟩ issuer.epochReads
    ⟨List.Vector.replicate 16 2, ⟨1000, 4⟩⟩ expiringParent "reader" "viewer"
    ⟨"localhost://docs/a"⟩ (some expiry)

omit [Crypto] in
/-- The delegation succeeds whatever expiry is requested. -/
theorem delegateExpiring_eq (expiry : SecureTimestamp) :
    letI := keyEchoCrypto
    delegateExpiring expiry = (.ok (expiringChild expiry), issuer) := rfl

omit [Crypto] in
/-- A child whose expiry is requested for the parent's second and a later sequence number is
accepted at a moment at which the parent has expired. -/
theorem expiringChild_outlives_parent :
    letI := keyEchoCrypto
    delegateExpiring ⟨2000, 9⟩ = (.ok (expiringChild ⟨2000, 9⟩), issuer) ∧
      ¬ Attenuates issuer expiringParent (expiringChild ⟨2000, 9⟩) := by
  let _ := keyEchoCrypto
  refine ⟨delegateExpiring_eq _, fun hatt => ?_⟩
  have hcovers := hatt CapabilityStore.new ⟨⟨2000, 4⟩, ⟨2000, 5⟩⟩
    ⟨"viewer", .read, ⟨"localhost://docs/a"⟩, none⟩ (by decide)
  exact absurd hcovers.expiry (by decide)

omit [Crypto] in
theorem expiringChild_attenuates :
    letI := keyEchoCrypto
    Attenuates issuer expiringParent (expiringChild ⟨1500, 9⟩) := by
  let _ := keyEchoCrypto
  have _ := keyEchoCrypto_lawful
  refine ((delegate_attenuates_iff (delegateExpiring_eq ⟨1500, 9⟩)).2.2).mpr ⟨?_, ?_⟩
  · rintro ⟨p, r, hp, hr, hsecs, -⟩
    cases hp
    cases hr
    exact absurd hsecs (by decide)
  · rintro ⟨hcompared, -⟩
    exact absurd hcompared (by decide)

end Examples

end ElastosRuntime.CapabilityManager
