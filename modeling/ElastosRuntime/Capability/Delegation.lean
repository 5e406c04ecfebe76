/-
# What a delegation spends, and what it needs

`delegate` validates the parent first, which spends one of its uses, and only then looks at whether
the parent may be delegated and covers the scope.  Validation by itself spends nothing on a request
that it refuses (`validate_error_useCount`), so a use is lost exactly when the refusal comes from
one of the later two checks (`RefusesAfterUse`).

The parent is validated against its own scope without a classification.  A parent that carries a
ceiling never passes that, so such a parent cannot be delegated, although its delegate would inherit
the ceiling (`delegate_succeeds_iff`).
-/
import ElastosRuntime.Capability.Attenuation

namespace ElastosRuntime.CapabilityManager

variable [Crypto]

/-! ## 1. What a refusal spends -/

/-- A refused request leaves every use count as it was: the last of the checks is the one that
counts. -/
theorem validate_error_useCount {m : CapabilityManager} {clock : ValidationClock}
    {token : CapabilityToken} {request : AccessRequest} {e : ValidationError}
    (h : (m.validate clock token request).1 = .error e) (id : TokenId) :
    (m.validate clock token request).2.store.getUseCount id = m.store.getUseCount id := by
  rcases hv : m.validate clock token request with ⟨result, m'⟩
  rw [hv] at h
  dsimp only at h
  subst h
  rcases validate_cases hv with ⟨rfl, -⟩ | ⟨n, -, rfl, hiff⟩
  · rfl
  · have hfull : ¬ m.store.getUseCount token.id < n := fun hlt => by cases hiff.mpr hlt
    rw [CapabilityStore.tryUseToken_getUseCount, if_neg fun hand => hfull hand.2, Nat.add_zero]

/-- An accepted use of a limited token counts once. -/
theorem validate_ok_useCount {m m' : CapabilityManager} {clock : ValidationClock}
    {token : CapabilityToken} {request : AccessRequest} {n : Nat}
    (hn : token.constraints.maxUses = some n)
    (h : m.validate clock token request = (.ok (), m')) :
    m'.store.getUseCount token.id = m.store.getUseCount token.id + 1 := by
  rcases validate_cases h with ⟨-, hfree⟩ | ⟨k, hk, rfl, hiff⟩
  · rw [hfree rfl] at hn
    cases hn
  · rw [CapabilityStore.tryUseToken_getUseCount, if_pos ⟨rfl, hiff.mp rfl⟩]

/-- A delegation that is refused only after the parent's validation has spent a use: the parent
passes its checks with a use left of a limit, and is not delegatable or does not cover the
resource. -/
structure RefusesAfterUse (m : CapabilityManager) (clock : ValidationClock)
    (parent : CapabilityToken) (callerCapsuleId : String) (resource : ResourceId) : Prop where
  checks : m.TokenChecks clock parent (parentRequest parent callerCapsuleId)
  limited : ∃ n, parent.constraints.maxUses = some n ∧ m.store.getUseCount parent.id < n
  refused : parent.constraints.delegatable = false ∨
    resource.matchesPattern parent.resource = false

section Delegation

variable (m : CapabilityManager) (clock : ValidationClock) (reads : EpochReads)
  (fresh : Issuance) (parent : CapabilityToken) (callerCapsuleId toCapsule : String)
  (resource : ResourceId) (expiry : Option SecureTimestamp)

/-- What `delegate` answers once the parent has been validated. -/
theorem delegate_fst_of_ok {m' : CapabilityManager}
    (h : m.validate clock parent (parentRequest parent callerCapsuleId) = (.ok (), m')) :
    (m.delegate clock reads fresh parent callerCapsuleId toCapsule resource expiry).1 =
      if parent.constraints.delegatable = false then .error .delegationNotAllowed
      else if resource.matchesPattern parent.resource = false then .error .delegationScopeWidened
      else .ok (m'.delegatedToken reads fresh parent toCapsule resource expiry) := by
  unfold delegate
  rw [h]
  cases hd : parent.constraints.delegatable with
  | false => rfl
  | true =>
    cases hr : resource.matchesPattern parent.resource with
    | false => rfl
    | true => rfl

/-- **What failed calls spend.**  A refused validation leaves the token's use count alone.  A
refused delegation leaves the parent's alone, unless it is refused after the parent's validation
has counted a use. -/
theorem failed_calls_spend_nothing_iff (token : CapabilityToken) (request : AccessRequest) :
    (∀ e, (m.validate clock token request).1 = .error e →
      (m.validate clock token request).2.store.getUseCount token.id =
        m.store.getUseCount token.id) ∧
    ((∀ e, (m.delegate clock reads fresh parent callerCapsuleId toCapsule resource expiry).1 =
        .error e →
      (m.delegate clock reads fresh parent callerCapsuleId toCapsule resource
          expiry).2.store.getUseCount parent.id = m.store.getUseCount parent.id) ↔
      ¬ RefusesAfterUse m clock parent callerCapsuleId resource) := by
  refine ⟨fun e he => validate_error_useCount he token.id, ?_, ?_⟩
  · rintro hkept ⟨hchecks, ⟨n, hn, hleft⟩, hrefused⟩
    have hok := validate_isOk hchecks fun k hk => by
      rw [hn, Option.some.injEq] at hk
      exact hk ▸ hleft
    have hvalid : m.validate clock parent (parentRequest parent callerCapsuleId) =
        (.ok (), (m.validate clock parent (parentRequest parent callerCapsuleId)).2) :=
      Prod.ext hok rfl
    have hanswer := delegate_fst_of_ok m clock reads fresh parent callerCapsuleId toCapsule
      resource expiry hvalid
    obtain ⟨e, he⟩ : ∃ e, (m.delegate clock reads fresh parent callerCapsuleId toCapsule resource
        expiry).1 = .error e := by
      rw [hanswer]
      rcases hrefused with hd | hr
      · exact ⟨_, if_pos hd⟩
      · by_cases hd : parent.constraints.delegatable = false
        · exact ⟨_, if_pos hd⟩
        · exact ⟨_, by rw [if_neg hd, if_pos hr]⟩
    have hsame := hkept e he
    rw [delegate_manager, validate_ok_useCount hn hvalid] at hsame
    omega
  · intro hnot e he
    rw [delegate_manager]
    rcases hv : m.validate clock parent (parentRequest parent callerCapsuleId) with ⟨result, m'⟩
    cases result with
    | error e' =>
      have hkept := validate_error_useCount (congrArg Prod.fst hv) parent.id
      rwa [hv] at hkept
    | ok u =>
      -- The refusal came later, so no use was counted: the parent has no limit.
      rw [delegate_fst_of_ok m clock reads fresh parent callerCapsuleId toCapsule resource expiry
        hv] at he
      have hrefused : parent.constraints.delegatable = false ∨
          resource.matchesPattern parent.resource = false := by
        by_contra hboth
        rw [not_or] at hboth
        rw [if_neg hboth.1, if_neg hboth.2] at he
        cases he
      rcases validate_cases hv with ⟨rfl, -⟩ | ⟨n, hn, rfl, hiff⟩
      · rfl
      · exact absurd ⟨TokenChecks.of_validate hv, ⟨n, hn, hiff.mp rfl⟩, hrefused⟩ hnot

end Delegation

section Refused

/-- A token for one use that may not be delegated. -/
def singleUse : CapabilityToken :=
  issuer.grant issuer.epochReads ⟨List.Vector.replicate 16 1, ⟨1000, 1⟩⟩ "reader"
    ⟨"localhost://docs/a"⟩ .read ⟨0, false, none, some 1⟩ none

/-- Its holder tries to delegate it. -/
def delegateSingleUse : Except ValidationError CapabilityToken × CapabilityManager :=
  issuer.delegate ⟨⟨1000, 5⟩, ⟨1000, 6⟩⟩ issuer.epochReads
    ⟨List.Vector.replicate 16 2, ⟨1000, 4⟩⟩ singleUse "reader" "viewer" ⟨"localhost://docs/a"⟩ none

omit [Crypto] in
/-- The delegation is refused, and the only use is gone: the holder is refused as well. -/
theorem refused_delegation_spends_use :
    letI := keyEchoCrypto
    delegateSingleUse.1 = .error .delegationNotAllowed ∧
      issuer.store.getUseCount singleUse.id = 0 ∧
      delegateSingleUse.2.store.getUseCount singleUse.id = 1 ∧
      (issuer.validate ⟨⟨1000, 5⟩, ⟨1000, 6⟩⟩ singleUse
        ⟨"reader", .read, ⟨"localhost://docs/a"⟩, none⟩).1 = .ok () ∧
      (delegateSingleUse.2.validate ⟨⟨1000, 5⟩, ⟨1000, 6⟩⟩ singleUse
        ⟨"reader", .read, ⟨"localhost://docs/a"⟩, none⟩).1 = .error (.useLimitExceeded 1 1) := by
  decide

end Refused

/-! ## 2. When a delegation succeeds -/

/-- A parent that is valid, delegatable and has uses left, and a scope within its own.  Nothing is
said of the parent's ceiling. -/
structure Delegable (m : CapabilityManager) (clock : ValidationClock) (parent : CapabilityToken)
    (callerCapsuleId : String) (resource : ResourceId) : Prop where
  version : parent.version = CapabilityToken.CURRENT_VERSION
  signature : parent.verifySignature m.verifyingKey = true
  issuer : parent.issuer = m.verifyingKey
  holder : parent.capsule = callerCapsuleId
  epoch : m.store.epoch ≤ parent.constraints.epoch
  notRevoked : m.store.isTokenRevoked parent.id = false
  notFuture : parent.issuedAt.isFuture clock.atFuture = false
  notExpired : expiryPassed parent.expiry clock.atExpiry = false
  delegatable : parent.constraints.delegatable = true
  usesLeft : ∀ n, parent.constraints.maxUses = some n → m.store.getUseCount parent.id < n
  subScope : resource.matchesPattern parent.resource = true

/-- The delegate is used with an identifier that was fresh, while neither expiry has passed. -/
structure Admissible (m : CapabilityManager) (later : ValidationClock) (fresh : Issuance)
    (parent : CapabilityToken) (expiry : Option SecureTimestamp) : Prop where
  unused : m.store.getUseCount fresh.id = 0
  unrevoked : m.store.isTokenRevoked fresh.id = false
  distinct : fresh.id ≠ parent.id
  notFuture : fresh.issuedAt.isFuture later.atFuture = false
  parentUnexpired : expiryPassed parent.expiry later.atExpiry = false
  unexpired : expiryPassed expiry later.atExpiry = false

omit [Crypto] in
/-- The expiry that is chosen is one of the two. -/
theorem expiryPassed_effectiveExpiry {parent requested : Option SecureTimestamp}
    {now : SecureTimestamp} (hparent : expiryPassed parent now = false)
    (hrequested : expiryPassed requested now = false) :
    expiryPassed (effectiveExpiry parent requested) now = false := by
  cases parent with
  | none => cases requested <;> assumption
  | some p =>
    cases requested with
    | none => exact hparent
    | some r =>
      simp only [effectiveExpiry]
      split
      · exact hparent
      · exact hrequested

omit [Crypto] in
/-- Without a ceiling any classification passes. -/
theorem checkClassification_none (classification : Option UInt8) :
    checkClassification none classification = .ok () := by
  cases classification <;> rfl

omit [Crypto] in
/-- With one, a resource without a classification never does. -/
theorem checkClassification_some_none (ceiling : UInt8) :
    checkClassification (some ceiling) none = .error (.classificationUnavailable ceiling) := rfl

section Completeness

variable {m : CapabilityManager} {clock later : ValidationClock} {fresh : Issuance}
  {parent : CapabilityToken} {callerCapsuleId : String} {resource : ResourceId}
  {expiry : Option SecureTimestamp}

/-- A delegable parent passes its own checks exactly without a ceiling. -/
theorem Delegable.checks_iff (h : Delegable m clock parent callerCapsuleId resource) :
    m.TokenChecks clock parent (parentRequest parent callerCapsuleId) ↔
      parent.constraints.maxClassification = none := by
  constructor
  · intro hchecks
    have hcls := hchecks.classification
    cases hmax : parent.constraints.maxClassification with
    | none => rfl
    | some ceiling =>
      rw [hmax] at hcls
      cases (checkClassification_some_none ceiling).symm.trans hcls
  · intro hmax
    exact
      { version := h.version
        signature := h.signature
        issuer := h.issuer
        capsule := h.holder
        action := rfl
        resource := ResourceId.matchesPattern_refl parent.resource
        epoch := h.epoch
        notRevoked := h.notRevoked
        notFuture := h.notFuture
        notExpired := h.notExpired
        classification := by rw [hmax]; exact checkClassification_none _ }

/-- Validation changes no key, no epoch and no revocation, and counts only for its own token. -/
theorem validate_frame {m' : CapabilityManager} {token : CapabilityToken} {request : AccessRequest}
    {result : Except ValidationError Unit} (h : m.validate clock token request = (result, m')) :
    m'.signingKey = m.signingKey ∧ m'.store.epoch = m.store.epoch ∧
      (∀ id, m'.store.isTokenRevoked id = m.store.isTokenRevoked id) ∧
      ∀ id, id ≠ token.id → m'.store.getUseCount id = m.store.getUseCount id := by
  rcases validate_cases h with ⟨rfl, -⟩ | ⟨n, -, rfl, -⟩
  · exact ⟨rfl, rfl, fun _ => rfl, fun _ _ => rfl⟩
  · refine ⟨rfl, CapabilityStore.tryUseToken_epoch _ _ _, fun id => ?_, fun id hid => ?_⟩
    · unfold CapabilityStore.tryUseToken
      dsimp only
      split <;> rfl
    · rw [CapabilityStore.tryUseToken_getUseCount, if_neg fun hand => hid hand.1, Nat.add_zero]

/-- The delegate of a delegable parent is accepted at its scope. -/
theorem Delegable.delegatedToken_validates [LawfulCrypto]
    (h : Delegable m clock parent callerCapsuleId resource)
    (ha : Admissible m later fresh parent expiry) {m' : CapabilityManager}
    (hv : m.validate clock parent (parentRequest parent callerCapsuleId) = (.ok (), m'))
    (toCapsule : String) {classification : Option UInt8}
    (hcls : checkClassification parent.constraints.maxClassification classification = .ok ()) :
    (m'.validate later
      (m'.delegatedToken m.epochReads fresh parent toCapsule resource expiry)
      ⟨toCapsule, parent.action, resource, classification⟩).1 = .ok () := by
  obtain ⟨-, hepoch, hrevoked, hcount⟩ := validate_frame hv
  have hconstraints :=
    delegatedToken_constraints m' m.epochReads fresh parent toCapsule resource expiry
  have hkept : ¬ parent.constraints.epoch < m.epochReads.compared := Nat.not_lt_of_le h.epoch
  rw [if_neg hkept] at hconstraints
  apply validate_isOk
  · exact
      { version := rfl
        signature := delegatedToken_verifies m' m.epochReads fresh parent toCapsule resource expiry
        issuer := rfl
        capsule := rfl
        action := rfl
        resource := ResourceId.matchesPattern_refl resource
        epoch := by
          rw [hconstraints, hepoch]
          exact h.epoch
        notRevoked := (hrevoked fresh.id).trans ha.unrevoked
        notFuture := ha.notFuture
        notExpired := expiryPassed_effectiveExpiry ha.parentUnexpired ha.unexpired
        classification := by
          rw [hconstraints]
          exact hcls }
  · intro n hn
    rw [hconstraints] at hn
    have hleft := h.usesLeft n hn
    have hzero : m'.store.getUseCount fresh.id = 0 := (hcount fresh.id ha.distinct).trans ha.unused
    exact hzero ▸ Nat.lt_of_le_of_lt (Nat.zero_le _) hleft

/-- **A delegation that should succeed does so exactly without a ceiling**: for a valid delegatable
parent with uses left and any scope within its own, `delegate` yields a token that is accepted for
the delegate at that scope, under any classification that the parent's ceiling admits, if and only
if the parent has no ceiling. -/
theorem delegate_succeeds_iff [LawfulCrypto]
    (h : Delegable m clock parent callerCapsuleId resource)
    (ha : Admissible m later fresh parent expiry) (toCapsule : String) :
    (∃ child m', m.delegate clock m.epochReads fresh parent callerCapsuleId toCapsule resource
          expiry = (.ok child, m') ∧
        ∀ classification,
          checkClassification parent.constraints.maxClassification classification = .ok () →
          (m'.validate later child ⟨toCapsule, parent.action, resource, classification⟩).1 =
            .ok ()) ↔
      parent.constraints.maxClassification = none := by
  constructor
  · rintro ⟨child, m', hd, -⟩
    exact h.checks_iff.mp (TokenChecks.of_validate (delegate_ok hd).1)
  · intro hmax
    have hvalid : m.validate clock parent (parentRequest parent callerCapsuleId) =
        (.ok (), (m.validate clock parent (parentRequest parent callerCapsuleId)).2) :=
      Prod.ext (validate_isOk (h.checks_iff.mpr hmax) h.usesLeft) rfl
    have hanswer := delegate_fst_of_ok m clock m.epochReads fresh parent callerCapsuleId toCapsule
      resource expiry hvalid
    rw [if_neg (by rw [h.delegatable]; decide), if_neg (by rw [h.subScope]; decide)] at hanswer
    refine ⟨_, _, Prod.ext hanswer (delegate_manager ..), fun classification hcls => ?_⟩
    exact h.delegatedToken_validates ha hvalid toCapsule hcls

end Completeness

section Ceiling

/-- A delegatable token for a directory, with or without a ceiling. -/
def classified (ceiling : Option UInt8) : CapabilityToken :=
  issuer.grant issuer.epochReads ⟨List.Vector.replicate 16 1, ⟨1000, 1⟩⟩ "reader"
    ⟨"localhost://docs/*"⟩ .read ⟨0, true, ceiling, none⟩ none

omit [Crypto] in
theorem classified_delegable (ceiling : Option UInt8) :
    letI := keyEchoCrypto
    Delegable issuer ⟨⟨1000, 5⟩, ⟨1000, 6⟩⟩ (classified ceiling) "reader"
      ⟨"localhost://docs/a"⟩ :=
  letI := keyEchoCrypto
  { version := rfl
    signature := rfl
    issuer := rfl
    holder := rfl
    epoch := Nat.le_refl _
    notRevoked := rfl
    notFuture := rfl
    notExpired := rfl
    delegatable := rfl
    usesLeft := fun n hn => by cases hn
    subScope := show ResourceId.matchesPattern ⟨"localhost://docs/a"⟩ ⟨"localhost://docs/*"⟩ = true
      by decide }

omit [Crypto] in
theorem classified_admissible (ceiling : Option UInt8) :
    letI := keyEchoCrypto
    Admissible issuer ⟨⟨1000, 7⟩, ⟨1000, 8⟩⟩ ⟨List.Vector.replicate 16 2, ⟨1000, 4⟩⟩
      (classified ceiling) none :=
  letI := keyEchoCrypto
  { unused := rfl
    unrevoked := rfl
    distinct := show List.Vector.replicate 16 2 ≠ List.Vector.replicate 16 1 by decide
    notFuture := rfl
    parentUnexpired := rfl
    unexpired := rfl }

omit [Crypto] in
/-- With a ceiling of 2 the delegation is refused, although the parent is delegable and its holder
may read what is classified as 1. -/
theorem ceiling_blocks_delegation :
    letI := keyEchoCrypto
    Delegable issuer ⟨⟨1000, 5⟩, ⟨1000, 6⟩⟩ (classified (some 2)) "reader"
        ⟨"localhost://docs/a"⟩ ∧
      (issuer.delegate ⟨⟨1000, 5⟩, ⟨1000, 6⟩⟩ issuer.epochReads
        ⟨List.Vector.replicate 16 2, ⟨1000, 4⟩⟩ (classified (some 2)) "reader" "viewer"
        ⟨"localhost://docs/a"⟩ none).1 = .error (.classificationUnavailable 2) ∧
      (issuer.validate ⟨⟨1000, 5⟩, ⟨1000, 6⟩⟩ (classified (some 2))
        ⟨"reader", .read, ⟨"localhost://docs/a"⟩, some 1⟩).1 = .ok () :=
  ⟨classified_delegable (some 2), by decide, by decide⟩

omit [Crypto] in
theorem unclassified_delegation_succeeds :
    letI := keyEchoCrypto
    ∃ child m', issuer.delegate ⟨⟨1000, 5⟩, ⟨1000, 6⟩⟩ issuer.epochReads
          ⟨List.Vector.replicate 16 2, ⟨1000, 4⟩⟩ (classified none) "reader" "viewer"
          ⟨"localhost://docs/a"⟩ none = (.ok child, m') ∧
      (m'.validate ⟨⟨1000, 7⟩, ⟨1000, 8⟩⟩ child
        ⟨"viewer", .read, ⟨"localhost://docs/a"⟩, none⟩).1 = .ok () := by
  let _ := keyEchoCrypto
  have _ := keyEchoCrypto_lawful
  obtain ⟨child, m', hd, haccepted⟩ := (delegate_succeeds_iff (classified_delegable none)
    (classified_admissible none) "viewer").mpr rfl
  exact ⟨child, m', hd, haccepted none rfl⟩

end Ceiling

end ElastosRuntime.CapabilityManager
