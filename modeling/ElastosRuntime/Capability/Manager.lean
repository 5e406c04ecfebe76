/-
# The capability manager

Granting, validating, delegating and revoking tokens (`manager.rs`).  `validate_recurring` is the
gate of every resource access: eleven checks that read the token, the request, the store and
the clock, and a twelfth that spends a use.  The eleven are `checkToken`, and `TokenChecks`
says what a token that passes them satisfies.

Three things the code reads from outside are arguments: what `SecureTimestamp::now()` returned
where validation reads the clock (`ValidationClock`), what the two loads of the epoch counter in
`grant` returned (`EpochReads`, equal to the store's epoch unless a mass revocation runs
alongside), and the identifier and time stamped on a new token (`Issuance`).  The audit log and
the metrics are left out: nothing the manager decides depends on them.
-/
import ElastosRuntime.Capability.Store

namespace ElastosRuntime

/-- Why a token was refused. -/
inductive ValidationError where
  | invalidSignature
  | untrustedIssuer
  | wrongCapsule (expected got : String)
  | wrongAction (expected got : Action)
  | wrongResource (expected got : String)
  | tokenRevoked
  | tokenExpired
  | futureDatedToken
  | useLimitExceeded (current max : Nat)
  | classificationUnavailable (token : UInt8)
  | classificationExceeded (token resource : UInt8)
  | invalidVersion (expected got : UInt8)
  | delegationNotAllowed
  | delegationScopeWidened
deriving DecidableEq

/-- What `now()` returned in the future-dating check and in the expiry check. -/
structure ValidationClock where
  atFuture : SecureTimestamp
  atExpiry : SecureTimestamp

/-- What the two loads of the epoch counter in `grant` returned: the one compared against, and
the one taken over. -/
structure EpochReads where
  compared : Nat
  raised : Nat

/-- The identifier and the time stamped on a new token. -/
structure Issuance where
  id : TokenId
  issuedAt : SecureTimestamp

/-- What a caller asks a token to authorize. -/
structure AccessRequest where
  callerCapsuleId : String
  action : Action
  resource : ResourceId
  classification : Option UInt8

variable [Crypto]

/-- The authority for capability operations: the runtime's key pair and the token state. -/
structure CapabilityManager where
  signingKey : Bytes 32
  verifyingKey : Bytes 32
  store : CapabilityStore
  verifyingKey_eq : verifyingKey = Crypto.verifyingKey signingKey

namespace CapabilityManager

/-! ## 1. Construction -/

/-- A manager over an existing signing key. -/
def withKey (signingKey : Bytes 32) (store : CapabilityStore) : CapabilityManager :=
  ⟨signingKey, Crypto.verifyingKey signingKey, store, rfl⟩

/-- What the file system answers while the signing key is loaded, and the key a fresh generation
draws. -/
structure KeyIo where
  inspectOk : Bool
  readOk : Bool
  persistOk : Bool
  fresh : Bytes 32

/-- A signing key is exactly 32 raw bytes. -/
def parseSigningKey (bytes : List UInt8) : Option (Bytes 32) :=
  if h : bytes.length = 32 then some ⟨bytes, h⟩ else none

/-- The signing key from the data directory, or a fresh one: persisted when nothing stood at its
path, and ephemeral when what stands there cannot be used. -/
def loadSigningKey (dir : DataDir) (io : KeyIo) : Bytes 32 × DataDir :=
  if !io.inspectOk then (io.fresh, dir)
  else match dir.signingKey with
    | some .symlink => (io.fresh, dir)
    | some .notRegular => (io.fresh, dir)
    | some (.file bytes) =>
      match (if io.readOk then parseSigningKey bytes else none) with
      | some key => (key, dir)
      | none => (io.fresh, dir)
    | none =>
      if io.persistOk then
        (io.fresh, { dir with signingKey := some (.file io.fresh.toList) })
      else (io.fresh, dir)

/-- The manager over a data directory and a store. -/
def loadOrGenerate (dir : DataDir) (io : KeyIo) (store : CapabilityStore) :
    CapabilityManager × DataDir :=
  let (signingKey, dir) := loadSigningKey dir io
  (withKey signingKey store, dir)

/-! ## 2. Granting and validating -/

/-- What the two loads of the epoch return when nothing runs alongside. -/
def epochReads (m : CapabilityManager) : EpochReads := ⟨m.store.currentEpoch, m.store.currentEpoch⟩

/-- Grant a new token: its epoch is raised to the current one. -/
def grant (m : CapabilityManager) (reads : EpochReads) (fresh : Issuance)
    (capsuleId : String) (resource : ResourceId) (action : Action)
    (constraints : TokenConstraints) (expiry : Option SecureTimestamp) : CapabilityToken :=
  let constraints :=
    if constraints.epoch < reads.compared then
      { constraints with epoch := reads.raised }
    else constraints
  (CapabilityToken.new fresh.id capsuleId m.verifyingKey resource action constraints
    fresh.issuedAt expiry).sign m.signingKey

/-- A token that carries a classification ceiling is only evaluated against an explicitly
classified resource. -/
def checkClassification (maxClassification classification : Option UInt8) :
    Except ValidationError Unit :=
  match maxClassification, classification with
  | some tokenMax, some resourceClass =>
    if tokenMax < resourceClass then .error (.classificationExceeded tokenMax resourceClass)
    else .ok ()
  | some tokenMax, none => .error (.classificationUnavailable tokenMax)
  | none, _ => .ok ()

/-- Whether an optional expiry has passed at a clock reading. -/
def expiryPassed (expiry : Option SecureTimestamp) (now : SecureTimestamp) : Bool :=
  match expiry with
  | some expiry => expiry.isExpired now
  | none => false

/-- The first eleven validation checks, which change nothing. -/
def checkToken (m : CapabilityManager) (clock : ValidationClock)
    (token : CapabilityToken) (request : AccessRequest) : Except ValidationError Unit :=
  if token.version ≠ CapabilityToken.CURRENT_VERSION then
    .error (.invalidVersion CapabilityToken.CURRENT_VERSION token.version)
  else if !token.verifySignature m.verifyingKey then .error .invalidSignature
  else if token.issuer ≠ m.verifyingKey then .error .untrustedIssuer
  else if token.capsule ≠ request.callerCapsuleId then
    .error (.wrongCapsule token.capsule request.callerCapsuleId)
  else if token.action ≠ request.action then .error (.wrongAction token.action request.action)
  else if !request.resource.matchesPattern token.resource then
    .error (.wrongResource token.resource.str request.resource.str)
  else if !m.store.isEpochValid token.constraints.epoch then .error .tokenRevoked
  else if m.store.isTokenRevoked token.id then .error .tokenRevoked
  else if token.issuedAt.isFuture clock.atFuture then .error .futureDatedToken
  else if expiryPassed token.expiry clock.atExpiry then .error .tokenExpired
  else checkClassification token.constraints.maxClassification request.classification

/-- Validate a token for a request: the eleven checks, and then, for a use-limited token, a use
is spent. -/
def validateRecurring (m : CapabilityManager) (clock : ValidationClock)
    (token : CapabilityToken) (request : AccessRequest) :
    Except ValidationError Unit × CapabilityManager :=
  match m.checkToken clock token request with
  | .error e => (.error e, m)
  | .ok () =>
    match token.constraints.maxUses with
    | none => (.ok (), m)
    | some maxUses =>
      match m.store.tryUseToken token.id maxUses with
      | (.error current, store) => (.error (.useLimitExceeded current maxUses), { m with store })
      | (.ok _, store) => (.ok (), { m with store })

/-- `validate` is `validate_recurring` with its successes audited. -/
def validate (m : CapabilityManager) (clock : ValidationClock)
    (token : CapabilityToken) (request : AccessRequest) :
    Except ValidationError Unit × CapabilityManager :=
  m.validateRecurring clock token request

/-! ## 3. Delegating and revoking -/

/-- The earlier of the parent's expiry and the requested one, by wall-clock second; the
requested one on a tie. -/
def effectiveExpiry (parent requested : Option SecureTimestamp) : Option SecureTimestamp :=
  match parent, requested with
  | some p, some r => some (if p.unixSecs < r.unixSecs then p else r)
  | some p, none => some p
  | none, some r => some r
  | none, none => none

/-- The request `delegate` validates its parent token against. -/
def parentRequest (parent : CapabilityToken) (callerCapsuleId : String) : AccessRequest :=
  ⟨callerCapsuleId, parent.action, parent.resource, none⟩

/-- Issue a narrower, non-delegatable token on behalf of a parent. -/
def delegate (m : CapabilityManager) (clock : ValidationClock) (reads : EpochReads)
    (fresh : Issuance) (parent : CapabilityToken) (callerCapsuleId toCapsule : String)
    (resource : ResourceId) (expiry : Option SecureTimestamp) :
    Except ValidationError CapabilityToken × CapabilityManager :=
  match m.validate clock parent (parentRequest parent callerCapsuleId) with
  | (.error e, m) => (.error e, m)
  | (.ok (), m) =>
    if !parent.constraints.delegatable then (.error .delegationNotAllowed, m)
    else if !resource.matchesPattern parent.resource then (.error .delegationScopeWidened, m)
    else
      let constraints : TokenConstraints :=
        { delegatable := false
          epoch := parent.constraints.epoch
          maxClassification := parent.constraints.maxClassification
          maxUses := parent.constraints.maxUses }
      (.ok (m.grant reads fresh toCapsule resource parent.action constraints
        (effectiveExpiry parent.expiry expiry)), m)

/-- Revoke one token. -/
def revoke (m : CapabilityManager) (dir : DataDir) (id : TokenId) (ioOk : Bool) :
    CapabilityManager × DataDir :=
  let (store, dir) := m.store.revokeToken dir id ioOk
  ({ m with store }, dir)

/-- Revoke all tokens by advancing the epoch. -/
def revokeAll (m : CapabilityManager) (dir : DataDir) (write : DataDir.WriteOutcome)
    (renameOk : Bool) : Nat × CapabilityManager × DataDir :=
  let (newEpoch, store, dir) := m.store.advanceEpoch dir write renameOk
  (newEpoch, { m with store }, dir)

/-! ## 4. What a successful validation establishes -/

omit [Crypto] in
/-- A failing check cuts a chain of checks short. -/
theorem ite_error_eq_ok {ε α : Type} {c : Prop} [Decidable c] {e : ε} {x : Except ε α} {a : α} :
    (if c then .error e else x) = .ok a ↔ ¬ c ∧ x = .ok a := by
  split
  · next hc => simp [hc]
  · next hc => simp [hc]

/-- What the first eleven checks require of a token and a request. -/
structure TokenChecks (m : CapabilityManager) (clock : ValidationClock)
    (token : CapabilityToken) (request : AccessRequest) : Prop where
  version : token.version = CapabilityToken.CURRENT_VERSION
  signature : token.verifySignature m.verifyingKey = true
  issuer : token.issuer = m.verifyingKey
  capsule : token.capsule = request.callerCapsuleId
  action : token.action = request.action
  resource : request.resource.matchesPattern token.resource = true
  epoch : m.store.epoch ≤ token.constraints.epoch
  notRevoked : m.store.isTokenRevoked token.id = false
  notFuture : token.issuedAt.isFuture clock.atFuture = false
  notExpired : expiryPassed token.expiry clock.atExpiry = false
  classification :
    checkClassification token.constraints.maxClassification request.classification = .ok ()

variable {m m' : CapabilityManager} {clock : ValidationClock} {token : CapabilityToken} {request :
  AccessRequest}

/-- **The checks pass exactly on the tokens that satisfy all eleven conditions.** -/
theorem checkToken_eq_ok :
    m.checkToken clock token request = .ok () ↔ m.TokenChecks clock token request := by
  simp only [checkToken, ite_error_eq_ok, Decidable.not_not, Bool.not_eq_true',
    Bool.not_eq_false, Bool.not_eq_true, CapabilityStore.isEpochValid_iff]
  constructor
  · rintro ⟨hver, hsig, hiss, hcap, hact, hres, hep, hrev, hfut, hexp, hcls⟩
    exact ⟨hver, hsig, hiss, hcap, hact, hres, hep, hrev, hfut, hexp, hcls⟩
  · rintro ⟨hver, hsig, hiss, hcap, hact, hres, hep, hrev, hfut, hexp, hcls⟩
    exact ⟨hver, hsig, hiss, hcap, hact, hres, hep, hrev, hfut, hexp, hcls⟩

/-- Validation fails once one of the eleven conditions does. -/
theorem TokenChecks.of_validate (h : m.validate clock token request = (.ok (), m')) :
    m.TokenChecks clock token request := by
  unfold validate validateRecurring at h
  cases hc : m.checkToken clock token request with
  | error e => rw [hc] at h; cases h
  | ok u => exact checkToken_eq_ok.mp hc

/-- A token that passes the checks and has a use left, or no limit, is accepted. -/
theorem validate_isOk (hc : m.TokenChecks clock token request)
    (hu : ∀ n, token.constraints.maxUses = some n → m.store.getUseCount token.id < n) :
    (m.validate clock token request).1 = .ok () := by
  unfold validate validateRecurring
  rw [checkToken_eq_ok.mpr hc]
  cases hm : token.constraints.maxUses with
  | none => rfl
  | some n =>
    have hok := CapabilityStore.tryUseToken_of_lt (hu n hm)
    revert hok
    dsimp only
    rcases m.store.tryUseToken token.id n with ⟨result, store⟩
    rintro rfl
    rfl

/-- **What validation does to the manager**: a use-limited token that passes the eleven checks
runs the use counter, and nothing else happens. -/
theorem validate_cases {result : Except ValidationError Unit}
    (h : m.validate clock token request = (result, m')) :
    (m' = m ∧ (result = .ok () → token.constraints.maxUses = none)) ∨
    ∃ n, token.constraints.maxUses = some n ∧
      m' = { m with store := (m.store.tryUseToken token.id n).2 } ∧
      (result = .ok () ↔ m.store.getUseCount token.id < n) := by
  unfold validate validateRecurring at h
  cases hc : m.checkToken clock token request with
  | error e =>
    rw [hc] at h
    cases h
    exact Or.inl ⟨rfl, nofun⟩
  | ok u =>
    rw [hc] at h
    cases hm : token.constraints.maxUses with
    | none =>
      rw [hm] at h
      cases h
      exact Or.inl ⟨rfl, fun _ => rfl⟩
    | some n =>
      rw [hm] at h
      refine Or.inr ⟨n, rfl, ?_⟩
      rcases hu : m.store.tryUseToken token.id n with ⟨used, store⟩
      dsimp only at h
      rw [hu] at h
      cases used with
      | error current =>
        cases h
        refine ⟨rfl, nofun, fun hlt => ?_⟩
        have hok := CapabilityStore.tryUseToken_of_lt hlt
        rw [hu] at hok
        cases hok
      | ok count =>
        cases h
        exact ⟨rfl, fun _ => CapabilityStore.tryUseToken_isOk (by rw [hu]), fun _ => rfl⟩

/-- Validation leaves the epoch and the storage path of the store alone. -/
theorem validate_epoch (m : CapabilityManager) (clock : ValidationClock)
    (token : CapabilityToken) (request : AccessRequest) :
    (m.validate clock token request).2.store.epoch = m.store.epoch ∧
      (m.validate clock token request).2.store.persistent = m.store.persistent := by
  rcases hv : m.validate clock token request with ⟨result, m'⟩
  rcases validate_cases hv with ⟨rfl, -⟩ | ⟨n, -, rfl, -⟩
  · exact ⟨rfl, rfl⟩
  · exact ⟨CapabilityStore.tryUseToken_epoch _ _ _, CapabilityStore.tryUseToken_persistent _ _ _⟩

/-- **A token below the epoch is refused.** -/
theorem validate_ne_ok_of_epoch_lt (h : token.constraints.epoch < m.store.epoch)
    (clock : ValidationClock)
    (request : AccessRequest) : (m.validate clock token request).1 ≠ .ok () := by
  intro hok
  have hchecks := TokenChecks.of_validate (Prod.ext hok rfl)
  exact Nat.not_le_of_lt h hchecks.epoch

/-- The manager a delegation leaves is the one its validation of the parent leaves. -/
theorem delegate_manager (m : CapabilityManager) (clock : ValidationClock)
    (reads : EpochReads) (fresh : Issuance) (parent : CapabilityToken)
    (callerCapsuleId toCapsule : String) (resource : ResourceId)
    (expiry : Option SecureTimestamp) :
    (m.delegate clock reads fresh parent callerCapsuleId toCapsule resource expiry).2 =
      (m.validate clock parent (parentRequest parent callerCapsuleId)).2 := by
  unfold delegate
  rcases m.validate clock parent (parentRequest parent callerCapsuleId) with ⟨_ | _, m'⟩
  · rfl
  · dsimp only
    split
    · rfl
    · split <;> rfl

/-- The token a delegation issues. -/
def delegatedToken (m : CapabilityManager) (reads : EpochReads) (fresh : Issuance)
    (parent : CapabilityToken) (toCapsule : String) (resource : ResourceId)
    (expiry : Option SecureTimestamp) : CapabilityToken :=
  m.grant reads fresh toCapsule resource parent.action
    { delegatable := false
      epoch := parent.constraints.epoch
      maxClassification := parent.constraints.maxClassification
      maxUses := parent.constraints.maxUses }
    (effectiveExpiry parent.expiry expiry)

/-- **What a successful delegation establishes**: the parent was validated, is delegatable and
covers the resource, and the child is the token granted on its behalf. -/
theorem delegate_ok {reads : EpochReads} {fresh : Issuance} {parent child : CapabilityToken}
    {callerCapsuleId toCapsule : String} {resource : ResourceId} {expiry : Option SecureTimestamp}
    (h : m.delegate clock reads fresh parent callerCapsuleId toCapsule resource expiry = (.ok
      child, m')) :
    m.validate clock parent (parentRequest parent callerCapsuleId) = (.ok (), m') ∧
      parent.constraints.delegatable = true ∧ resource.matchesPattern parent.resource = true ∧
      child = m'.delegatedToken reads fresh parent toCapsule resource expiry := by
  unfold delegate at h
  rcases hv : m.validate clock parent (parentRequest parent callerCapsuleId) with ⟨_ | _, mv⟩
  · rw [hv] at h
    cases h
  · rw [hv] at h
    dsimp only at h
    cases hd : parent.constraints.delegatable with
    | false => rw [hd] at h; cases h
    | true =>
      cases hr : resource.matchesPattern parent.resource with
      | false => rw [hd, hr] at h; cases h
      | true =>
        rw [hd, hr] at h
        cases h
        exact ⟨rfl, rfl, rfl, rfl⟩

end CapabilityManager

end ElastosRuntime
