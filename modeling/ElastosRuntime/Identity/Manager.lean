/-
# The identity manager

`webauthn.rs`: a manager hands out challenges under ceremony tokens and redeems them.  There are
three classes of challenges, each with its own limit; expired ones are dropped when the next one is
asked for.  A challenge is gone once an attempt to redeem it has begun.
-/
import ElastosRuntime.Identity.WebAuthn

namespace ElastosRuntime.Identity

open Text

/-! ## 1. Challenges -/

/-- Challenge expiry, in nanoseconds. -/
def CHALLENGE_EXPIRY : Nat := 300 * 1000000000
def MAX_REGISTRATION_CHALLENGES : Nat := 8
def MAX_GUIDED_REGISTRATION_CHALLENGES : Nat := 8
def MAX_AUTHENTICATION_CHALLENGES : Nat := 64

inductive ChallengeType where
  | registration (rpId rpOrigin : String)
  | authentication
deriving DecidableEq

structure PendingChallenge where
  challenge : Bytes 32
  registrationBinding : Option (Bytes 32)
  challengeType : ChallengeType
  created : Nat
deriving DecidableEq

/-- The three classes of challenges. -/
inductive CeremonyKind where
  | unguided
  | guided
  | authentication
deriving DecidableEq

def CeremonyKind.capacity : CeremonyKind → Nat
  | unguided => MAX_REGISTRATION_CHALLENGES
  | guided => MAX_GUIDED_REGISTRATION_CHALLENGES
  | authentication => MAX_AUTHENTICATION_CHALLENGES

def PendingChallenge.kind (pending : PendingChallenge) : CeremonyKind :=
  match pending.challengeType with
  | .authentication => .authentication
  | .registration _ _ => if pending.registrationBinding.isSome then .guided else .unguided

def PendingChallenge.elapsed (pending : PendingChallenge) (now : Nat) : Nat := now - pending.created

structure IdentityManager where
  store : IdentityStore
  challenges : Table String PendingChallenge
  allowClone : Bool

/-- The clock readings of a call, what it draws, and its access to the files.  The second reading is
the time of creation of a challenge. -/
structure Environment where
  now : Nat
  created : Nat
  challenge : Bytes 32
  userId : Bytes 16
  access : Access

/-! ## 2. What is sent to the browser -/

structure CreationOptions where
  rpName : String
  rpId : String
  userId : String
  userName : String
  userDisplayName : String
  challenge : String
  pubKeyCredParams : List (String × Int)
  timeout : Nat
  authenticatorAttachment : Option String
  residentKey : String
  requireResidentKey : Bool
  userVerification : String
  attestation : String
  excludeCredentials : List (String × String)

structure RequestOptions where
  challenge : String
  timeout : Nat
  rpId : String
  allowCredentials : List (String × String)
  userVerification : String

structure RegistrationOutcome where
  userId : String
  credential : StoredCredential
  origin : String
  userVerified : Bool

structure AuthenticationOutcome where
  userId : String
  credential : StoredCredential
  origin : String
  userVerified : Bool

/-- What a call answers, and the manager and the directory it leaves behind. -/
structure Answer (α : Type) where
  result : IdentityResult α
  manager : IdentityManager
  disk : Disk

namespace IdentityManager

/-! ## 3. Handing out challenges -/

def cleanupExpired (manager : IdentityManager) (now : Nat) : IdentityManager :=
  { manager with
    challenges := manager.challenges.retain fun _ c => c.elapsed now < CHALLENGE_EXPIRY }

def admitChallenge (manager : IdentityManager) (now : Nat) (ceremony rpId : String)
    (origin : Option String) : IdentityResult Unit × IdentityManager :=
  let manager := manager.cleanupExpired now
  if ceremony.isEmpty ∨ 128 < byteLength ceremony ∨ rpId.isEmpty ∨ 253 < byteLength rpId ∨
      (origin.any fun origin => origin.isEmpty || 512 < byteLength origin) then
    (.error (.message "invalid WebAuthn ceremony input"), manager)
  else if (manager.challenges.lookup ceremony).isSome then
    (.error (.message "WebAuthn ceremony is already pending"), manager)
  else (.ok (), manager)

/-- How many challenges of a class are pending. -/
def pendingCount (manager : IdentityManager) (kind : CeremonyKind) : Nat :=
  manager.challenges.countVals fun pending => pending.kind = kind

def insertChallenge (manager : IdentityManager) (ceremony : String) (pending : PendingChallenge) :
    IdentityManager :=
  { manager with challenges := manager.challenges.insert ceremony pending }

def withoutChallenge (manager : IdentityManager) (ceremony : String) : IdentityManager :=
  { manager with challenges := manager.challenges.erase ceremony }

section

variable [WebAuthnCrates]

def beginRegistrationInner (manager : IdentityManager) (env : Environment)
    (sessionToken rpId rpOrigin displayName : String) (excludeExisting : Bool)
    (registrationBinding : Option (Bytes 32)) : IdentityResult CreationOptions × IdentityManager :=
  match manager.admitChallenge env.now sessionToken rpId (some rpOrigin) with
  | (.error e, manager) => (.error e, manager)
  | (.ok (), manager) =>
    let kind := if registrationBinding.isSome then CeremonyKind.guided else .unguided
    if kind.capacity ≤ manager.pendingCount kind then (.error .ceremonyCapacityExceeded, manager)
    else
      let exclude :=
        if excludeExisting then
          manager.store.getCredentials.map fun c => ("public-key", c.credentialId)
        else []
      (.ok
        { rpName := "ElastOS"
          rpId
          userId := WebAuthnCrates.base64Encode env.userId.toList
          userName := "elastos-user"
          userDisplayName := displayName
          challenge := WebAuthnCrates.base64Encode env.challenge.toList
          pubKeyCredParams := [("public-key", -7), ("public-key", -257)]
          timeout := 300000
          authenticatorAttachment := none
          residentKey := "required"
          requireResidentKey := true
          userVerification := "required"
          attestation := "none"
          excludeCredentials := exclude },
        manager.insertChallenge sessionToken
          ⟨env.challenge, registrationBinding, .registration rpId rpOrigin, env.created⟩)

def beginRegistration (manager : IdentityManager) (env : Environment)
    (sessionToken rpId rpOrigin : String) : IdentityResult CreationOptions × IdentityManager :=
  manager.beginRegistrationInner env sessionToken rpId rpOrigin "ElastOS User" true none

def beginPrincipalRegistration (manager : IdentityManager) (env : Environment)
    (sessionToken rpId rpOrigin : String) : IdentityResult CreationOptions × IdentityManager :=
  manager.beginRegistrationInner env sessionToken rpId rpOrigin "ElastOS Passkey" false none

def beginBoundPrincipalRegistration (manager : IdentityManager) (env : Environment)
    (ceremony rpId origin : String) (binding : Bytes 32) :
    IdentityResult CreationOptions × IdentityManager :=
  manager.beginRegistrationInner env ceremony rpId origin "ElastOS Passkey" false (some binding)

def beginAuthentication (manager : IdentityManager) (env : Environment)
    (sessionToken rpId : String) : IdentityResult RequestOptions × IdentityManager :=
  match manager.admitChallenge env.now sessionToken rpId none with
  | (.error e, manager) => (.error e, manager)
  | (.ok (), manager) =>
    if CeremonyKind.authentication.capacity ≤ manager.pendingCount .authentication then
      (.error .ceremonyCapacityExceeded, manager)
    else if manager.store.getCredentials.isEmpty then
      (.error (.message "No registered credentials. Register first."), manager)
    else
      (.ok
        { challenge := WebAuthnCrates.base64Encode env.challenge.toList
          timeout := 300000
          rpId
          allowCredentials := []
          userVerification := "required" },
        manager.insertChallenge sessionToken ⟨env.challenge, none, .authentication, env.created⟩)

/-! ## 4. Redeeming them -/

variable [Crypto]

def verifyBoundRegistration (manager : IdentityManager) (env : Environment) (ceremony : String)
    (response : RegistrationResponse) (rpId origin : String) (binding : Bytes 32) :
    IdentityResult RegistrationCandidate :=
  match manager.challenges.lookup ceremony with
  | none => .error (.message "registration challenge unavailable")
  | some pending =>
    if CHALLENGE_EXPIRY < pending.elapsed env.now ∨ pending.registrationBinding ≠ some binding ∨
        pending.challengeType ≠ .registration rpId origin then
      .error (.message "registration binding mismatch")
    else
      verifyRegistrationCandidate response rpId origin
        (WebAuthnCrates.base64Encode pending.challenge.toList)

/-- The checks of `complete_registration` on a challenge that has been taken out. -/
def redeemRegistration (pending : PendingChallenge) (now : Nat) (response : RegistrationResponse)
    (rpId rpOrigin : String) : IdentityResult RegistrationCandidate :=
  match pending.challengeType with
  | .authentication => .error (.message "Pending challenge is not a registration")
  | .registration savedRpId savedOrigin => do
    refuseIf (CHALLENGE_EXPIRY < pending.elapsed now) "Registration challenge expired"
    refuseIf (rpId ≠ savedRpId ∨ rpOrigin ≠ savedOrigin)
      "Registration ceremony RP or origin mismatch"
    verifyRegistrationCandidate response savedRpId savedOrigin
      (WebAuthnCrates.base64Encode pending.challenge.toList)

/-- The checks of `complete_authentication` on a challenge that has been taken out: the stored
credential, the presented counter and the client's origin. -/
def redeemAuthentication (manager : IdentityManager) (pending : PendingChallenge) (now : Nat)
    (response : AuthenticationResponse) (rpId rpOrigin : String) :
    IdentityResult (StoredCredential × Nat × String) := do
  refuseIf (pending.challengeType ≠ .authentication) "Pending challenge is not an authentication"
  refuseIf (CHALLENGE_EXPIRY < pending.elapsed now) "Authentication challenge expired"
  match manager.store.getCredentials.find? fun c => c.credentialId = response.rawId with
  | none => .error (.message "Unknown credential")
  | some stored => do
    let verified ← verifyAssertion stored pending.challenge.toList manager.allowClone response rpId
      rpOrigin
    .ok (stored, verified)

variable [IdentityCrates]

def completeRegistration (manager : IdentityManager) (disk : Disk) (env : Environment)
    (sessionToken : String) (response : RegistrationResponse) (rpId rpOrigin : String) :
    Answer RegistrationOutcome :=
  match manager.challenges.lookup sessionToken with
  | none => ⟨.error (.message "No pending registration challenge"), manager, disk⟩
  | some pending =>
    if pending.registrationBinding.isSome then
      ⟨.error (.message "guided registration intent required"), manager, disk⟩
    else
      let manager := manager.withoutChallenge sessionToken
      match redeemRegistration pending env.now response rpId rpOrigin with
      | .error e => ⟨.error e, manager, disk⟩
      | .ok candidate =>
        let added := manager.store.addCredential candidate.credential
        let saved := added.2.save disk env.access
        ⟨saved.result.map fun _ =>
            ⟨added.1, candidate.credential, candidate.origin, candidate.userVerified⟩,
          { manager with store := saved.store }, saved.disk⟩

def completeAuthentication (manager : IdentityManager) (disk : Disk) (env : Environment)
    (sessionToken : String) (response : AuthenticationResponse) (rpId rpOrigin : String) :
    Answer AuthenticationOutcome :=
  match manager.challenges.lookup sessionToken with
  | none => ⟨.error (.message "No pending authentication challenge"), manager, disk⟩
  | some pending =>
    let manager := manager.withoutChallenge sessionToken
    match manager.redeemAuthentication pending env.now response rpId rpOrigin with
    | .error e => ⟨.error e, manager, disk⟩
    | .ok (stored, signCount, origin) =>
      let saved := (manager.store.updateSignCount stored.credentialId signCount).save disk env.access
      let left := { manager with store := saved.store }
      match saved.result with
      | .error e => ⟨.error e, left, saved.disk⟩
      | .ok () =>
        match saved.store.userId with
        | none =>
          ⟨.error (.message "Identity store has no user ID after successful authentication"), left,
            saved.disk⟩
        | some userId =>
          ⟨.ok ⟨userId, { stored with signCount }, origin, true⟩, left, saved.disk⟩

/-! ## 5. The other calls -/

/-- `IdentityManager::new`: a new store, loaded. -/
def new (disk : Disk) (creating loading : Access) (drawn : Bytes 32) :
    IdentityResult IdentityManager × Disk :=
  match IdentityStore.new disk creating drawn with
  | (.error e, disk) => (.error e, disk)
  | (.ok store, disk) =>
    let loaded := store.load disk loading
    (loaded.result.map fun _ => ⟨loaded.store, ∅, false⟩, loaded.disk)

def cancelChallenge (manager : IdentityManager) (sessionToken : String) : Bool × IdentityManager :=
  ((manager.challenges.lookup sessionToken).isSome, manager.withoutChallenge sessionToken)

def revokeCredential (manager : IdentityManager) (disk : Disk) (env : Environment)
    (credentialId : String) : Answer StoredCredential :=
  match manager.store.getCredentials.find? fun c => c.credentialId = credentialId with
  | none => ⟨.error (.message "passkey credential not found"), manager, disk⟩
  | some credential =>
    let removed := manager.store.removeCredential credentialId
    if !removed.1 then
      ⟨.error (.message "passkey credential not found"), { manager with store := removed.2 }, disk⟩
    else
      let saved := removed.2.save disk env.access
      ⟨saved.result.map fun _ => credential,
        { manager with store := saved.store, challenges := ∅ }, saved.disk⟩

/-- A call that works on the store alone. -/
def onStore {α : Type} (manager : IdentityManager) (outcome : Outcome α) : Answer α :=
  ⟨outcome.result, { manager with store := outcome.store }, outcome.disk⟩

def reloadCredentials (manager : IdentityManager) (disk : Disk) (env : Environment) : Answer Unit :=
  manager.onStore (manager.store.load disk env.access)

def persistEnrollmentCandidate (manager : IdentityManager) (disk : Disk) (env : Environment)
    (candidate : RegistrationCandidate) : Answer String :=
  manager.onStore (manager.store.persistFirstOwner disk env.access candidate.credential)

def guestCredentialHistory (manager : IdentityManager) : IdentityResult GuestCredentialHistory :=
  manager.store.guestCredentialHistory

def persistGuestCandidate (manager : IdentityManager) (disk : Disk) (env : Environment)
    (candidate : RegistrationCandidate) (previousHistory : GuestCredentialHistory) :
    Answer StoredCredential :=
  manager.onStore
    (manager.store.persistGuestCandidate disk env.access candidate.credential previousHistory)

end

end IdentityManager

/-! ## 6. All calls -/

inductive Call where
  | beginRegistration (sessionToken rpId rpOrigin : String)
  | beginPrincipalRegistration (sessionToken rpId rpOrigin : String)
  | beginBoundPrincipalRegistration (ceremony rpId origin : String) (binding : Bytes 32)
  | verifyBoundRegistration (ceremony : String) (response : RegistrationResponse)
      (rpId origin : String) (binding : Bytes 32)
  | completeRegistration (sessionToken : String) (response : RegistrationResponse)
      (rpId rpOrigin : String)
  | beginAuthentication (sessionToken rpId : String)
  | completeAuthentication (sessionToken : String) (response : AuthenticationResponse)
      (rpId rpOrigin : String)
  | cancelChallenge (sessionToken : String)
  | revokeCredential (credentialId : String)
  | reloadCredentials
  | persistEnrollmentCandidate (candidate : RegistrationCandidate)
  | guestCredentialHistory
  | persistGuestCandidate (candidate : RegistrationCandidate)
      (previousHistory : GuestCredentialHistory)

inductive Reply where
  | creation (options : CreationOptions)
  | request (options : RequestOptions)
  | verified (candidate : RegistrationCandidate)
  | registered (outcome : RegistrationOutcome)
  | authenticated (outcome : AuthenticationOutcome)
  | cancelled (found : Bool)
  | revoked (credential : StoredCredential)
  | reloaded
  | owner (userId : String)
  | history (history : GuestCredentialHistory)
  | guest (credential : StoredCredential)

def Answer.map {α β : Type} (f : α → β) (answer : Answer α) : Answer β :=
  ⟨answer.result.map f, answer.manager, answer.disk⟩

/-- The answer of a call that leaves the directory alone. -/
def Answer.ofResult {α β : Type} (f : α → β) (disk : Disk)
    (answered : IdentityResult α × IdentityManager) : Answer β :=
  ⟨answered.1.map f, answered.2, disk⟩

section

variable [WebAuthnCrates] [Crypto] [IdentityCrates]

/-- One call on a manager. -/
def IdentityManager.call (manager : IdentityManager) (disk : Disk) (env : Environment) :
    Call → Answer Reply
  | .beginRegistration token rpId origin =>
    .ofResult .creation disk (manager.beginRegistration env token rpId origin)
  | .beginPrincipalRegistration token rpId origin =>
    .ofResult .creation disk (manager.beginPrincipalRegistration env token rpId origin)
  | .beginBoundPrincipalRegistration ceremony rpId origin binding =>
    .ofResult .creation disk
      (manager.beginBoundPrincipalRegistration env ceremony rpId origin binding)
  | .verifyBoundRegistration ceremony response rpId origin binding =>
    .ofResult .verified disk
      (manager.verifyBoundRegistration env ceremony response rpId origin binding, manager)
  | .completeRegistration token response rpId origin =>
    (manager.completeRegistration disk env token response rpId origin).map .registered
  | .beginAuthentication token rpId =>
    .ofResult .request disk (manager.beginAuthentication env token rpId)
  | .completeAuthentication token response rpId origin =>
    (manager.completeAuthentication disk env token response rpId origin).map .authenticated
  | .cancelChallenge token =>
    let cancelled := manager.cancelChallenge token
    ⟨.ok (.cancelled cancelled.1), cancelled.2, disk⟩
  | .revokeCredential credentialId =>
    (manager.revokeCredential disk env credentialId).map .revoked
  | .reloadCredentials => (manager.reloadCredentials disk env).map fun _ => .reloaded
  | .persistEnrollmentCandidate candidate =>
    (manager.persistEnrollmentCandidate disk env candidate).map .owner
  | .guestCredentialHistory =>
    .ofResult .history disk (manager.guestCredentialHistory, manager)
  | .persistGuestCandidate candidate previousHistory =>
    (manager.persistGuestCandidate disk env candidate previousHistory).map .guest

end

end ElastosRuntime.Identity
