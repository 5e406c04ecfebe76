/-
# What a call on an identity manager can do

One inversion for all calls: `IdentityManager.call_spec` says what becomes of the directory and of
the copy, `call_challenges` what becomes of the pending challenges, and
`redeemRegistration_ok` and `redeemAuthentication_ok` what a redeemed challenge has passed.
-/
import ElastosRuntime.Identity.Manager

namespace ElastosRuntime.Identity

open IdentityStore

/-! ## 1. Results that have passed checks -/

section

variable {α β : Type}

variable {f : α → IdentityResult β}

theorem bind_eq_ok {x : IdentityResult α} {b : β} :
    (x >>= f) = .ok b ↔ ∃ a, x = .ok a ∧ f a = .ok b := by
  cases x with
  | error e => simp [bind, Except.bind]
  | ok a => simp [bind, Except.bind]

theorem refuseIf_eq_ok {p : Prop} [Decidable p] {text : String} {u : Unit} :
    refuseIf p text = .ok u ↔ ¬p := by
  unfold refuseIf
  split <;> simp [*]

theorem ofCrate_eq_ok {o : Option α} {a : α} : ofCrate o = .ok a ↔ o = some a := by
  cases o <;> simp [ofCrate]

/-- Every result that is not an error satisfies `P`. -/
def Yields (P : α → Prop) (x : IdentityResult α) : Prop := ∀ a, x = .ok a → P a

theorem Yields.bind {P : β → Prop} {x : IdentityResult α} (h : ∀ a, Yields P (f a)) :
    Yields P (x >>= f) := by
  intro b hb
  obtain ⟨a, -, ha⟩ := bind_eq_ok.mp hb
  exact h a b ha

theorem Yields.ok {P : α → Prop} {a : α} (h : P a) : Yields P (.ok a) := by
  rintro _ ⟨⟩
  exact h

end

/-! ## 2. Changes of the saved credentials -/

/-- The RP id a call registers a credential under. -/
def Call.party : Call → String
  | .completeRegistration _ _ rpId _ => rpId
  | .persistEnrollmentCandidate candidate => candidate.credential.rpId
  | .persistGuestCandidate candidate _ => candidate.credential.rpId
  | _ => ""

section

variable [Crypto]

def enroll (credential : StoredCredential) : Option IdentityData → IdentityData
  | none => ⟨generateUserId credential.credentialId, [credential], 0⟩
  | some data => { data with credentials := data.credentials ++ [credential] }

/-- What a call may save, given what is saved. -/
inductive Change (allowClone : Bool) (before : Option IdentityData) (call : Call)
    (after : IdentityData) : Prop
  | enrolled {credential : StoredCredential} (hparty : call.party = credential.rpId)
      (hafter : after = enroll credential before)
  | counted {data : IdentityData} {stored : StoredCredential} {signCount : Nat}
      (hbefore : before = some data) (hmem : stored ∈ data.credentials)
      (hcount : allowClone = false → 0 < stored.signCount → stored.signCount < signCount)
      (hafter : after = data.updateSignCount stored.credentialId signCount)
  | removed {data : IdentityData} {stored : StoredCredential} (hbefore : before = some data)
      (hmem : stored ∈ data.credentials)
      (hafter : after = data.removeCredential stored.credentialId)

variable [IdentityCrates]

omit [Crypto] in
theorem Disk.saved_eq {key : Bytes 32} {disk : Disk} (h : disk.deviceKey = some key) :
    disk.saved = disk.credentials.bind fun raw => (readCredentials key raw).toOption := by
  unfold Disk.saved
  rw [h]
  cases disk.credentials <;> rfl

omit [Crypto] in
theorem Disk.saved_of_file {key : Bytes 32} {disk : Disk} {file : List UInt8} {data : IdentityData}
    (h : disk.deviceKey = some key) (hfile : disk.credentials = some file)
    (hread : readCredentials key file = .ok data) : disk.saved = some data := by
  rw [Disk.saved_eq h, hfile, Option.bind_some, hread]
  rfl

/-- What a call does to the directory and to the copy. -/
structure CallSpec {α : Type} (key : Bytes 32) (manager : IdentityManager) (disk : Disk)
    (env : Environment) (call : Call) (answer : Answer α) : Prop where
  files : answer.disk = disk ∨ ∃ after, Change manager.allowClone disk.saved call after ∧
    after.DistinctIds ∧
      answer.disk = disk.withCredentials (writeCredentials key env.access.nonce after) ∧
        ((∃ a, answer.result = .ok a) ∨ env.access.replacement = .failedAfter)
  copy : answer.manager.store = manager.store ∨ Refreshed key answer.disk answer.manager.store
  allowClone : answer.manager.allowClone = manager.allowClone

section

variable {α β : Type} {key : Bytes 32} {raw : Option (List UInt8)} {manager : IdentityManager}
  {disk : Disk} {env : Environment} {call : Call} {answer : Answer α}

/-- A call that leaves the directory and the copy alone. -/
theorem CallSpec.of_kept (hdisk : answer.disk = disk)
    (hstore : answer.manager.store = manager.store)
    (hallow : answer.manager.allowClone = manager.allowClone) :
    CallSpec key manager disk env call answer :=
  ⟨.inl hdisk, .inl hstore, hallow⟩

/-- A call that reads the directory. -/
theorem CallSpec.of_read (hdisk : answer.disk = disk)
    (hstore : Refreshed key disk answer.manager.store)
    (hallow : answer.manager.allowClone = manager.allowClone) :
    CallSpec key manager disk env call answer :=
  ⟨.inl hdisk, .inr (hdisk ▸ hstore), hallow⟩

variable {outcome : Outcome β}

theorem CallSpec.of_refused (h : Refused key disk outcome) (hdisk : answer.disk = outcome.disk)
    (hstore : answer.manager.store = outcome.store)
    (hallow : answer.manager.allowClone = manager.allowClone) :
    CallSpec key manager disk env call answer :=
  .of_read (hdisk.trans h.2.1) (hstore ▸ h.2.2) hallow

variable {after : IdentityData}

theorem CallSpec.of_attempt {b : β} (h : Attempt key env.access disk after b outcome)
    (hchange : Change manager.allowClone disk.saved call after) (hdisk : answer.disk = outcome.disk)
    (hstore : answer.manager.store = outcome.store)
    (hallow : answer.manager.allowClone = manager.allowClone)
    (hresult : outcome.result = .ok b → ∃ a, answer.result = .ok a) :
    CallSpec key manager disk env call answer := by
  cases h with
  | refused hrefused => exact .of_refused hrefused hdisk hstore hallow
  | done hdistinct hok hwritten hcopies =>
    refine ⟨.inr ⟨after, hchange, hdistinct, hdisk.trans hwritten, .inl (hresult hok)⟩, .inr ?_,
      hallow⟩
    rw [hstore, hdisk]
    exact .inr hcopies
  | indeterminate hdistinct hafter herror hwritten hrefreshed =>
    refine ⟨.inr ⟨after, hchange, hdistinct, hdisk.trans hwritten, .inr hafter⟩, .inr ?_, hallow⟩
    rw [hstore, hdisk]
    exact hrefreshed

theorem CallSpec.map {f : α → β} (h : CallSpec key manager disk env call answer) :
    CallSpec key manager disk env call (answer.map f) := by
  refine ⟨?_, h.copy, h.allowClone⟩
  obtain hkept | ⟨after, hchange, hdistinct, hdisk, hresult⟩ := h.files
  · exact .inl hkept
  · refine .inr ⟨after, hchange, hdistinct, hdisk, hresult.imp_left ?_⟩
    rintro ⟨a, ha⟩
    refine ⟨f a, ?_⟩
    rw [Answer.map, ha]
    rfl

/-! ## 3. Saving an edited copy -/

/-- **An edited copy is saved over what it was a copy of.** -/
theorem save_edited [LawfulIdentityCrates] {store edited : IdentityStore} {access : Access}
    (hcopies : Copies key raw store) (hdevice : disk.deviceKey = some key)
    (hraw : disk.credentials.map Crypto.sha256 = raw.map Crypto.sha256 → disk.credentials = raw)
    (hedited : edited = { store with data := some after }) :
    Refused key disk (edited.save disk access) ∨
      disk.saved = store.data ∧ Attempt key access disk after () (edited.save disk access) := by
  subst hedited
  have hkey : ({ store with data := some after } : IdentityStore).deviceKey = key := hcopies.1
  obtain hrefused | ⟨hcurrent, hattempt⟩ : Refused key disk (IdentityStore.save _ disk access) ∨ _ :=
    save_cases hkey rfl
  · exact .inl hrefused
  · rw [hcopies.digest_eq] at hcurrent
    refine .inr ⟨?_, hattempt⟩
    rw [Disk.saved_eq hdevice, hraw hcurrent]
    cases raw with
    | none => exact hcopies.2.1.symm
    | some file =>
      obtain ⟨-, data, hread, hsome, -⟩ := hcopies
      rw [Option.bind_some, hread, hsome]
      rfl

/-- A copy that has been saved is not empty. -/
theorem data_of_attempt {b : β} {access : Access} (h : Attempt key access disk after b outcome)
    (hok : outcome.result = .ok b) : outcome.store.data ≠ none := by
  intro hnone
  cases h with
  | refused hrefused =>
    obtain ⟨e, he⟩ := hrefused.1
    exact absurd (he.symm.trans hok) (by simp)
  | done hdistinct hresult hdisk hstore =>
    have hempty := hstore.eq_none hnone
    rw [hdisk] at hempty
    exact absurd hempty (by simp [Disk.withCredentials])
  | indeterminate hdistinct hafter hresult hdisk hstore =>
    exact absurd (hresult.symm.trans hok) (by simp)

/-! ## 4. The calls that complete a ceremony or revoke -/

omit [IdentityCrates] in
theorem addCredential_eq (store : IdentityStore) (credential : StoredCredential) :
    (store.addCredential credential).2 =
      { store with data := some (enroll credential store.data) } := by
  unfold addCredential enroll
  cases store.data <;> rfl

section

variable [WebAuthnCrates] {pending : PendingChallenge} {now : Nat} {rpId rpOrigin : String}

omit [IdentityCrates] in
theorem verifyRegistrationCandidate_rpId (response : RegistrationResponse) (challenge : String) :
    Yields (fun candidate => candidate.credential.rpId = rpId)
      (verifyRegistrationCandidate response rpId rpOrigin challenge) := by
  unfold verifyRegistrationCandidate
  repeat refine Yields.bind fun _ => ?_
  exact Yields.ok rfl

omit [IdentityCrates] in
theorem redeemRegistration_ok {response : RegistrationResponse} {candidate : RegistrationCandidate}
    (h : IdentityManager.redeemRegistration pending now response rpId rpOrigin = .ok candidate) :
    pending.challengeType = .registration rpId rpOrigin ∧
      pending.elapsed now ≤ CHALLENGE_EXPIRY ∧ candidate.credential.rpId = rpId := by
  unfold IdentityManager.redeemRegistration at h
  split at h
  · cases h
  · rename_i savedRpId savedOrigin htype
    obtain ⟨_, hfresh, h⟩ := bind_eq_ok.mp h
    obtain ⟨_, hsame, h⟩ := bind_eq_ok.mp h
    rw [refuseIf_eq_ok, Nat.not_lt] at hfresh
    rw [refuseIf_eq_ok, not_or, Decidable.not_not, Decidable.not_not] at hsame
    obtain ⟨rfl, rfl⟩ := hsame
    exact ⟨htype, hfresh, verifyRegistrationCandidate_rpId _ _ _ h⟩

/-- The hash of an RP id that the authenticator data of a response begins with. -/
def assertedHash (response : AuthenticationResponse) : List UInt8 :=
  ((WebAuthnCrates.base64Decode response.response.authenticatorData).getD []).take 32

variable {stored : StoredCredential}

variable {response : AuthenticationResponse}

omit [IdentityCrates] in
theorem verifyAssertion_ok {challenge : List UInt8} {allowClone : Bool} {signCount : Nat}
    {origin : String}
    (h : verifyAssertion stored challenge allowClone response rpId rpOrigin = .ok (signCount,
      origin)) :
    assertedHash response = rpIdHash rpId ∧
      (allowClone = false → 0 < stored.signCount → stored.signCount < signCount) := by
  unfold verifyAssertion at h
  obtain ⟨_, -, h⟩ := bind_eq_ok.mp h
  obtain ⟨_, -, h⟩ := bind_eq_ok.mp h
  obtain ⟨_, -, h⟩ := bind_eq_ok.mp h
  obtain ⟨_, -, h⟩ := bind_eq_ok.mp h
  obtain ⟨_, -, h⟩ := bind_eq_ok.mp h
  obtain ⟨_, -, h⟩ := bind_eq_ok.mp h
  obtain ⟨authData, hdecoded, h⟩ := bind_eq_ok.mp h
  obtain ⟨_, -, h⟩ := bind_eq_ok.mp h
  obtain ⟨_, hhash, h⟩ := bind_eq_ok.mp h
  obtain ⟨_, -, h⟩ := bind_eq_ok.mp h
  obtain ⟨_, hclone, h⟩ := bind_eq_ok.mp h
  obtain ⟨_, -, h⟩ := bind_eq_ok.mp h
  obtain ⟨_, -, h⟩ := bind_eq_ok.mp h
  obtain ⟨_, -, h⟩ := bind_eq_ok.mp h
  rw [ofCrate_eq_ok] at hdecoded
  rw [refuseIf_eq_ok, Decidable.not_not] at hhash
  rw [refuseIf_eq_ok] at hclone
  split at h
  · simp only [Except.ok.injEq, Prod.mk.injEq] at h
    obtain ⟨rfl, -⟩ := h
    refine ⟨by rw [assertedHash, hdecoded]; exact hhash, fun hallow hpos => ?_⟩
    by_contra hle
    exact hclone ⟨hpos, Nat.not_lt.mp hle, hallow⟩
  · cases h

omit [IdentityCrates] in
theorem redeemAuthentication_ok {signCount : Nat} {origin : String}
    (h : manager.redeemAuthentication pending now response rpId rpOrigin = .ok (stored, signCount,
      origin)) :
    pending.challengeType = .authentication ∧ pending.elapsed now ≤ CHALLENGE_EXPIRY ∧
      stored ∈ manager.store.getCredentials ∧ stored.credentialId = response.rawId ∧
        assertedHash response = rpIdHash rpId ∧
          (manager.allowClone = false → 0 < stored.signCount → stored.signCount < signCount) := by
  unfold IdentityManager.redeemAuthentication at h
  obtain ⟨_, htype, h⟩ := bind_eq_ok.mp h
  obtain ⟨_, hfresh, h⟩ := bind_eq_ok.mp h
  rw [refuseIf_eq_ok, Decidable.not_not] at htype
  rw [refuseIf_eq_ok, Nat.not_lt] at hfresh
  split at h
  · cases h
  · rename_i found hfind
    obtain ⟨⟨count, where'⟩, hverified, h⟩ := bind_eq_ok.mp h
    simp only [Except.ok.injEq, Prod.mk.injEq] at h
    obtain ⟨rfl, rfl, rfl⟩ := h
    have hid := List.find?_some hfind
    simp only [decide_eq_true_eq] at hid
    exact ⟨htype, hfresh, List.mem_of_find?_eq_some hfind, hid, verifyAssertion_ok hverified⟩

/-! ## 5. Every call -/

variable [LawfulIdentityCrates] (hcopies : Copies key raw manager.store)
  (hdevice : disk.deviceKey = some key)
  (hraw : disk.credentials.map Crypto.sha256 = raw.map Crypto.sha256 → disk.credentials = raw)

include hcopies hdevice hraw in
theorem completeRegistration_spec (sessionToken : String) (response : RegistrationResponse) :
    CallSpec key manager disk env (.completeRegistration sessionToken response rpId rpOrigin)
      (manager.completeRegistration disk env sessionToken response rpId rpOrigin) := by
  unfold IdentityManager.completeRegistration
  split
  · exact .of_kept rfl rfl rfl
  · split
    · exact .of_kept rfl rfl rfl
    · split
      · exact .of_kept rfl rfl rfl
      · rename_i candidate hredeem
        obtain ⟨-, -, hparty⟩ := redeemRegistration_ok hredeem
        have hedited := addCredential_eq manager.store candidate.credential
        obtain hrefused | ⟨hsaved, hattempt⟩ : Refused key disk _ ∨ _ :=
          save_edited hcopies hdevice hraw hedited
        · exact .of_refused hrefused rfl rfl rfl
        · exact .of_attempt hattempt (.enrolled hparty.symm (hsaved ▸ rfl)) rfl rfl rfl fun hok =>
            ⟨_, congrArg (Except.map _) hok⟩

omit [WebAuthnCrates] [Crypto] [IdentityCrates] [LawfulIdentityCrates] in
theorem mem_getCredentials {store : IdentityStore} {credential : StoredCredential}
    (h : credential ∈ store.getCredentials) :
    ∃ data, store.data = some data ∧ credential ∈ data.credentials := by
  unfold getCredentials at h
  cases hdata : store.data with
  | none => simp [hdata] at h
  | some data => exact ⟨data, rfl, by simpa [hdata] using h⟩

include hcopies hdevice hraw in
theorem completeAuthentication_spec (sessionToken : String) (response : AuthenticationResponse) :
    CallSpec key manager disk env (.completeAuthentication sessionToken response rpId rpOrigin)
      (manager.completeAuthentication disk env sessionToken response rpId rpOrigin) := by
  unfold IdentityManager.completeAuthentication
  split
  · exact .of_kept rfl rfl rfl
  · dsimp only
    split
    · exact .of_kept rfl rfl rfl
    · rename_i stored signCount origin hredeem
      obtain ⟨-, -, hmem, hid, -, hcount⟩ := redeemAuthentication_ok hredeem
      obtain ⟨data, hdata, hmem⟩ := mem_getCredentials hmem
      have hedited : manager.store.updateSignCount stored.credentialId signCount =
          { manager.store with data := some (data.updateSignCount stored.credentialId signCount) } := by
        rw [updateSignCount, show manager.store.data = some data from hdata]
        rfl
      obtain hrefused | ⟨hsaved, hattempt⟩ : Refused key disk
          ((manager.store.updateSignCount stored.credentialId signCount).save disk env.access) ∨ _ :=
        save_edited hcopies hdevice hraw hedited
      · obtain ⟨e, he⟩ := hrefused.1
        split
        · exact .of_refused hrefused rfl rfl rfl
        · rename_i hok
          exact absurd (he.symm.trans hok) (by simp)
      · have hchange : Change manager.allowClone disk.saved
            (.completeAuthentication sessionToken response rpId rpOrigin)
            (data.updateSignCount stored.credentialId signCount) :=
          .counted (hsaved.trans hdata) hmem hcount rfl
        split
        · rename_i e he
          refine .of_attempt hattempt hchange rfl rfl rfl fun hok => ?_
          exact absurd (hok.symm.trans he) (by simp)
        · split
          · rename_i hok _ hnone
            rw [userId, Option.map_eq_none_iff] at hnone
            exact absurd hnone (data_of_attempt hattempt hok)
          · exact .of_attempt hattempt hchange rfl rfl rfl fun _ => ⟨_, rfl⟩

omit [WebAuthnCrates] [Crypto] [IdentityCrates] [LawfulIdentityCrates] in
theorem length_removeCredential_lt {data : IdentityData} {credentialId : String}
    (hmem : stored ∈ data.credentials) (hid : stored.credentialId = credentialId) :
    (data.removeCredential credentialId).credentials.length < data.credentials.length := by
  refine List.length_filter_lt_length_iff_exists.mpr ⟨stored, hmem, ?_⟩
  simp [hid]

omit [WebAuthnCrates] in
include hcopies hdevice hraw in
theorem revokeCredential_spec (credentialId : String) :
    CallSpec key manager disk env (.revokeCredential credentialId)
      (manager.revokeCredential disk env credentialId) := by
  unfold IdentityManager.revokeCredential
  split
  · exact .of_kept rfl rfl rfl
  · rename_i credential hfind
    have hid := List.find?_some hfind
    simp only [decide_eq_true_eq] at hid
    obtain ⟨data, hdata, hmem⟩ := mem_getCredentials (List.mem_of_find?_eq_some hfind)
    have hremoved : manager.store.removeCredential credentialId =
        (true, { manager.store with data := some (data.removeCredential credentialId) }) := by
      simp only [removeCredential, hdata, Prod.mk.injEq, decide_eq_true_eq, and_true]
      exact Nat.ne_of_lt (length_removeCredential_lt hmem hid)
    rw [hremoved]
    obtain hrefused | ⟨hsaved, hattempt⟩ : Refused key disk (IdentityStore.save
        { manager.store with data := some (data.removeCredential credentialId) } disk env.access) ∨
          _ := save_edited hcopies hdevice hraw rfl
    · exact .of_refused hrefused rfl rfl rfl
    · exact .of_attempt hattempt (.removed (hsaved.trans hdata) hmem (by rw [hid])) rfl rfl rfl
        fun hok => ⟨_, congrArg (Except.map _) hok⟩

omit [WebAuthnCrates] [LawfulIdentityCrates] in
include hcopies in
theorem reloadCredentials_spec :
    CallSpec key manager disk env .reloadCredentials (manager.reloadCredentials disk env) := by
  unfold IdentityManager.reloadCredentials load
  split
  · exact .of_read rfl (refreshed_cleared hcopies.1) rfl
  · exact .of_read rfl (refreshed_reloadLocked hcopies.1 _) rfl

omit [WebAuthnCrates] in
include hcopies hdevice in
theorem persistEnrollmentCandidate_spec (candidate : RegistrationCandidate) :
    CallSpec key manager disk env (.persistEnrollmentCandidate candidate)
      (manager.persistEnrollmentCandidate disk env candidate) := by
  cases persistFirstOwner_cases hcopies.1 with
  | closed h => exact .of_kept (congrArg Outcome.disk h) (congrArg Outcome.store h) rfl
  | refused h => exact .of_refused h rfl rfl rfl
  | present hfile hread hone hsame hresult hdisk hstore =>
    exact .of_read hdisk (.inr hstore) rfl
  | added hempty h =>
    have hnone : disk.saved = none := by rw [Disk.saved_eq hdevice, hempty]; rfl
    exact .of_attempt h (.enrolled rfl (by rw [hnone]; rfl)) rfl rfl rfl fun hok => ⟨_, hok⟩

omit [WebAuthnCrates] in
include hcopies hdevice in
theorem persistGuestCandidate_spec (candidate : RegistrationCandidate)
    (history : GuestCredentialHistory) :
    CallSpec key manager disk env (.persistGuestCandidate candidate history)
      (manager.persistGuestCandidate disk env candidate history) := by
  cases persistGuestCandidate_cases hcopies.1 with
  | closed h => exact .of_kept (congrArg Outcome.disk h) (congrArg Outcome.store h) rfl
  | refused h => exact .of_refused h rfl rfl rfl
  | present hfile hread hextends hmem hsame hresult hdisk hstore =>
    exact .of_read hdisk (.inr hstore) rfl
  | added hfile hread hextends h =>
    have hsaved := Disk.saved_of_file hdevice hfile hread
    exact .of_attempt h (.enrolled rfl (by rw [hsaved]; rfl)) rfl rfl rfl fun hok => ⟨_, hok⟩

end

/-! ## 6. The pending challenges -/

/-- A table of challenges that has only lost some. -/
def Shrinks (before after : Table String PendingChallenge) : Prop :=
  (∀ token pending, after.lookup token = some pending → before.lookup token = some pending) ∧
    ∀ p, after.countVals p ≤ before.countVals p

namespace Shrinks

variable {t : Table String PendingChallenge}

omit [Crypto] [IdentityCrates] in
theorem refl : Shrinks t t := ⟨fun _ _ h => h, fun _ => Nat.le_refl _⟩

omit [Crypto] [IdentityCrates] in
theorem retain (q : String → PendingChallenge → Bool) : Shrinks t (t.retain q) := by
  refine ⟨fun token pending h => ?_, fun p => Table.countVals_retain_le q p t⟩
  rw [Table.lookup_retain, Option.filter_eq_some_iff] at h
  exact h.1

omit [Crypto] [IdentityCrates] in
theorem erase (token : String) : Shrinks t (t.erase token) := by
  constructor
  · intro other pending h
    rw [Table.lookup_erase_eq] at h
    split at h
    · cases h
    · exact h
  · intro p
    cases hlookup : t.lookup token with
    | none => rw [Table.erase_of_lookup_eq_none hlookup]
    | some pending =>
      have := Table.countVals_erase p hlookup
      omega

omit [Crypto] [IdentityCrates] in
theorem empty : Shrinks t ∅ :=
  ⟨fun token pending h => by simp at h, fun p => Nat.zero_le _⟩

end Shrinks

end

/-- The token and the RP id of a call that asks for a challenge. -/
def Call.begun : Call → Option (String × String)
  | .beginRegistration token rpId _ => some (token, rpId)
  | .beginPrincipalRegistration token rpId _ => some (token, rpId)
  | .beginBoundPrincipalRegistration token rpId _ _ => some (token, rpId)
  | .beginAuthentication token rpId => some (token, rpId)
  | _ => none

/-- What a call does to the pending challenges. -/
inductive ChallengeMove {α : Type} (manager : IdentityManager) (env : Environment) (call : Call)
    (answer : Answer α) : Prop
  | shrinks (h : Shrinks manager.challenges answer.manager.challenges)
      (hnone : call.begun = none ∨ ∃ e, answer.result = .error e)
  | begun {table : Table String PendingChallenge} {token rpId : String}
      {pending : PendingChallenge} (h : Shrinks manager.challenges table)
      (hroom : table.countVals (fun other => other.kind = pending.kind) < pending.kind.capacity)
      (habsent : table.lookup token = none)
      (hinsert : answer.manager.challenges = table.insert token pending)
      (hbegun : call.begun = some (token, rpId)) (hok : ∃ a, answer.result = .ok a)
      (hcreated : pending.created = env.created)
      (hparty : ∀ savedRpId savedOrigin,
        pending.challengeType = .registration savedRpId savedOrigin → savedRpId = rpId)

section

variable [WebAuthnCrates] {manager : IdentityManager} {env : Environment} {disk : Disk}

omit [Crypto] [IdentityCrates] [WebAuthnCrates] in
theorem admitChallenge_cases (manager : IdentityManager) (now : Nat) (ceremony rpId : String)
    (origin : Option String) :
    (∃ e, manager.admitChallenge now ceremony rpId origin =
        (.error e, manager.cleanupExpired now)) ∨
      manager.admitChallenge now ceremony rpId origin = (.ok (), manager.cleanupExpired now) ∧
        (manager.cleanupExpired now).challenges.lookup ceremony = none := by
  unfold IdentityManager.admitChallenge
  dsimp only
  split
  · exact .inl ⟨_, rfl⟩
  · split
    · exact .inl ⟨_, rfl⟩
    · rename_i habsent
      exact .inr ⟨rfl, by simpa using habsent⟩

omit [Crypto] [IdentityCrates] [WebAuthnCrates] in
theorem shrinks_cleanupExpired (now : Nat) :
    Shrinks manager.challenges (manager.cleanupExpired now).challenges :=
  .retain _

variable {token rpId origin : String}

omit [Crypto] [IdentityCrates] in
theorem beginRegistrationInner_move {call : Call} {displayName : String} {exclude : Bool}
    {binding : Option (Bytes 32)} (hbegun : call.begun = some (token, rpId))
    (f : CreationOptions → Reply) :
    ChallengeMove manager env call (.ofResult f disk
      (manager.beginRegistrationInner env token rpId origin displayName exclude binding)) := by
  unfold IdentityManager.beginRegistrationInner
  obtain ⟨e, h⟩ | ⟨h, habsent⟩ := admitChallenge_cases manager env.now token rpId (some origin)
  · rw [h]
    exact .shrinks (shrinks_cleanupExpired _) (.inr ⟨e, rfl⟩)
  · rw [h]
    have hkind : PendingChallenge.kind
        ⟨env.challenge, binding, .registration rpId origin, env.created⟩ =
          if binding.isSome then .guided else .unguided := rfl
    dsimp only
    rw [← hkind]
    by_cases hroom : CeremonyKind.capacity (PendingChallenge.kind
        ⟨env.challenge, binding, .registration rpId origin, env.created⟩) ≤
          (manager.cleanupExpired env.now).pendingCount (PendingChallenge.kind
            ⟨env.challenge, binding, .registration rpId origin, env.created⟩)
    · rw [if_pos hroom]
      exact .shrinks (shrinks_cleanupExpired _) (.inr ⟨_, rfl⟩)
    · rw [if_neg hroom]
      refine .begun (shrinks_cleanupExpired _) (Nat.not_le.mp hroom) habsent rfl hbegun ⟨_, rfl⟩ rfl
        ?_
      rintro savedRpId savedOrigin ⟨⟩
      rfl

omit [Crypto] [IdentityCrates] in
theorem beginRegistrationInner_store (manager : IdentityManager) (env : Environment)
    (token rpId origin displayName : String) (exclude : Bool) (binding : Option (Bytes 32)) :
    (manager.beginRegistrationInner env token rpId origin displayName exclude binding).2.store =
        manager.store ∧
      (manager.beginRegistrationInner env token rpId origin displayName exclude
        binding).2.allowClone = manager.allowClone := by
  unfold IdentityManager.beginRegistrationInner
  obtain ⟨e, h⟩ | ⟨h, -⟩ := admitChallenge_cases manager env.now token rpId (some origin)
  · rw [h]
    exact ⟨rfl, rfl⟩
  · rw [h]
    dsimp only
    split <;> split <;> exact ⟨rfl, rfl⟩

omit [Crypto] [IdentityCrates] in
theorem beginAuthentication_store (manager : IdentityManager) (env : Environment)
    (token rpId : String) :
    (manager.beginAuthentication env token rpId).2.store = manager.store ∧
      (manager.beginAuthentication env token rpId).2.allowClone = manager.allowClone := by
  unfold IdentityManager.beginAuthentication
  obtain ⟨e, h⟩ | ⟨h, -⟩ := admitChallenge_cases manager env.now token rpId none
  · rw [h]
    exact ⟨rfl, rfl⟩
  · rw [h]
    dsimp only
    split
    · exact ⟨rfl, rfl⟩
    · split <;> exact ⟨rfl, rfl⟩

omit [Crypto] [IdentityCrates] in
theorem beginAuthentication_move (f : RequestOptions → Reply) :
    ChallengeMove manager env (.beginAuthentication token rpId)
      (.ofResult f disk (manager.beginAuthentication env token rpId)) := by
  unfold IdentityManager.beginAuthentication
  obtain ⟨e, h⟩ | ⟨h, habsent⟩ := admitChallenge_cases manager env.now token rpId none
  · rw [h]
    exact .shrinks (shrinks_cleanupExpired _) (.inr ⟨e, rfl⟩)
  · rw [h]
    dsimp only
    split
    · exact .shrinks (shrinks_cleanupExpired _) (.inr ⟨_, rfl⟩)
    · rename_i hroom
      split
      · exact .shrinks (shrinks_cleanupExpired _) (.inr ⟨_, rfl⟩)
      · refine .begun (shrinks_cleanupExpired _) ?_ habsent rfl rfl ⟨_, rfl⟩ rfl ?_
        · exact Nat.not_le.mp hroom
        · rintro savedRpId savedOrigin ⟨⟩

theorem completeRegistration_shrinks (token : String) (response : RegistrationResponse)
    (rpId origin : String) : Shrinks manager.challenges
      (manager.completeRegistration disk env token response rpId origin).manager.challenges := by
  unfold IdentityManager.completeRegistration
  split
  · exact .refl
  · split
    · exact .refl
    · split <;> exact .erase token

theorem completeAuthentication_shrinks (token : String) (response : AuthenticationResponse)
    (rpId origin : String) : Shrinks manager.challenges
      (manager.completeAuthentication disk env token response rpId origin).manager.challenges := by
  unfold IdentityManager.completeAuthentication
  split
  · exact .refl
  · dsimp only
    split
    · exact .erase token
    · split
      · exact .erase token
      · split <;> exact .erase token

omit [WebAuthnCrates] in
theorem revokeCredential_shrinks (credentialId : String) : Shrinks manager.challenges
    (manager.revokeCredential disk env credentialId).manager.challenges := by
  unfold IdentityManager.revokeCredential
  split
  · exact .refl
  · dsimp only
    split
    · exact .refl
    · exact .empty

/-- A registration that succeeds has redeemed an unguided challenge of its own. -/
theorem completeRegistration_ok {response : RegistrationResponse} {outcome : RegistrationOutcome}
    (h : (manager.completeRegistration disk env token response rpId origin).result = .ok outcome) :
    (∃ pending, manager.challenges.lookup token = some pending ∧ pending.kind = .unguided ∧
      pending.challengeType = .registration rpId origin ∧
        pending.elapsed env.now ≤ CHALLENGE_EXPIRY) ∧
      (manager.completeRegistration disk env token response rpId origin).manager.challenges.lookup
        token = none := by
  unfold IdentityManager.completeRegistration at h ⊢
  cases hlookup : manager.challenges.lookup token with
  | none =>
    rw [hlookup] at h
    cases h
  | some pending =>
    rw [hlookup] at h
    by_cases hguided : pending.registrationBinding.isSome = true
    · simp only [hguided, if_true] at h
      cases h
    · simp only [hguided, Bool.false_eq_true, if_false] at h ⊢
      cases hredeem : IdentityManager.redeemRegistration pending env.now response rpId origin with
      | error e =>
        rw [hredeem] at h
        cases h
      | ok candidate =>
        obtain ⟨htype, hfresh, -⟩ := redeemRegistration_ok hredeem
        refine ⟨⟨pending, rfl, ?_, htype, hfresh⟩, AList.lookup_erase token manager.challenges⟩
        simp [PendingChallenge.kind, htype, hguided]

theorem completeAuthentication_erased (token : String) (response : AuthenticationResponse)
    (rpId origin : String) : (manager.completeAuthentication disk env token response rpId
      origin).manager.challenges.lookup token = none := by
  unfold IdentityManager.completeAuthentication
  split
  · assumption
  · dsimp only
    split
    · exact AList.lookup_erase token manager.challenges
    · split
      · exact AList.lookup_erase token manager.challenges
      · split <;> exact AList.lookup_erase token manager.challenges

/-- An authentication that succeeds has redeemed a challenge, for a credential of the copy, and has
saved the presented counter. -/
theorem completeAuthentication_ok {response : AuthenticationResponse}
    {outcome : AuthenticationOutcome}
    (h : (manager.completeAuthentication disk env token response rpId origin).result = .ok
      outcome) :
    ∃ pending stored signCount where', manager.challenges.lookup token = some pending ∧
      (manager.withoutChallenge token).redeemAuthentication pending env.now response rpId origin =
        .ok (stored, signCount, where') ∧
      outcome.credential = { stored with signCount } ∧
      (manager.completeAuthentication disk env token response rpId origin).disk =
        ((manager.store.updateSignCount stored.credentialId signCount).save disk
          env.access).disk ∧
      ((manager.store.updateSignCount stored.credentialId signCount).save disk
        env.access).result = .ok () := by
  unfold IdentityManager.completeAuthentication at h ⊢
  cases hlookup : manager.challenges.lookup token with
  | none =>
    rw [hlookup] at h
    cases h
  | some pending =>
    rw [hlookup] at h
    dsimp only at h ⊢
    cases hredeem : (manager.withoutChallenge token).redeemAuthentication pending env.now response
        rpId origin with
    | error e =>
      rw [hredeem] at h
      cases h
    | ok found =>
      obtain ⟨stored, signCount, where'⟩ := found
      rw [hredeem] at h
      dsimp only at h ⊢
      refine ⟨pending, stored, signCount, where', rfl, hredeem, ?_⟩
      split at h
      · cases h
      · rename_i hsaved
        split at h
        · cases h
        · rename_i userId huser
          cases h
          have hsaved' : ((manager.store.updateSignCount stored.credentialId signCount).save disk
            env.access).result = .ok () := hsaved
          exact ⟨rfl, rfl, hsaved'⟩

/-! ## 7. Every call -/

/-- **What any call does to the directory and to the copy.** -/
theorem IdentityManager.call_spec [LawfulIdentityCrates] {key : Bytes 32}
    {raw : Option (List UInt8)} (hcopies : Copies key raw manager.store)
    (hdevice : disk.deviceKey = some key)
    (hraw : disk.credentials.map Crypto.sha256 = raw.map Crypto.sha256 → disk.credentials = raw)
    (env : Environment) (call : Call) :
    CallSpec key manager disk env call (manager.call disk env call) := by
  cases call with
  | beginRegistration token rpId origin =>
    exact .of_kept rfl (beginRegistrationInner_store ..).1 (beginRegistrationInner_store ..).2
  | beginPrincipalRegistration token rpId origin =>
    exact .of_kept rfl (beginRegistrationInner_store ..).1 (beginRegistrationInner_store ..).2
  | beginBoundPrincipalRegistration token rpId origin binding =>
    exact .of_kept rfl (beginRegistrationInner_store ..).1 (beginRegistrationInner_store ..).2
  | verifyBoundRegistration token response rpId origin binding => exact .of_kept rfl rfl rfl
  | completeRegistration token response rpId origin =>
    exact (completeRegistration_spec hcopies hdevice hraw token response).map
  | beginAuthentication token rpId =>
    exact .of_kept rfl (beginAuthentication_store ..).1 (beginAuthentication_store ..).2
  | completeAuthentication token response rpId origin =>
    exact (completeAuthentication_spec hcopies hdevice hraw token response).map
  | cancelChallenge token => exact .of_kept rfl rfl rfl
  | revokeCredential credentialId =>
    exact (revokeCredential_spec hcopies hdevice hraw credentialId).map
  | reloadCredentials => exact (reloadCredentials_spec hcopies).map
  | persistEnrollmentCandidate candidate =>
    exact (persistEnrollmentCandidate_spec hcopies hdevice candidate).map
  | guestCredentialHistory => exact .of_kept rfl rfl rfl
  | persistGuestCandidate candidate history =>
    exact (persistGuestCandidate_spec hcopies hdevice candidate history).map

/-- **What any call does to the pending challenges.** -/
theorem IdentityManager.call_challenges (env : Environment) (call : Call) :
    ChallengeMove manager env call (manager.call disk env call) := by
  cases call with
  | beginRegistration token rpId origin => exact beginRegistrationInner_move rfl _
  | beginPrincipalRegistration token rpId origin => exact beginRegistrationInner_move rfl _
  | beginBoundPrincipalRegistration token rpId origin binding =>
    exact beginRegistrationInner_move rfl _
  | verifyBoundRegistration token response rpId origin binding => exact .shrinks .refl (.inl rfl)
  | completeRegistration token response rpId origin =>
    exact .shrinks (completeRegistration_shrinks token response rpId origin) (.inl rfl)
  | beginAuthentication token rpId => exact beginAuthentication_move _
  | completeAuthentication token response rpId origin =>
    exact .shrinks (completeAuthentication_shrinks token response rpId origin) (.inl rfl)
  | cancelChallenge token => exact .shrinks (.erase token) (.inl rfl)
  | revokeCredential credentialId =>
    exact .shrinks (revokeCredential_shrinks credentialId) (.inl rfl)
  | reloadCredentials => exact .shrinks .refl (.inl rfl)
  | persistEnrollmentCandidate candidate => exact .shrinks .refl (.inl rfl)
  | guestCredentialHistory => exact .shrinks .refl (.inl rfl)
  | persistGuestCandidate candidate history => exact .shrinks .refl (.inl rfl)

end

end

end ElastosRuntime.Identity
