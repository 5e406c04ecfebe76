/-
# The passkey store

`store.rs` and `store_files.rs`: the credentials of one data directory are one encrypted file, and
a handle keeps a copy of it with the digest of the file it was read from.  Every operation on the
files is an exclusive section; what the file system and the random generator answer during it is
an `Access`.

A handle writes only over the file it has read, and after an error it reads the file again.
`IdentityStore.save_cases`, `persistFirstOwner_cases` and `persistGuestCandidate_cases` say what an
operation can do to the file and to the copy.
-/
import ElastosRuntime.Lib.JsonCode
import ElastosRuntime.Lib.Text
import ElastosRuntime.Primitives

namespace ElastosRuntime.Identity

open Text

/-! ## 1. The data -/

structure StoredCredential where
  credentialId : String
  publicKey : String
  signCount : Nat
  rpId : String
deriving DecidableEq

structure IdentityData where
  userId : String
  credentials : List StoredCredential
  removalGeneration : Nat
deriving DecidableEq

structure GuestCredentialHistory where
  removalGeneration : Nat
  keys : List (Bytes 32)
deriving DecidableEq

structure EncryptedEnvelope where
  version : Nat
  nonce : String
  ciphertext : String

def U64_MAX : Nat := 2 ^ 64 - 1

/-- AES-256-GCM and the JSON texts of what is encrypted, stored or hashed. -/
class IdentityCrates where
  encrypt : Bytes 32 → List UInt8 → List UInt8 → List UInt8
  decrypt : Bytes 32 → List UInt8 → List UInt8 → Option (List UInt8)
  dataToVec : IdentityData → List UInt8
  dataFromSlice : List UInt8 → Option IdentityData
  envelopeToVecPretty : EncryptedEnvelope → List UInt8
  envelopeFromSlice : List UInt8 → Option EncryptedEnvelope
  keyToVec : String × String × String → List UInt8

/-- What is encrypted or written as JSON is read back. -/
class LawfulIdentityCrates [IdentityCrates] : Prop where
  decrypt_encrypt : ∀ (key : Bytes 32) (nonce plaintext : List UInt8),
    IdentityCrates.decrypt key nonce (IdentityCrates.encrypt key nonce plaintext) = some plaintext
  dataFromSlice_dataToVec : ∀ data : IdentityData,
    IdentityCrates.dataFromSlice (IdentityCrates.dataToVec data) = some data
  envelopeFromSlice_envelopeToVecPretty : ∀ envelope : EncryptedEnvelope,
    IdentityCrates.envelopeFromSlice (IdentityCrates.envelopeToVecPretty envelope) = some envelope
  keyToVec_injective : Function.Injective IdentityCrates.keyToVec

/-- Why a call is refused; what a crate or the file system reports is dropped. -/
inductive IdentityError where
  | ceremonyCapacityExceeded
  | message (text : String)
  | cause
deriving DecidableEq

/-- A stored credential that stands for a candidate: the same key and no lower a counter. -/
def StoredCredential.Reconciles (existing candidate : StoredCredential) : Prop :=
  existing.credentialId = candidate.credentialId ∧ existing.publicKey = candidate.publicKey ∧
    existing.rpId = candidate.rpId ∧ candidate.signCount ≤ existing.signCount

abbrev IdentityResult := Except IdentityError

/-! ## 2. The files of the data directory -/

structure Disk where
  deviceKey : Option (Bytes 32)
  credentials : Option (List UInt8)

/-- The directory with other credentials. -/
def Disk.withCredentials (disk : Disk) (raw : List UInt8) : Disk :=
  { disk with credentials := some raw }

/-- What replacing a file comes to: before the rename an error keeps the old file, after it the new
one is in place. -/
inductive Replacement where
  | done
  | failedBefore
  | failedAfter
deriving DecidableEq

/-- What the file system and the random generator answer during one exclusive section. -/
structure Access where
  opens : Bool
  readsKey : Bool
  reads : Bool
  replacement : Replacement
  syncs : Bool
  rereads : Bool
  nonce : Bytes 12

def indeterminate : IdentityError := .message "identity replacement durability indeterminate"

/-- What is done to a file, by what replacing it comes to. -/
def Replacement.replace {α : Type} (new old : α) : Replacement → IdentityResult Unit × α
  | .done => (.ok (), new)
  | .failedBefore => (.error .cause, old)
  | .failedAfter => (.error indeterminate, new)

/-- A handle's copy of the credentials. -/
structure IdentityStore where
  deviceKey : Bytes 32
  data : Option IdentityData
  loadedDigest : Option (Bytes 32)

/-- What an operation on the files answers and what it leaves behind. -/
structure Outcome (α : Type) where
  result : IdentityResult α
  store : IdentityStore
  disk : Disk

section

variable [Crypto] [IdentityCrates]

def credentialKeyDigest (key : StoredCredential) : Bytes 32 :=
  Crypto.sha256 (IdentityCrates.keyToVec (key.credentialId, key.rpId, key.publicKey))

def generateUserId (credentialId : String) : String :=
  "identity_" ++ hexEncode ((Crypto.sha256 (utf8Bytes credentialId)).toList.take 16)

omit [Crypto] in
def encryptData (key : Bytes 32) (nonce : Bytes 12) (plaintext : List UInt8) : List UInt8 :=
  IdentityCrates.envelopeToVecPretty
    ⟨1, hexEncode nonce.toList, hexEncode (IdentityCrates.encrypt key nonce.toList plaintext)⟩

/-- What a crate answers, its cause dropped. -/
def ofCrate {α : Type} : Option α → IdentityResult α
  | some a => .ok a
  | none => .error .cause

def decryptData (key : Bytes 32) (data : List UInt8) : IdentityResult (List UInt8) := do
  let envelope ← ofCrate (IdentityCrates.envelopeFromSlice data)
  let nonceBytes ← ofCrate (hexDecode envelope.nonce)
  let ciphertext ← ofCrate (hexDecode envelope.ciphertext)
  if nonceBytes.length ≠ 12 then
    .error (.message s!"invalid nonce length {nonceBytes.length}")
  ofCrate (IdentityCrates.decrypt key nonceBytes ciphertext)

/-- The credential ids are pairwise different. -/
def IdentityData.DistinctIds (data : IdentityData) : Prop :=
  (data.credentials.map StoredCredential.credentialId).Nodup

instance (data : IdentityData) : Decidable data.DistinctIds :=
  inferInstanceAs (Decidable (List.Nodup _))

def validateCredentials (data : IdentityData) : IdentityResult Unit :=
  if data.DistinctIds then .ok ()
  else .error (.message "identity store contains duplicate credential IDs")

/-- What is read from a file of credentials. -/
def readCredentials (key : Bytes 32) (raw : List UInt8) : IdentityResult IdentityData := do
  let plaintext ← decryptData key raw
  let data ← ofCrate (IdentityCrates.dataFromSlice plaintext)
  validateCredentials data
  .ok data

/-- What is written to it. -/
def writeCredentials (key : Bytes 32) (nonce : Bytes 12) (data : IdentityData) : List UInt8 :=
  encryptData key nonce (IdentityCrates.dataToVec data)

/-- What another reader of the directory finds. -/
def Disk.saved (disk : Disk) : Option IdentityData :=
  match disk.deviceKey, disk.credentials with
  | some key, some raw => (readCredentials key raw).toOption
  | _, _ => none

namespace IdentityStore

/-! ## 3. Changing the copy -/

def addCredential (store : IdentityStore) (credential : StoredCredential) :
    String × IdentityStore :=
  match store.data with
  | some data =>
    (data.userId, { store with
      data := some { data with credentials := data.credentials ++ [credential] } })
  | none =>
    let userId := generateUserId credential.credentialId
    (userId, { store with data := some ⟨userId, [credential], 0⟩ })

end IdentityStore

def IdentityData.updateSignCount (data : IdentityData) (credentialId : String) (newCount : Nat) :
    IdentityData :=
  { data with credentials := data.credentials.map fun cred =>
      if cred.credentialId = credentialId then { cred with signCount := newCount } else cred }

def IdentityData.removeCredential (data : IdentityData) (credentialId : String) : IdentityData :=
  let kept := data.credentials.filter fun cred => cred.credentialId ≠ credentialId
  { data with
    credentials := kept
    removalGeneration :=
      if kept.length ≠ data.credentials.length then min (data.removalGeneration + 1) U64_MAX
      else data.removalGeneration }

namespace IdentityStore

def updateSignCount (store : IdentityStore) (credentialId : String) (newCount : Nat) :
    IdentityStore :=
  { store with data := store.data.map fun data => data.updateSignCount credentialId newCount }

def removeCredential (store : IdentityStore) (credentialId : String) : Bool × IdentityStore :=
  match store.data with
  | none => (false, store)
  | some data =>
    let left := data.removeCredential credentialId
    (decide (left.credentials.length ≠ data.credentials.length), { store with data := some left })

def getCredentials (store : IdentityStore) : List StoredCredential :=
  (store.data.map IdentityData.credentials).getD []

def userId (store : IdentityStore) : Option String := store.data.map IdentityData.userId

/-! ## 4. Reading and writing the files -/

def cleared (store : IdentityStore) : IdentityStore :=
  { store with data := none, loadedDigest := none }

def files (store : IdentityStore) (disk : Disk) (access : Access) : IdentityResult Unit :=
  if !access.opens || !access.readsKey then .error .cause
  else
    match disk.deviceKey with
    | none => .error (.message "identity device.key is missing")
    | some key =>
      if key ≠ store.deviceKey then
        .error (.message "identity device.key changed or is corrupt")
      else .ok ()

def reloadLocked (store : IdentityStore) (disk : Disk) (reads : Bool) :
    IdentityResult Unit × IdentityStore :=
  if !reads then (.error .cause, store.cleared)
  else
    match disk.credentials with
    | none => (.ok (), store.cleared)
    | some raw =>
      match readCredentials store.deviceKey raw with
      | .error e => (.error e, store.cleared)
      | .ok data =>
        (.ok (), { store with data := some data, loadedDigest := some (Crypto.sha256 raw) })

def load (store : IdentityStore) (disk : Disk) (access : Access) : Outcome Unit :=
  match store.files disk access with
  | .error e => ⟨.error e, store.cleared, disk⟩
  | .ok () =>
    let reloaded := store.reloadLocked disk access.reads
    ⟨reloaded.1, reloaded.2, disk⟩

def saveLocked (store : IdentityStore) (disk : Disk) (access : Access) : Outcome Unit :=
  match store.data with
  | none => ⟨.ok (), store, disk⟩
  | some data =>
    match validateCredentials data with
    | .error e => ⟨.error e, store, disk⟩
    | .ok () =>
      let encrypted := writeCredentials store.deviceKey access.nonce data
      match access.replacement.replace (some encrypted) disk.credentials with
      | (.error e, credentials) => ⟨.error e, store, { disk with credentials }⟩
      | (.ok (), credentials) =>
        ⟨.ok (), { store with loadedDigest := some (Crypto.sha256 encrypted) },
          { disk with credentials }⟩

end IdentityStore

/-- After an error the copy is read again; when that fails, it is empty. -/
def Outcome.recovered {α : Type} (access : Access) (outcome : Outcome α) : Outcome α :=
  match outcome.result with
  | .ok _ => outcome
  | .error _ =>
    { outcome with store := (outcome.store.reloadLocked outcome.disk access.rereads).2 }

namespace IdentityStore

def save (store : IdentityStore) (disk : Disk) (access : Access) : Outcome Unit :=
  match store.files disk access with
  | .error e => ⟨.error e, store.cleared, disk⟩
  | .ok () =>
    Outcome.recovered access <|
      if !access.reads then ⟨.error .cause, store, disk⟩
      else if disk.credentials.map Crypto.sha256 ≠ store.loadedDigest then
        ⟨.error (.message "identity credentials changed; reload before retrying"), store, disk⟩
      else store.saveLocked disk access

/-! ## 5. Enrollment -/

/-- Add a credential and save. -/
def appendLocked (store : IdentityStore) (disk : Disk) (access : Access)
    (candidate : StoredCredential) : Outcome String :=
  let added := store.addCredential candidate
  let saved := added.2.saveLocked disk access
  ⟨saved.result.map fun _ => added.1, saved.store, saved.disk⟩

def persistFirstOwner (store : IdentityStore) (disk : Disk) (access : Access)
    (candidate : StoredCredential) : Outcome String :=
  match store.files disk access with
  | .error e => ⟨.error e, store, disk⟩
  | .ok () =>
    Outcome.recovered access <|
      match store.reloadLocked disk access.reads with
      | (.error e, store) => ⟨.error e, store, disk⟩
      | (.ok (), store) =>
        match store.data with
        | some data =>
          match data.credentials with
          | [existing] =>
            if existing.credentialId ≠ candidate.credentialId ∨
                existing.publicKey ≠ candidate.publicKey ∨ existing.rpId ≠ candidate.rpId ∨
                existing.signCount < candidate.signCount then
              ⟨.error (.message "Enrollment credential conflicts"), store, disk⟩
            else if !access.syncs then ⟨.error indeterminate, store, disk⟩
            else ⟨.ok data.userId, store, disk⟩
          | _ => ⟨.error (.message "Enrollment credential history conflicts"), store, disk⟩
        | none => store.appendLocked disk access candidate

def guestCredentialHistory (store : IdentityStore) : IdentityResult GuestCredentialHistory :=
  match store.data with
  | none => .error (.message "guest credential history missing")
  | some data =>
    if 1024 < data.credentials.length ∨ data.removalGeneration = U64_MAX then
      .error (.message "guest credential history limit exceeded")
    else .ok ⟨data.removalGeneration, data.credentials.map credentialKeyDigest⟩

def persistGuestCandidate (store : IdentityStore) (disk : Disk) (access : Access)
    (candidate : StoredCredential) (previousHistory : GuestCredentialHistory) :
    Outcome StoredCredential :=
  match store.files disk access with
  | .error e => ⟨.error e, store, disk⟩
  | .ok () =>
    Outcome.recovered access <|
      match store.reloadLocked disk access.reads with
      | (.error e, store) => ⟨.error e, store, disk⟩
      | (.ok (), store) =>
        match store.guestCredentialHistory with
        | .error e => ⟨.error e, store, disk⟩
        | .ok currentHistory =>
          if currentHistory.removalGeneration ≠ previousHistory.removalGeneration ∨
              ¬previousHistory.keys ⊆ currentHistory.keys then
            ⟨.error (.message "guest credential history removed or changed keys"), store, disk⟩
          else
            match store.getCredentials.find? fun item =>
                item.credentialId = candidate.credentialId with
            | some existing =>
              if existing.publicKey ≠ candidate.publicKey ∨ existing.rpId ≠ candidate.rpId ∨
                  existing.signCount < candidate.signCount then
                ⟨.error (.message "guest credential conflicts"), store, disk⟩
              else if !access.syncs then ⟨.error indeterminate, store, disk⟩
              else ⟨.ok existing, store, disk⟩
            | none =>
              let saved := store.appendLocked disk access candidate
              ⟨saved.result.map fun _ => candidate, saved.store, saved.disk⟩

/-! ## 6. A new handle -/

/-- `IdentityStore::new`: the device key is read, or drawn and written. -/
def new (disk : Disk) (access : Access) (drawn : Bytes 32) : IdentityResult IdentityStore × Disk :=
  if !access.opens || !access.readsKey then (.error .cause, disk)
  else
    match disk.deviceKey, disk.credentials with
    | some key, none => (if access.syncs then .ok ⟨key, none, none⟩ else .error indeterminate, disk)
    | some key, some raw =>
      if !access.reads then (.error .cause, disk)
      else
        match decryptData key raw with
        | .error _ =>
          (.error (.message "identity credentials cannot be verified with device.key"), disk)
        | .ok _ => (if access.syncs then .ok ⟨key, none, none⟩ else .error indeterminate, disk)
    | none, some _ =>
      (.error (.message "identity credentials exist but device.key is missing"), disk)
    | none, none =>
      let replaced := access.replacement.replace (some drawn) disk.deviceKey
      (replaced.1.map fun _ => ⟨drawn, none, none⟩, { disk with deviceKey := replaced.2 })

end IdentityStore

namespace IdentityStore

/-! ## 7. What a copy is a copy of -/

/-- The store is an unchanged copy of a file, or of no file. -/
def Copies (key : Bytes 32) (raw : Option (List UInt8)) (store : IdentityStore) : Prop :=
  store.deviceKey = key ∧
    match raw with
    | none => store.data = none ∧ store.loadedDigest = none
    | some raw => ∃ data, readCredentials key raw = .ok data ∧ store.data = some data ∧
        store.loadedDigest = some (Crypto.sha256 raw)

/-- The store is empty or an unchanged copy of what is in the directory. -/
def Refreshed (key : Bytes 32) (disk : Disk) (store : IdentityStore) : Prop :=
  Copies key none store ∨ Copies key disk.credentials store

variable {key : Bytes 32} {disk : Disk} {access : Access} {store : IdentityStore}
  {data : IdentityData} {raw : Option (List UInt8)} {candidate : StoredCredential}

theorem Copies.digest_eq (h : Copies key raw store) :
    store.loadedDigest = raw.map Crypto.sha256 := by
  cases raw with
  | none => exact h.2.2
  | some raw =>
    obtain ⟨-, data, -, -, hdigest⟩ := h
    exact hdigest

theorem Copies.readable (h : Copies key raw store) (hdata : store.data = some data) :
    ∃ file, raw = some file ∧ readCredentials key file = .ok data := by
  cases raw with
  | none =>
    rw [h.2.1] at hdata
    cases hdata
  | some file =>
    obtain ⟨-, data', hread, hdata', -⟩ := h
    rw [hdata', Option.some.injEq] at hdata
    exact ⟨file, rfl, hdata ▸ hread⟩

theorem Copies.eq_none (h : Copies key raw store) (hdata : store.data = none) : raw = none := by
  cases raw with
  | none => rfl
  | some file =>
    obtain ⟨-, data, -, hsome, -⟩ := h
    rw [hsome] at hdata
    cases hdata

omit [Crypto] in
theorem distinctIds_of_readCredentials {file : List UInt8}
    (h : readCredentials key file = .ok data) : data.DistinctIds := by
  simp only [readCredentials, bind, Except.bind] at h
  split at h
  · cases h
  · split at h
    · cases h
    · rename_i parsed _
      by_cases hdistinct : parsed.DistinctIds
      · simp only [validateCredentials, hdistinct, if_true, Except.ok.injEq] at h
        exact h ▸ hdistinct
      · simp [validateCredentials, hdistinct] at h

omit [Crypto] in
/-- What is written is read back. -/
theorem readCredentials_writeCredentials [LawfulIdentityCrates] (h : data.DistinctIds)
    (nonce : Bytes 12) : readCredentials key (writeCredentials key nonce data) = .ok data := by
  have hplain : decryptData key (writeCredentials key nonce data) =
      .ok (IdentityCrates.dataToVec data) := by
    simp [decryptData, writeCredentials, encryptData, ofCrate, hexDecode_hexEncode,
      LawfulIdentityCrates.envelopeFromSlice_envelopeToVecPretty,
      LawfulIdentityCrates.decrypt_encrypt, bind, Except.bind]
  simp [readCredentials, hplain, ofCrate, LawfulIdentityCrates.dataFromSlice_dataToVec,
    validateCredentials, h, bind, Except.bind]

theorem copies_cleared (h : store.deviceKey = key) : Copies key none store.cleared :=
  ⟨h, rfl, rfl⟩

theorem refreshed_cleared (h : store.deviceKey = key) : Refreshed key disk store.cleared :=
  .inl (copies_cleared h)

theorem reloadLocked_cases (h : store.deviceKey = key) (disk : Disk) (reads : Bool) :
    (∃ e, store.reloadLocked disk reads = (.error e, store.cleared)) ∨
      ∃ store', store.reloadLocked disk reads = (.ok (), store') ∧
        Copies key disk.credentials store' := by
  subst h
  unfold reloadLocked
  split
  · exact .inl ⟨_, rfl⟩
  · split
    · rename_i hnone
      exact .inr ⟨_, rfl, hnone ▸ copies_cleared rfl⟩
    · rename_i raw hsome
      split
      · exact .inl ⟨_, rfl⟩
      · rename_i data hread
        rw [hsome]
        exact .inr ⟨_, rfl, rfl, data, hread, rfl, rfl⟩

theorem refreshed_reloadLocked (h : store.deviceKey = key) (reads : Bool) :
    Refreshed key disk (store.reloadLocked disk reads).2 := by
  obtain ⟨e, hr⟩ | ⟨store', hr, hcopies⟩ := reloadLocked_cases h disk reads
  · rw [hr]
    exact refreshed_cleared h
  · rw [hr]
    exact .inr hcopies

/-- The data has only grown since the history was taken, and may still take a candidate. -/
def Extends (data : IdentityData) (history : GuestCredentialHistory) : Prop :=
  data.credentials.length ≤ 1024 ∧ data.removalGeneration ≠ U64_MAX ∧
    data.removalGeneration = history.removalGeneration ∧
      ∀ key ∈ history.keys, key ∈ data.credentials.map credentialKeyDigest

/-! ## 8. What an operation can do -/

/-- A refusal: the directory is as it was and the copy is refreshed. -/
def Refused {α : Type} (key : Bytes 32) (disk : Disk) (outcome : Outcome α) : Prop :=
  (∃ e, outcome.result = .error e) ∧ outcome.disk = disk ∧ Refreshed key disk outcome.store

/-- An attempt to save: refused, done, or done with an error because the directory could not be
synced. -/
inductive Attempt {α : Type} (key : Bytes 32) (access : Access) (disk : Disk) (data : IdentityData)
    (answer : α) (outcome : Outcome α) : Prop
  | refused (h : Refused key disk outcome)
  | done (hdistinct : data.DistinctIds) (hresult : outcome.result = .ok answer)
      (hdisk : outcome.disk = disk.withCredentials (writeCredentials key access.nonce data))
      (hstore : Copies key outcome.disk.credentials outcome.store)
  | indeterminate (hdistinct : data.DistinctIds) (hafter : access.replacement = .failedAfter)
      (hresult : outcome.result = .error indeterminate)
      (hdisk : outcome.disk = disk.withCredentials (writeCredentials key access.nonce data))
      (hstore : Refreshed key outcome.disk outcome.store)

/-- An attempt before the copy is refreshed. -/
inductive RawAttempt {α : Type} (key : Bytes 32) (access : Access) (disk : Disk)
    (data : IdentityData) (answer : α) (outcome : Outcome α) : Prop
  | refused {e : IdentityError} (hresult : outcome.result = .error e) (hdisk : outcome.disk = disk)
      (hkey : outcome.store.deviceKey = key)
  | done (hdistinct : data.DistinctIds) (hresult : outcome.result = .ok answer)
      (hdisk : outcome.disk = disk.withCredentials (writeCredentials key access.nonce data))
      (hstore : Copies key outcome.disk.credentials outcome.store)
  | indeterminate (hdistinct : data.DistinctIds) (hafter : access.replacement = .failedAfter)
      (hresult : outcome.result = .error indeterminate)
      (hdisk : outcome.disk = disk.withCredentials (writeCredentials key access.nonce data))
      (hkey : outcome.store.deviceKey = key)

theorem refused_recovered {α : Type} {outcome : Outcome α} {e : IdentityError}
    (hresult : outcome.result = .error e) (hdisk : outcome.disk = disk)
    (hkey : outcome.store.deviceKey = key) : Refused key disk (outcome.recovered access) := by
  have hsame : outcome.recovered access = { outcome with
      store := (outcome.store.reloadLocked outcome.disk access.rereads).2 } := by
    simp [Outcome.recovered, hresult]
  rw [hsame]
  exact ⟨⟨e, hresult⟩, hdisk, hdisk ▸ refreshed_reloadLocked hkey access.rereads⟩

theorem RawAttempt.recovered {α : Type} {answer : α} {outcome : Outcome α}
    (h : RawAttempt key access disk data answer outcome) :
    Attempt key access disk data answer (outcome.recovered access) := by
  cases h with
  | refused hresult hdisk hkey => exact .refused (refused_recovered hresult hdisk hkey)
  | done hdistinct hresult hdisk hstore =>
    have hsame : outcome.recovered access = outcome := by simp [Outcome.recovered, hresult]
    rw [hsame]
    exact .done hdistinct hresult hdisk hstore
  | indeterminate hdistinct hafter hresult hdisk hkey =>
    have hsame : outcome.recovered access = { outcome with
        store := (outcome.store.reloadLocked outcome.disk access.rereads).2 } := by
      simp [Outcome.recovered, hresult]
    rw [hsame]
    exact .indeterminate hdistinct hafter hresult hdisk (refreshed_reloadLocked hkey _)

theorem RawAttempt.map {α β : Type} {answer : α} {outcome : Outcome α}
    (h : RawAttempt key access disk data answer outcome) (f : α → β) :
    RawAttempt key access disk data (f answer)
      ⟨outcome.result.map f, outcome.store, outcome.disk⟩ := by
  cases h with
  | refused hresult hdisk hkey => exact .refused (by rw [hresult]; rfl) hdisk hkey
  | done hdistinct hresult hdisk hstore =>
    exact .done hdistinct (by rw [hresult]; rfl) hdisk hstore
  | indeterminate hdistinct hafter hresult hdisk hkey =>
    exact .indeterminate hdistinct hafter (by rw [hresult]; rfl) hdisk hkey

variable [LawfulIdentityCrates]

theorem saveLocked_cases (hkey : store.deviceKey = key) (hdata : store.data = some data) :
    RawAttempt key access disk data () (store.saveLocked disk access) := by
  subst hkey
  unfold saveLocked
  rw [hdata]
  by_cases hdistinct : data.DistinctIds
  · simp only [validateCredentials, hdistinct, if_true]
    cases hrep : access.replacement with
    | done =>
      refine .done hdistinct rfl rfl ⟨rfl, data, ?_, rfl, rfl⟩
      exact readCredentials_writeCredentials hdistinct access.nonce
    | failedBefore => exact .refused rfl rfl rfl
    | failedAfter => exact .indeterminate hdistinct hrep rfl rfl rfl
  · simp only [validateCredentials, hdistinct, if_false]
    exact .refused rfl rfl rfl

/-- Saving fails, or writes over the file that was read. -/
theorem save_cases (hkey : store.deviceKey = key) (hdata : store.data = some data) :
    Refused key disk (store.save disk access) ∨
      disk.credentials.map Crypto.sha256 = store.loadedDigest ∧
        Attempt key access disk data () (store.save disk access) := by
  unfold save
  split
  · exact .inl ⟨⟨_, rfl⟩, rfl, refreshed_cleared hkey⟩
  · by_cases hreads : access.reads = true
    · by_cases hdigest : disk.credentials.map Crypto.sha256 = store.loadedDigest
      · simp only [hreads, hdigest, Bool.not_true, Bool.false_eq_true, if_false, ne_eq,
          not_true_eq_false]
        exact .inr ⟨trivial, (saveLocked_cases hkey hdata).recovered⟩
      · simp only [hreads, hdigest, Bool.not_true, Bool.false_eq_true, if_false, ne_eq,
          not_false_eq_true, if_true]
        exact .inl (refused_recovered rfl rfl hkey)
    · simp only [hreads, Bool.not_false, if_true]
      exact .inl (refused_recovered rfl rfl hkey)

/-- What adding to an empty or a present copy proposes. -/
theorem appendLocked_cases (hkey : store.deviceKey = key)
    (hdata : (store.addCredential candidate).2.data = some data) :
    RawAttempt key access disk data (store.addCredential candidate).1
      (store.appendLocked disk access candidate) := by
  have hadded : (store.addCredential candidate).2.deviceKey = key := by
    unfold addCredential
    split <;> exact hkey
  exact (saveLocked_cases hadded hdata).map fun _ => (store.addCredential candidate).1

/-- What `persist_first_owner` can do; it stops before the copy is touched when the files cannot
be opened. -/
inductive FirstOwner (key : Bytes 32) (access : Access) (disk : Disk) (store : IdentityStore)
    (candidate : StoredCredential) (outcome : Outcome String) : Prop
  | closed {e : IdentityError} (h : outcome = ⟨.error e, store, disk⟩)
  | refused (h : Refused key disk outcome)
  | present {file : List UInt8} {data : IdentityData} {existing : StoredCredential}
      (hfile : disk.credentials = some file) (hread : readCredentials key file = .ok data)
      (hone : data.credentials = [existing]) (hsame : existing.Reconciles candidate)
      (hresult : outcome.result = .ok data.userId) (hdisk : outcome.disk = disk)
      (hstore : Copies key disk.credentials outcome.store)
  | added (hempty : disk.credentials = none)
      (h : Attempt key access disk ⟨generateUserId candidate.credentialId, [candidate], 0⟩
        (generateUserId candidate.credentialId) outcome)

theorem persistFirstOwner_cases (hkey : store.deviceKey = key) :
    FirstOwner key access disk store candidate
      (store.persistFirstOwner disk access candidate) := by
  unfold persistFirstOwner
  split
  · exact .closed rfl
  · obtain ⟨e, hr⟩ | ⟨loaded, hr, hcopies⟩ := reloadLocked_cases hkey disk access.reads
    · rw [hr]
      exact .refused (refused_recovered rfl rfl hkey)
    · rw [hr]
      have hloaded : loaded.deviceKey = key := hcopies.1
      dsimp only
      split
      · rename_i data hdata
        obtain ⟨file, hfile, hread⟩ := hcopies.readable hdata
        split
        · rename_i existing hone
          split
          · exact .refused (refused_recovered rfl rfl hloaded)
          · rename_i hsame
            simp only [not_or, Decidable.not_not, Nat.not_lt] at hsame
            split
            · exact .refused (refused_recovered rfl rfl hloaded)
            · exact .present hfile hread hone hsame rfl rfl hcopies
        · exact .refused (refused_recovered rfl rfl hloaded)
      · rename_i hnone
        have hadded : loaded.addCredential candidate =
            (generateUserId candidate.credentialId, { loaded with
              data := some ⟨generateUserId candidate.credentialId, [candidate], 0⟩ }) := by
          simp only [addCredential, hnone]
        have hattempt : RawAttempt key access disk _ _ (loaded.appendLocked disk access candidate) :=
          appendLocked_cases hloaded (congrArg (fun a => a.2.data) hadded)
        rw [hadded] at hattempt
        exact .added (hcopies.eq_none hnone) hattempt.recovered

/-- What `persist_guest_candidate` can do. -/
inductive GuestCandidate (key : Bytes 32) (access : Access) (disk : Disk) (store : IdentityStore)
    (candidate : StoredCredential) (history : GuestCredentialHistory)
    (outcome : Outcome StoredCredential) : Prop
  | closed {e : IdentityError} (h : outcome = ⟨.error e, store, disk⟩)
  | refused (h : Refused key disk outcome)
  | present {file : List UInt8} {data : IdentityData} {existing : StoredCredential}
      (hfile : disk.credentials = some file) (hread : readCredentials key file = .ok data)
      (hextends : Extends data history) (hmem : existing ∈ data.credentials)
      (hsame : existing.Reconciles candidate) (hresult : outcome.result = .ok existing)
      (hdisk : outcome.disk = disk) (hstore : Copies key disk.credentials outcome.store)
  | added {file : List UInt8} {data : IdentityData} (hfile : disk.credentials = some file)
      (hread : readCredentials key file = .ok data) (hextends : Extends data history)
      (h : Attempt key access disk { data with credentials := data.credentials ++ [candidate] }
        candidate outcome)

variable {history : GuestCredentialHistory}

omit [LawfulIdentityCrates] in
theorem guestCredentialHistory_eq_ok (hdata : store.data = some data) :
    store.guestCredentialHistory = .ok history ↔
      data.credentials.length ≤ 1024 ∧ data.removalGeneration ≠ U64_MAX ∧
        history = ⟨data.removalGeneration, data.credentials.map credentialKeyDigest⟩ := by
  simp only [guestCredentialHistory, hdata]
  split
  · rename_i hlimit
    simp only [reduceCtorEq, false_iff, not_and]
    intro hlength hgeneration
    exact absurd hlimit (by simp [hgeneration, Nat.not_lt.mpr hlength])
  · rename_i hlimit
    simp only [not_or, Nat.not_lt] at hlimit
    simp only [Except.ok.injEq, hlimit, ne_eq, not_false_eq_true, true_and]
    exact eq_comm

theorem persistGuestCandidate_cases (hkey : store.deviceKey = key) :
    GuestCandidate key access disk store candidate history
      (store.persistGuestCandidate disk access candidate history) := by
  unfold persistGuestCandidate
  split
  · exact .closed rfl
  · obtain ⟨e, hr⟩ | ⟨loaded, hr, hcopies⟩ := reloadLocked_cases hkey disk access.reads
    · rw [hr]
      exact .refused (refused_recovered rfl rfl hkey)
    · rw [hr]
      have hloaded : loaded.deviceKey = key := hcopies.1
      dsimp only
      split
      · exact .refused (refused_recovered rfl rfl hloaded)
      · rename_i current hcurrent
        obtain ⟨data, hdata⟩ : ∃ data, loaded.data = some data := by
          cases hdata : loaded.data with
          | none => simp [guestCredentialHistory, hdata] at hcurrent
          | some data => exact ⟨data, rfl⟩
        obtain ⟨hlength, hgeneration, rfl⟩ := (guestCredentialHistory_eq_ok hdata).mp hcurrent
        obtain ⟨file, hfile, hread⟩ := hcopies.readable hdata
        split
        · exact .refused (refused_recovered rfl rfl hloaded)
        · rename_i hhistory
          simp only [not_or, Decidable.not_not] at hhistory
          have hextends : Extends data history := ⟨hlength, hgeneration, hhistory.1, fun _ h => hhistory.2 h⟩
          split
          · rename_i existing hfind
            have hid := List.find?_some hfind
            have hmem := List.mem_of_find?_eq_some hfind
            simp only [getCredentials, hdata, Option.map_some, Option.getD_some] at hmem
            simp only [decide_eq_true_eq] at hid
            split
            · exact .refused (refused_recovered rfl rfl hloaded)
            · rename_i hsame
              simp only [not_or, Decidable.not_not, Nat.not_lt] at hsame
              split
              · exact .refused (refused_recovered rfl rfl hloaded)
              · exact .present hfile hread hextends hmem ⟨hid, hsame⟩ rfl rfl hcopies
          · have hadded : (loaded.addCredential candidate).2.data =
                some { data with credentials := data.credentials ++ [candidate] } := by
              simp only [addCredential, hdata]
            exact .added hfile hread hextends
              ((appendLocked_cases hloaded hadded).map fun _ => candidate).recovered

end IdentityStore

end

/-! ## 9. Crates to evaluate the model with -/

/-- The first 32 bytes. -/
def headDigest (bytes : List UInt8) : Bytes 32 :=
  ⟨(bytes ++ List.replicate 32 0).take 32, length_take_padded bytes⟩

/-- A hash that tells texts apart by their heads, and so encrypted files by their nonces. -/
@[reducible] def headEchoCrypto : Crypto where
  sha256 := headDigest
  verifyingKey := id
  sign := keyEchoCrypto.sign
  verify := keyEchoCrypto.verify

def credentialFields (credential : StoredCredential) : List (List UInt8) :=
  [utf8Bytes credential.credentialId, utf8Bytes credential.publicKey, utf8Bytes credential.rpId,
    List.replicate credential.signCount 2]

def credentialsOfFields : List (List UInt8) → Option (List StoredCredential)
  | [] => some []
  | id :: key :: party :: count :: rest => do
    let credentialId ← ofUtf8Bytes? id
    let publicKey ← ofUtf8Bytes? key
    let rpId ← ofUtf8Bytes? party
    let credentials ← credentialsOfFields rest
    some (⟨credentialId, publicKey, count.length, rpId⟩ :: credentials)
  | _ => none

theorem credentialsOfFields_flatMap (credentials : List StoredCredential) :
    credentialsOfFields (credentials.flatMap credentialFields) = some credentials := by
  induction credentials with
  | nil => rfl
  | cons credential credentials ih =>
    simp [credentialFields, credentialsOfFields, ofUtf8Bytes?_utf8Bytes, ih]

/-- A cipher that hides nothing, and texts that are the fields in a row. -/
@[reducible] def plainIdentityCrates : IdentityCrates where
  encrypt := fun _ _ plaintext => plaintext
  decrypt := fun _ _ ciphertext => some ciphertext
  dataToVec := fun data => Json.encodeRow (utf8Bytes data.userId ::
    List.replicate data.removalGeneration 2 :: data.credentials.flatMap credentialFields)
  dataFromSlice := fun bytes =>
    match Json.decodeRow bytes with
    | some (user :: generation :: fields) => do
      let userId ← ofUtf8Bytes? user
      let credentials ← credentialsOfFields fields
      some ⟨userId, credentials, generation.length⟩
    | _ => none
  envelopeToVecPretty := fun envelope => Json.encodeRow
    [List.replicate envelope.version 2, utf8Bytes envelope.nonce, utf8Bytes envelope.ciphertext]
  envelopeFromSlice := fun bytes =>
    match Json.decodeRow bytes with
    | some [version, nonce, ciphertext] => do
      let nonce ← ofUtf8Bytes? nonce
      let ciphertext ← ofUtf8Bytes? ciphertext
      some ⟨version.length, nonce, ciphertext⟩
    | _ => none
  keyToVec := fun key => Json.encodeRow [utf8Bytes key.1, utf8Bytes key.2.1, utf8Bytes key.2.2]

theorem plainIdentityCrates_lawful : @LawfulIdentityCrates plainIdentityCrates :=
  letI := plainIdentityCrates
  { decrypt_encrypt := fun _ _ _ => rfl
    dataFromSlice_dataToVec := fun data => by
      simp [IdentityCrates.dataFromSlice, IdentityCrates.dataToVec, Json.decodeRow_encodeRow,
        ofUtf8Bytes?_utf8Bytes, credentialsOfFields_flatMap]
    envelopeFromSlice_envelopeToVecPretty := fun envelope => by
      simp [IdentityCrates.envelopeFromSlice, IdentityCrates.envelopeToVecPretty,
        Json.decodeRow_encodeRow, ofUtf8Bytes?_utf8Bytes]
    keyToVec_injective := fun a b h => by
      have hrow := congrArg Json.decodeRow h
      simp only [IdentityCrates.keyToVec, Json.decodeRow_encodeRow, Option.some.injEq,
        List.cons.injEq, and_true] at hrow
      obtain ⟨h₁, h₂, h₃⟩ := hrow
      exact Prod.ext (utf8Bytes_injective h₁)
        (Prod.ext (utf8Bytes_injective h₂) (utf8Bytes_injective h₃)) }

end ElastosRuntime.Identity
