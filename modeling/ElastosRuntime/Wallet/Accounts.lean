/-
# Operations on accounts

`account.rs`: linking an external account, creating a managed one, its recovery key, revoking,
renaming, and the default account of an intent.

An operation works on the store in place and may fail behind changes it has already made, so it is a
program that keeps its state when it fails (`Operation`).  It is only ever carried out with saving
deferred (`execute_effectful_wallet_request`), where the `save` at its end answers `Ok` and does
nothing; it is left out.

Clock readings, random bytes and freshly drawn keys are what a call is given (`Circumstances`).
-/
import ElastosRuntime.Lib.Records
import ElastosRuntime.Lib.Stream
import ElastosRuntime.Wallet.Signing

namespace ElastosRuntime.Wallet

open Contracts Text WalletCurve WalletSigner Records Streams Streams.Effect

/-! ## 1. Operations -/

/-- `Response::Error` -/
structure Refusal where
  code : String
  message : String
deriving DecidableEq

abbrev Operation (α : Type) := Effect WalletStore Refusal α

/-- An error text under a code. -/
def refuse {α : Type} (code : String) (result : Except String α) : Except Refusal α :=
  result.mapError (Refusal.mk code)

@[simp] theorem refuse_eq_ok {α : Type} {code : String} {result : Except String α} {a : α} :
    refuse code result = .ok a ↔ result = .ok a := mapError_eq_ok

/-- A call refuses with a code. -/
def denyIf (bad : Prop) [Decidable bad] (code message : String) : Except Refusal Unit :=
  failIf bad ⟨code, message⟩

@[simp] theorem denyIf_eq_ok {bad : Prop} [Decidable bad] {code message : String} {u : Unit} :
    denyIf bad code message = .ok u ↔ ¬bad := failIf_eq_ok

/-- What a call finds: the readings of the clock in their order, nonces for the keys it encrypts,
the keys it draws, and the bytes of a challenge. -/
structure Circumstances [WalletSigner] where
  clock : Nat → Nat
  nonces : Nat → Bytes 12
  keys : List SigningKey
  challengeId : Bytes 16
  challengeNonce : Bytes 12

def ensureInitialized (storageKey : Option (Bytes 32)) : Except Refusal Unit :=
  denyIf storageKey.isNone "not_initialized" "wallet-provider is not initialized"

/-! ## 2. Finding an account -/

def activeAccount (accounts : List LinkedAccount) (principalId accountId : String) :
    Option LinkedAccount :=
  accounts.find? fun account => account.principalId == principalId &&
    account.accountId == accountId && account.revokedAt.isNone

/-- The account of a principal by its id, whether revoked or not. -/
def isAccount (principalId accountId : String) (account : LinkedAccount) : Bool :=
  account.principalId == principalId && account.accountId == accountId

def isEip155Namespace (value : String) : Bool := startsWith value "eip155:"

/-- `max_by_key(|default| default.set_at)`, the last of several. -/
def latestDefault : List DefaultWalletAccount → Option DefaultWalletAccount
  | [] => none
  | default :: rest =>
    match latestDefault rest with
    | none => some default
    | some later => if default.setAt ≤ later.setAt then some later else some default

def defaultAccountRecord (store : WalletStore) (principalId chainNamespace intent : String) :
    Option DefaultWalletAccount :=
  if isEip155Namespace chainNamespace then
    latestDefault <| store.defaultAccounts.filter fun default =>
      default.principalId == principalId && default.intent == intent &&
        isEip155Namespace default.chainNamespace &&
        (activeAccount store.accounts principalId default.accountId).any fun account =>
          chainNamespacesCompatible account.chainNamespace chainNamespace
  else
    store.defaultAccounts.find? fun default => default.principalId == principalId &&
      default.chainNamespace == chainNamespace && default.intent == intent

/-- The label an account is given: none for a blank one. -/
def givenLabel (label : Option String) : Option String := label.filter fun label => trim label ≠ ""

/-- The record of an account takes the place of the one it had, or comes last. -/
def putAccount (account : LinkedAccount) (accounts : List LinkedAccount) : List LinkedAccount :=
  if accounts.any (isAccount account.principalId account.accountId) then
    modifyFirst (isAccount account.principalId account.accountId) (fun _ => account) accounts
  else accounts ++ [account]

/-! ## 3. Inputs -/

structure LinkAccountInput where
  principalId : String
  proofBindingId : String
  chainNamespace : String
  address : String
  proofType : String
  connectorId : Option String
  label : Option String

def LinkAccountInput.validate (v : LinkAccountInput) : Except String Unit := do
  validateOpaqueId v.principalId "principal_id"
  validateOpaqueId v.proofBindingId "proof_binding_id"
  validateOpaqueId v.chainNamespace "chain_namespace"
  validateOpaqueId v.address "address"
  validateOpaqueId v.proofType "proof_type"
  failIf (isManagedProofType v.proofType)
    "managed accounts must be created through create_managed_account"
  let connectorId ← okOr v.connectorId "external wallet links require a connector_id"
  validateOpaqueId connectorId "connector_id"
  v.label.forM validateLabel

structure CreateManagedAccountInput where
  principalId : String
  chainNamespace : String
  label : Option String
  createNew : Bool

def CreateManagedAccountInput.validate (v : CreateManagedAccountInput) : Except String Unit := do
  validateOpaqueId v.principalId "principal_id"
  validateManagedChainNamespace v.chainNamespace
  v.label.forM validateLabel

structure SetDefaultAccountInput where
  principalId : String
  chainNamespace : String
  intent : String
  accountId : String

def validateDefaultAccountLookup (principalId chainNamespace intent : String) :
    Except String Unit := do
  validateOpaqueId principalId "principal_id"
  validateOpaqueId chainNamespace "chain_namespace"
  validateSigningIntent intent

def SetDefaultAccountInput.validate (v : SetDefaultAccountInput) : Except String Unit := do
  validateOpaqueId v.principalId "principal_id"
  validateOpaqueId v.chainNamespace "chain_namespace"
  validateSigningIntent v.intent
  validateOpaqueId v.accountId "account_id"

structure ImportManagedRecoveryKeyInput where
  principalId : String
  recoveryKey : Json
  label : Option String

def ImportManagedRecoveryKeyInput.validate (v : ImportManagedRecoveryKeyInput) :
    Except String Unit := do
  validateOpaqueId v.principalId "principal_id"
  v.label.forM validateLabel

/-! ## 4. Linked accounts -/

def linkAccount (storageKey : Option (Bytes 32)) (now : Nat) (input : LinkAccountInput) :
    Operation LinkedAccount := do
  ensureInitialized storageKey
  refuse "invalid_request" input.validate
  let account : LinkedAccount :=
    { accountId := accountId input.chainNamespace input.address
      principalId := input.principalId
      proofBindingId := input.proofBindingId
      chainNamespace := input.chainNamespace
      address := input.address
      proofType := input.proofType
      connectorId := input.connectorId
      label := givenLabel input.label
      linkedAt := now
      revokedAt := none }
  updates fun store => { store with accounts := putAccount account store.accounts }
  pure account

def revokeAccount (storageKey : Option (Bytes 32)) (now : Nat) (principalId accountId : String) :
    Operation LinkedAccount := do
  ensureInitialized storageKey
  refuse "invalid_request" (validateOpaqueId principalId "principal_id")
  refuse "invalid_request" (validateOpaqueId accountId "account_id")
  let accounts ← reads WalletStore.accounts
  let account ← okOr (accounts.find? (isAccount principalId accountId))
    (⟨"not_found", "linked account not found"⟩ : Refusal)
  let revoked := { account with revokedAt := some now }
  updates fun store =>
    { store with
      accounts := modifyFirst (isAccount principalId accountId) (fun _ => revoked) store.accounts
      managedWallets := store.managedWallets.map fun secret =>
        if secret.accountId = accountId ∧ secret.principalId = principalId then
          { secret with revokedAt := some now }
        else secret
      defaultAccounts := store.defaultAccounts.filter fun default =>
        !(default.principalId == principalId && default.accountId == accountId) }
  pure revoked

def renameAccount (storageKey : Option (Bytes 32)) (principalId accountId label : String) :
    Operation LinkedAccount := do
  ensureInitialized storageKey
  refuse "invalid_request" (validateOpaqueId principalId "principal_id")
  refuse "invalid_request" (validateOpaqueId accountId "account_id")
  let label := trim label
  denyIf (label = "") "invalid_request" "label is required"
  refuse "invalid_request" (validateLabel label)
  let accounts ← reads WalletStore.accounts
  let account ← okOr (activeAccount accounts principalId accountId)
    (⟨"not_found", "active linked account not found"⟩ : Refusal)
  let renamed := { account with label := some label }
  updates fun store =>
    { store with
      accounts := modifyFirst (fun account => isAccount principalId accountId account &&
        account.revokedAt.isNone) (fun _ => renamed) store.accounts }
  pure renamed

def setDefaultAccount (storageKey : Option (Bytes 32)) (now : Nat) (input : SetDefaultAccountInput) :
    Operation (DefaultWalletAccount × LinkedAccount) := do
  ensureInitialized storageKey
  refuse "invalid_request" input.validate
  let accounts ← reads WalletStore.accounts
  let account ← okOr (activeAccount accounts input.principalId input.accountId)
    (⟨"not_found", "active linked account not found"⟩ : Refusal)
  denyIf (account.chainNamespace ≠ input.chainNamespace) "invalid_request"
    "default wallet chain must match the linked account"
  let default : DefaultWalletAccount :=
    { schema := "elastos.wallet.default_account/v1"
      principalId := input.principalId
      chainNamespace := input.chainNamespace
      intent := input.intent
      accountId := input.accountId
      setAt := now }
  updates fun store =>
    { store with
      defaultAccounts := (store.defaultAccounts.filter fun existing =>
        if existing.principalId ≠ default.principalId ∨ existing.intent ≠ default.intent then true
        else if isEip155Namespace default.chainNamespace ∧
            isEip155Namespace existing.chainNamespace then false
        else existing.chainNamespace != default.chainNamespace) ++ [default] }
  pure (default, account)

/-- `default_account`, which changes nothing. -/
def defaultAccount (storageKey : Option (Bytes 32)) (store : WalletStore)
    (principalId chainNamespace intent : String) :
    Except Refusal (DefaultWalletAccount × LinkedAccount) := do
  ensureInitialized storageKey
  refuse "invalid_request" (validateDefaultAccountLookup principalId chainNamespace intent)
  let default ← okOr (defaultAccountRecord store principalId chainNamespace intent)
    ⟨"not_found", "default linked account not set"⟩
  let account ← okOr (activeAccount store.accounts principalId default.accountId)
    ⟨"not_found", "default linked account is not active"⟩
  pure (default, account)

/-! ## 5. Managed accounts -/

section

variable [Crypto] [WalletSigner] [BitcoinCrate] [Custody.Aes256Gcm]

/-- `account_signing_status` -/
def accountSigningStatus (storageKey : Option (Bytes 32)) (store : WalletStore)
    (account : LinkedAccount) : Bool × String :=
  if isManagedProofType account.proofType = false then
    if account.connectorId.isSome then (true, "external_connector_available")
    else (false, "external_connector_required")
  else
    match managedSigningKeyForAccount storageKey store.managedWallets account with
    | .ok _ => (true, "managed_key_available")
    | .error err =>
      if err = MANAGED_KEY_NOT_FOUND then (false, "managed_key_missing")
      else (false, "managed_key_unavailable")

structure AccountSummary where
  account : LinkedAccount
  signingAvailable : Bool
  signingStatus : String

/-- `accounts`, which changes nothing. -/
def accounts (storageKey : Option (Bytes 32)) (store : WalletStore) (principalId : String)
    (includeRevoked : Bool) :
    Except Refusal (List AccountSummary × List DefaultWalletAccount) := do
  ensureInitialized storageKey
  refuse "invalid_request" (validateOpaqueId principalId "principal_id")
  let listed := store.accounts.filter fun account =>
    account.principalId == principalId && (includeRevoked || account.revokedAt.isNone)
  let defaultAccounts := store.defaultAccounts.filter fun default =>
    default.principalId == principalId &&
      (activeAccount store.accounts default.principalId default.accountId).any fun account =>
        account.chainNamespace == default.chainNamespace
  pure (listed.map fun account =>
    let (signingAvailable, signingStatus) := accountSigningStatus storageKey store account
    ⟨account, signingAvailable, signingStatus⟩, defaultAccounts)

/-- The loop over the accounts whose key may be used again: the first account that is exactly the
one asked for, and the distinct keys. -/
def reusableKeys (storageKey : Option (Bytes 32)) (store : WalletStore)
    (input : CreateManagedAccountInput) (proofType keyScope : String) :
    Option LinkedAccount × List SigningKey :=
  let eligible := store.accounts.filter fun account =>
    account.principalId == input.principalId && account.revokedAt.isNone &&
      match managedKeyScope account.chainNamespace with
      | .ok scope => scope == keyScope
      | .error _ => false
  eligible.foldl (fun found account =>
    match managedSigningKeyForAccount storageKey store.managedWallets account with
    | .error _ => found
    | .ok signingKey =>
      (if account.chainNamespace = input.chainNamespace ∧ account.proofType = proofType ∧
          found.1.isNone then some account else found.1,
        if found.2.all fun existing => signingKeyToBytes existing != signingKeyToBytes signingKey
        then found.2 ++ [signingKey] else found.2)) (none, [])

/-- The loop that draws keys until one has no account yet.  A call whose keys run out has not
returned. -/
def unusedKey (store : WalletStore) (chainNamespace : String) :
    List SigningKey → Except Refusal (SigningKey × String × String)
  | [] => .error ⟨"not_returned", "still drawing keys"⟩
  | signingKey :: drawn => do
    let address ← refuse "invalid_request" (managedAddressForSigningKey signingKey chainNamespace)
    let newAccountId := accountId chainNamespace address
    if (store.accounts.any fun account =>
          account.revokedAt.isNone && account.accountId == newAccountId) ||
        store.managedWallets.any fun secret =>
          secret.revokedAt.isNone && secret.accountId == newAccountId then
      unusedKey store chainNamespace drawn
    else pure (signingKey, address, newAccountId)

/-- A managed account of a key that has none yet. -/
def addManagedAccount (storageKey : Option (Bytes 32)) (at_ : Circumstances)
    (input : CreateManagedAccountInput) (proofType : String) (reusable : Option SigningKey) :
    Operation (LinkedAccount × Bool) := do
  let store ← reads id
  let now := at_.clock 0
  let (signingKey, address, newAccountId) ←
    unusedKey store input.chainNamespace (reusable.toList ++ at_.keys)
  let secret ← refuse "storage_error" <| encryptManagedKey storageKey (at_.nonces 0) newAccountId
    input.principalId input.chainNamespace address (signingKeyToBytes signingKey) now
  let account : LinkedAccount :=
    { accountId := newAccountId
      principalId := input.principalId
      proofBindingId := managedProofBindingId input.chainNamespace address
      chainNamespace := input.chainNamespace
      address := address
      proofType := proofType
      connectorId := none
      label := givenLabel input.label
      linkedAt := now
      revokedAt := none }
  updates fun store =>
    { store with
      managedWallets := store.managedWallets ++ [secret]
      accounts := store.accounts ++ [account] }
  pure (account, true)

def createManagedAccount (storageKey : Option (Bytes 32)) (at_ : Circumstances)
    (input : CreateManagedAccountInput) : Operation (LinkedAccount × Bool) := do
  ensureInitialized storageKey
  refuse "invalid_request" input.validate
  let proofType ← refuse "invalid_request" (managedProofType input.chainNamespace)
  let keyScope ← refuse "invalid_request" (managedKeyScope input.chainNamespace)
  if input.createNew then addManagedAccount storageKey at_ input proofType none
  else
    let store ← reads id
    let (exactAccount, distinctKeys) := reusableKeys storageKey store input proofType keyScope
    denyIf (1 < distinctKeys.length) "managed_key_ambiguous" <|
      "multiple distinct active managed wallet keys are eligible for reuse; " ++
        "create_new is required"
    match exactAccount with
    | some existing => pure (existing, false)
    | none => addManagedAccount storageKey at_ input proofType distinctKeys.getLast?

/-! ## 6. Recovery -/

/-- What a recovery key is found to hold. -/
structure RecoveredKey where
  accountId : String
  chainNamespace : String
  address : String
  signingKey : SigningKey

/-- The checks of `import_managed_recovery_key` on the key itself. -/
def readRecoveryKey (recoveryKey : Json) : Except String RecoveredKey := do
  failIf (recoveryKey.getStr "schema" ≠ some "elastos.wallet.recovery-key/v1")
    "expected elastos.wallet.recovery-key/v1"
  let accountIdValue ← okOr (recoveryKey.getStr "account_id") "recovery key missing account_id"
  let chainNamespace ← okOr (recoveryKey.getStr "chain_namespace")
    "recovery key missing chain_namespace"
  let address ← okOr (recoveryKey.getStr "address") "recovery key missing address"
  failIf (recoveryKey.getStr "secret_type" ≠ some "secp256k1_private_key_hex")
    "unsupported wallet recovery key type"
  validateManagedChainNamespace chainNamespace
  validateOpaqueId accountIdValue "account_id"
  let normalizedAddress :=
    if startsWith chainNamespace "eip155:" then normalizeEvmAddress address else address
  let expectedAccountId := accountId chainNamespace normalizedAddress
  failIf (accountIdValue ≠ expectedAccountId)
    "recovery key account_id does not match chain and address"
  let privateKeyHex ← okOr (recoveryKey.getStr "private_key_hex")
    "recovery key missing private_key_hex"
  let privateKey ← okOr ((hexDecode (trim privateKeyHex)).filter (·.length = 32))
    "private_key_hex must be 32 bytes"
  let signingKey ← okOr (signingKeyFromSlice privateKey) "invalid secp256k1 private key"
  let derivedAddress ← managedAddressForSigningKey signingKey chainNamespace
  failIf (eqIgnoreAsciiCase derivedAddress normalizedAddress = false)
    "private key does not match recovery key address"
  pure ⟨expectedAccountId, chainNamespace, normalizedAddress, signingKey⟩

def importManagedRecoveryKey (storageKey : Option (Bytes 32)) (nonce : Bytes 12) (now : Nat)
    (input : ImportManagedRecoveryKeyInput) : Operation LinkedAccount := do
  ensureInitialized storageKey
  refuse "invalid_request" input.validate
  let recovered ← refuse "invalid_request" (readRecoveryKey input.recoveryKey)
  let proofType ← refuse "invalid_request" (managedProofType recovered.chainNamespace)
  let secret ← refuse "storage_error" <| encryptManagedKey storageKey nonce recovered.accountId
    input.principalId recovered.chainNamespace recovered.address
    (signingKeyToBytes recovered.signingKey) now
  let store ← reads id
  let existing := store.accounts.find? (isAccount input.principalId recovered.accountId)
  let account : LinkedAccount :=
    { accountId := recovered.accountId
      principalId := input.principalId
      proofBindingId := managedProofBindingId recovered.chainNamespace recovered.address
      chainNamespace := recovered.chainNamespace
      address := recovered.address
      proofType := proofType
      connectorId := none
      label := givenLabel input.label
      linkedAt := (existing.map LinkedAccount.linkedAt).getD now
      revokedAt := none }
  updates fun store =>
    { store with
      managedWallets := (store.managedWallets.map fun stored =>
        if stored.principalId = input.principalId ∧ stored.accountId = recovered.accountId ∧
            stored.revokedAt.isNone then
          { stored with revokedAt := some now }
        else stored) ++ [secret]
      accounts := putAccount account store.accounts }
  pure account

/-- The keys of a set, one after the other; the `i`-th reading and nonce belong to the `i`-th. -/
def importManagedRecoveryKeys (storageKey : Option (Bytes 32)) (at_ : Circumstances)
    (principalId : String) : Nat → List ManagedRecoveryKeyEntryV1 → Operation (List LinkedAccount)
  | _, [] => pure []
  | i, entry :: rest => do
    let account ← importManagedRecoveryKey storageKey (at_.nonces i) (at_.clock i)
      ⟨principalId, entry.recoveryKey, entry.label⟩
    let accounts ← importManagedRecoveryKeys storageKey at_ principalId (i + 1) rest
    pure (account :: accounts)

def importManagedRecoverySet [SerdeJson] [DerivedSerialize] (storageKey : Option (Bytes 32))
    (at_ : Circumstances) (principalId : String) (recoverySet : ManagedRecoverySetV1) :
    Operation (List LinkedAccount) := do
  ensureInitialized storageKey
  refuse "invalid_request" (validateOpaqueId principalId "principal_id")
  refuse "invalid_request" recoverySet.validate
  refuse "invalid_request" <| recoverySet.keys.forM fun entry => do
    failIf (entry.recoveryKey.getStr "account_id" ≠ some entry.accountId)
      "managed recovery set account_id does not match its opaque recovery key"
    entry.label.forM validateLabel
  importManagedRecoveryKeys storageKey at_ principalId 0 recoverySet.keys

/-- `export_managed_recovery_key`, which changes nothing. -/
def exportManagedRecoveryKey (storageKey : Option (Bytes 32)) (store : WalletStore)
    (principalId accountId : String) : Except Refusal Json := do
  ensureInitialized storageKey
  refuse "invalid_request" (validateOpaqueId principalId "principal_id")
  refuse "invalid_request" (validateOpaqueId accountId "account_id")
  let account ← okOr (activeAccount store.accounts principalId accountId)
    ⟨"not_found", "active linked account not found"⟩
  denyIf (isManagedProofType account.proofType = false) "external_wallet_required"
    "recovery key is available only for passkey-managed accounts"
  let signingKey ← refuse "storage_error" <|
    managedSigningKeyForAccount storageKey store.managedWallets account
  pure <| .object
    [("account_id", .string account.accountId),
      ("address", .string account.address),
      ("chain_namespace", .string account.chainNamespace),
      ("note", .string <| "This account was created as an encrypted signing key, " ++
        "not a BIP39 seed phrase."),
      ("private_key_hex", .string (hexEncode (signingKeyToBytes signingKey))),
      ("schema", .string "elastos.wallet.recovery-key/v1"),
      ("secret_type", .string "secp256k1_private_key_hex")]

def exportManagedRecoverySet [SerdeJson] [DerivedSerialize] (storageKey : Option (Bytes 32))
    (store : WalletStore) (principalId : String) : Except Refusal ManagedRecoverySetV1 := do
  ensureInitialized storageKey
  refuse "invalid_request" (validateOpaqueId principalId "principal_id")
  let managedAccounts := store.accounts.filter fun account =>
    account.principalId == principalId && account.revokedAt.isNone &&
      account.connectorId.isNone && isManagedProofType account.proofType
  let keys ← managedAccounts.mapM fun account => do
    let recoveryKey ← exportManagedRecoveryKey storageKey store principalId account.accountId
    pure (⟨account.accountId, recoveryKey, account.label⟩ : ManagedRecoveryKeyEntryV1)
  let recoverySet : ManagedRecoverySetV1 := ⟨MANAGED_RECOVERY_SET_SCHEMA, keys⟩
  refuse "invalid_recovery_set" recoverySet.validate
  pure recoverySet

end

end ElastosRuntime.Wallet
