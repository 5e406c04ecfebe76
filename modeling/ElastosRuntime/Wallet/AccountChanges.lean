/-
# What the operations on accounts do to them

`Rewrites` says in one place what each of the seven operations on accounts does to the accounts, the
stored keys and the defaults when it succeeds.  What holds of them over any calls is derived from it.

`revocation_is_effective`: as long as no account is created for a key whose account on that chain
was revoked, a principal has one record of an account, and revoking the account takes effect.
`create_managed_account` looks only at what is not revoked, so that a key it uses again from
another chain can open a second record; revoking then finds the first.
-/
import ElastosRuntime.Lib.Transition
import ElastosRuntime.Wallet.SignedChain

namespace ElastosRuntime.Wallet

open Contracts Text WalletCurve WalletSigner Records Streams Streams.Effect Relation

/-! ## 1. Calls -/

/-- A call of an operation on accounts, with what it finds. -/
inductive AccountCall [WalletSigner] where
  | createManagedAccount (at_ : Circumstances) (input : CreateManagedAccountInput)
  | importManagedRecoveryKey (nonce : Bytes 12) (now : Nat) (input : ImportManagedRecoveryKeyInput)
  | importManagedRecoverySet (at_ : Circumstances) (principalId : String)
      (recoverySet : ManagedRecoverySetV1)
  | linkAccount (now : Nat) (input : LinkAccountInput)
  | revokeAccount (now : Nat) (principalId accountId : String)
  | renameAccount (principalId accountId label : String)
  | setDefaultAccount (now : Nat) (input : SetDefaultAccountInput)

section

variable [Crypto] [WalletSigner] [BitcoinCrate] [Custody.Aes256Gcm] [SerdeJson] [DerivedSerialize]

/-- The call, without its answer. -/
def AccountCall.perform (storageKey : Option (Bytes 32)) : AccountCall → Operation Unit
  | .createManagedAccount at_ input => do
    let _ ← Wallet.createManagedAccount storageKey at_ input
    pure ()
  | .importManagedRecoveryKey nonce now input => do
    let _ ← Wallet.importManagedRecoveryKey storageKey nonce now input
    pure ()
  | .importManagedRecoverySet at_ principalId recoverySet => do
    let _ ← Wallet.importManagedRecoverySet storageKey at_ principalId recoverySet
    pure ()
  | .linkAccount now input => do
    let _ ← Wallet.linkAccount storageKey now input
    pure ()
  | .revokeAccount now principalId accountId => do
    let _ ← Wallet.revokeAccount storageKey now principalId accountId
    pure ()
  | .renameAccount principalId accountId label => do
    let _ ← Wallet.renameAccount storageKey principalId accountId label
    pure ()
  | .setDefaultAccount now input => do
    let _ ← Wallet.setDefaultAccount storageKey now input
    pure ()

/-- The store behind a call: of one that fails, as it was before. -/
def callStep (store : WalletStore) (call : Option (Bytes 32) × AccountCall) : Option WalletStore :=
  match (call.2.perform call.1).outcome store with
  | (.ok (), changed) => some changed
  | (.error _, _) => some store

end

/-! ## 2. Looking an account up -/

variable {account : LinkedAccount}

theorem isAccount_iff {principalId accountId : String} :
    isAccount principalId accountId account = true ↔
      account.principalId = principalId ∧ account.accountId = accountId := by
  rw [isAccount, Bool.and_eq_true, beq_iff_eq, beq_iff_eq]

/-- What an active account is looked up by. -/
def isActiveAccount (principalId accountId : String) (account : LinkedAccount) : Bool :=
  isAccount principalId accountId account && account.revokedAt.isNone

theorem activeAccount_eq (accounts : List LinkedAccount) (principalId accountId : String) :
    activeAccount accounts principalId accountId =
      accounts.find? (isActiveAccount principalId accountId) := rfl

section

variable {accounts : List LinkedAccount} {account found : LinkedAccount}
  {principalId accountId : String} {f : LinkedAccount → LinkedAccount}

theorem isAccount_of_isActiveAccount (h : isActiveAccount principalId accountId account = true) :
    isAccount principalId accountId account = true := (Bool.and_eq_true _ _ ▸ h).1

theorem mem_of_activeAccount (h : activeAccount accounts principalId accountId = some found) :
    found ∈ accounts ∧ isAccount principalId accountId found = true ∧ found.revokedAt = none := by
  have hp := List.find?_some (activeAccount_eq _ _ _ ▸ h)
  rw [isActiveAccount, Bool.and_eq_true, Option.isNone_iff_eq_none] at hp
  exact ⟨List.mem_of_find?_eq_some h, hp⟩

theorem isActiveAccount_eq_false (h : isAccount principalId accountId account = false) :
    isActiveAccount principalId accountId account = false := by
  rw [isActiveAccount, h, Bool.false_and]

/-- A record changed in place under a name of its own is found under no other. -/
theorem isAccount_eq_false {p id : String} (hother : ¬(p = principalId ∧ id = accountId))
    (h : isAccount p id account = true) : isAccount principalId accountId account = false := by
  obtain ⟨rfl, rfl⟩ := isAccount_iff.mp h
  exact Bool.eq_false_iff.mpr fun hsame => hother (isAccount_iff.mp hsame)

/-- The record that is put is the active one of its account. -/
theorem activeAccount_putAccount (hactive : account.revokedAt = none)
    (hsame : isAccount principalId accountId account = true) :
    activeAccount (putAccount account accounts) principalId accountId = some account := by
  obtain ⟨rfl, rfl⟩ := isAccount_iff.mp hsame
  have hp : isActiveAccount account.principalId account.accountId account = true := by
    rw [isActiveAccount, hsame, hactive]
    rfl
  rw [activeAccount_eq, putAccount]
  split
  · next hany =>
    obtain ⟨first, hfirst⟩ := Option.isSome_iff_exists.mp <|
      List.find?_isSome.mpr (List.any_eq_true.mp hany)
    exact find?_modifyFirst_of_imp (fun _ => isAccount_of_isActiveAccount) hfirst hp
  · next hany =>
    have hnone : accounts.find? (isActiveAccount account.principalId account.accountId) = none := by
      refine List.find?_eq_none.mpr fun b hb hactive => hany ?_
      exact List.any_eq_true.mpr ⟨b, hb, isAccount_of_isActiveAccount hactive⟩
    rw [List.find?_append, hnone, Option.none_or, List.find?_cons_of_pos hp]

/-- Any other account is found as it was. -/
theorem activeAccount_putAccount_of_ne
    (hother : isAccount principalId accountId account = false) :
    activeAccount (putAccount account accounts) principalId accountId =
      activeAccount accounts principalId accountId := by
  have hnew := isActiveAccount_eq_false hother
  rw [activeAccount_eq, activeAccount_eq, putAccount]
  split
  · refine find?_modifyFirst_of_neg fun b hb => ⟨isActiveAccount_eq_false ?_, hnew⟩
    obtain ⟨hp, hid⟩ := isAccount_iff.mp (List.find?_some hb)
    rw [isAccount, hp, hid]
    exact hother
  · rw [List.find?_append, List.find?_cons_of_neg (by rw [hnew]; exact Bool.false_ne_true),
      List.find?_nil, Option.or_none]

end

/-! ## 3. What a call does -/

/-- The record of an account that the wallet manages. -/
def managedAccount (principalId chainNamespace address proofType : String) (label : Option String)
    (linkedAt : Nat) : LinkedAccount where
  accountId := accountId chainNamespace address
  principalId := principalId
  proofBindingId := managedProofBindingId chainNamespace address
  chainNamespace := chainNamespace
  address := address
  proofType := proofType
  connectorId := none
  label := label
  linkedAt := linkedAt
  revokedAt := none

/-- Some unrevoked account or key has the id. -/
def inUse (store : WalletStore) (accountId : String) : Bool :=
  (store.accounts.any fun account =>
    account.revokedAt.isNone && account.accountId == accountId) ||
  store.managedWallets.any fun secret =>
    secret.revokedAt.isNone && secret.accountId == accountId

def revokeSecret (now : Nat) (principalId accountId : String) (secret : ManagedWalletSecret) :
    ManagedWalletSecret :=
  if secret.accountId = accountId ∧ secret.principalId = principalId then
    { secret with revokedAt := some now }
  else secret

/-- The store behind the revocation of the account that was found. -/
def revokeIn (now : Nat) (principalId accountId : String) (found : LinkedAccount)
    (s : WalletStore) : WalletStore :=
  { s with
    accounts := modifyFirst (isAccount principalId accountId)
      (fun _ => { found with revokedAt := some now }) s.accounts
    managedWallets := s.managedWallets.map (revokeSecret now principalId accountId)
    defaultAccounts := s.defaultAccounts.filter fun default =>
      !(default.principalId == principalId && default.accountId == accountId) }

/-- The unrevoked keys of an account are revoked when it is imported anew. -/
def replaceSecret (now : Nat) (principalId accountId : String) (secret : ManagedWalletSecret) :
    ManagedWalletSecret :=
  if secret.principalId = principalId ∧ secret.accountId = accountId ∧ secret.revokedAt.isNone then
    { secret with revokedAt := some now }
  else secret

section

variable [Crypto] [WalletSigner] [BitcoinCrate] [Custody.Aes256Gcm]

/-- The key of an active account of the principal, on a chain of the kind. -/
def HoldsKey (storageKey : Option (Bytes 32)) (s : WalletStore) (principalId keyScope : String)
    (signingKey : SigningKey) : Prop :=
  ∃ account ∈ s.accounts, account.principalId = principalId ∧ account.revokedAt = none ∧
    managedKeyScope account.chainNamespace = .ok keyScope ∧
    managedSigningKeyForAccount storageKey s.managedWallets account = .ok signingKey

/-- The keys that a call to create an account may use: those it draws and, unless it is to be a new
one, those the principal holds on chains of the same kind. -/
def MayUse (storageKey : Option (Bytes 32)) (s : WalletStore) (at_ : Circumstances)
    (input : CreateManagedAccountInput) (signingKey : SigningKey) : Prop :=
  signingKey ∈ at_.keys ∨
    input.createNew = false ∧ ∃ keyScope, managedKeyScope input.chainNamespace = .ok keyScope ∧
      HoldsKey storageKey s input.principalId keyScope signingKey

/-- An account is created: for a key it may use, whose account is not in use. -/
inductive Creates (storageKey : Option (Bytes 32)) (s : WalletStore) (at_ : Circumstances)
    (input : CreateManagedAccountInput) : WalletStore → Prop
  | account {signingKey : SigningKey} {address proofType : String} {secret : ManagedWalletSecret}
      (hmay : MayUse storageKey s at_ input signingKey)
      (haddress : managedAddressForSigningKey signingKey input.chainNamespace = .ok address)
      (hunused : inUse s (accountId input.chainNamespace address) = false)
      (hsecret : encryptManagedKey storageKey (at_.nonces 0) (accountId input.chainNamespace address)
        input.principalId input.chainNamespace address (signingKeyToBytes signingKey) (at_.clock 0) =
          .ok secret) :
      Creates storageKey s at_ input
        { s with
          managedWallets := s.managedWallets ++ [secret]
          accounts := s.accounts ++ [managedAccount input.principalId input.chainNamespace address
            proofType (givenLabel input.label) (at_.clock 0)] }

/-- An account is imported: its record is put, and its key takes the place of those it had. -/
inductive Imports (storageKey : Option (Bytes 32)) (principalId : String) (s : WalletStore) :
    WalletStore → Prop
  | account {recoveryKey : Json} {recovered : RecoveredKey} {proofType : String} {nonce : Bytes 12}
      {now : Nat} {secret : ManagedWalletSecret} (linkedAt : Nat) (label : Option String)
      (hread : readRecoveryKey recoveryKey = .ok recovered)
      (hproofType : managedProofType recovered.chainNamespace = .ok proofType)
      (hsecret : encryptManagedKey storageKey nonce recovered.accountId principalId
        recovered.chainNamespace recovered.address (signingKeyToBytes recovered.signingKey) now =
          .ok secret) :
      Imports storageKey principalId s
        { s with
          managedWallets :=
            s.managedWallets.map (replaceSecret now principalId recovered.accountId) ++ [secret]
          accounts := putAccount (managedAccount principalId recovered.chainNamespace
            recovered.address proofType label linkedAt) s.accounts }

/-- What a call that succeeds does. -/
inductive Rewrites (storageKey : Option (Bytes 32)) (s : WalletStore) :
    AccountCall → WalletStore → Prop
  | found {at_ : Circumstances} {input : CreateManagedAccountInput} :
      Rewrites storageKey s (.createManagedAccount at_ input) s
  | created {at_ : Circumstances} {input : CreateManagedAccountInput} {s' : WalletStore}
      (h : Creates storageKey s at_ input s') :
      Rewrites storageKey s (.createManagedAccount at_ input) s'
  | imported {nonce : Bytes 12} {now : Nat} {input : ImportManagedRecoveryKeyInput}
      {s' : WalletStore} (h : Imports storageKey input.principalId s s') :
      Rewrites storageKey s (.importManagedRecoveryKey nonce now input) s'
  | importedSet {at_ : Circumstances} {principalId : String} {recoverySet : ManagedRecoverySetV1}
      {s' : WalletStore} (h : ReflTransGen (Imports storageKey principalId) s s') :
      Rewrites storageKey s (.importManagedRecoverySet at_ principalId recoverySet) s'
  | linked {now : Nat} {input : LinkAccountInput} {account : LinkedAccount}
      (hid : isAccount input.principalId (accountId input.chainNamespace input.address) account = true)
      (hactive : account.revokedAt = none)
      (hexternal : isManagedProofType account.proofType = false) :
      Rewrites storageKey s (.linkAccount now input)
        { s with accounts := putAccount account s.accounts }
  | revoked {now : Nat} {principalId accountId : String} {found : LinkedAccount}
      (hfound : s.accounts.find? (isAccount principalId accountId) = some found) :
      Rewrites storageKey s (.revokeAccount now principalId accountId)
        (revokeIn now principalId accountId found s)
  | renamed {principalId accountId label : String} {found : LinkedAccount} {given : Option String}
      (hfound : activeAccount s.accounts principalId accountId = some found) :
      Rewrites storageKey s (.renameAccount principalId accountId label)
        { s with
          accounts := modifyFirst (isActiveAccount principalId accountId)
            (fun _ => { found with label := given }) s.accounts }
  | defaulted {now : Nat} {input : SetDefaultAccountInput}
      {defaultAccounts : List DefaultWalletAccount} :
      Rewrites storageKey s (.setDefaultAccount now input)
        { s with defaultAccounts := defaultAccounts }

variable {storageKey : Option (Bytes 32)} {s s' : WalletStore} {at_ : Circumstances}
  {account : LinkedAccount}

variable {now : Nat}

omit [Crypto] [WalletSigner] [BitcoinCrate] [Custody.Aes256Gcm] in
theorem linkAccount_effect {input : LinkAccountInput}
    (h : Does (linkAccount storageKey now input) s account s') :
    isAccount input.principalId (accountId input.chainNamespace input.address) account = true ∧
      account.revokedAt = none ∧ isManagedProofType account.proofType = false ∧
      s' = { s with accounts := putAccount account s.accounts } := by
  simp only [linkAccount, does_check, does_updates, does_pure, refuse_eq_ok, exists_unit] at h
  obtain ⟨-, hvalid, rfl, rfl⟩ := h
  simp only [LinkAccountInput.validate, Codec.bind_eq_ok, failIf_eq_ok, exists_unit] at hvalid
  obtain ⟨-, -, -, -, -, hexternal, -⟩ := hvalid
  exact ⟨isAccount_iff.mpr ⟨rfl, rfl⟩, rfl, Bool.eq_false_iff.mpr hexternal, rfl⟩

variable {principalId : String}

omit [Crypto] [WalletSigner] [BitcoinCrate] [Custody.Aes256Gcm] in
theorem does_revokeAccount {accountId : String} :
    Does (revokeAccount storageKey now principalId accountId) s account s' ↔
      ensureInitialized storageKey = .ok () ∧
        validateOpaqueId principalId "principal_id" = .ok () ∧
        validateOpaqueId accountId "account_id" = .ok () ∧
        ∃ found, s.accounts.find? (isAccount principalId accountId) = some found ∧
          { found with revokedAt := some now } = account ∧
          revokeIn now principalId accountId found s = s' := by
  simp only [revokeAccount, does_check, does_reads, does_updates, does_pure, refuse_eq_ok,
    okOr_eq_ok, exists_unit]
  exact Iff.rfl

omit [Crypto] [WalletSigner] [BitcoinCrate] [Custody.Aes256Gcm] in
theorem renameAccount_effect {accountId label : String}
    (h : Does (renameAccount storageKey principalId accountId label) s account s') :
    ∃ found given, activeAccount s.accounts principalId accountId = some found ∧
      s' = { s with
        accounts := modifyFirst (isActiveAccount principalId accountId)
          (fun _ => { found with label := given }) s.accounts } := by
  simp only [renameAccount, does_check, does_reads, does_updates, does_pure, refuse_eq_ok,
    denyIf_eq_ok, okOr_eq_ok, exists_unit] at h
  obtain ⟨-, -, -, -, -, found, hfound, rfl, rfl⟩ := h
  exact ⟨found, _, hfound, rfl⟩

omit [Crypto] [WalletSigner] [BitcoinCrate] [Custody.Aes256Gcm] in
theorem setDefaultAccount_effect {input : SetDefaultAccountInput}
    {answer : DefaultWalletAccount × LinkedAccount}
    (h : Does (setDefaultAccount storageKey now input) s answer s') :
    ∃ defaultAccounts, s' = { s with defaultAccounts := defaultAccounts } := by
  simp only [setDefaultAccount, does_check, does_reads, does_updates, does_pure, refuse_eq_ok,
    denyIf_eq_ok, okOr_eq_ok, exists_unit] at h
  obtain ⟨-, -, found, -, -, -, rfl⟩ := h
  exact ⟨_, rfl⟩

variable {input : CreateManagedAccountInput}

/-- Every key that is found for using again is held. -/
theorem mem_reusableKeys {proofType keyScope : String} {signingKey : SigningKey}
    (h : signingKey ∈ (reusableKeys storageKey s input proofType keyScope).2) :
    HoldsKey storageKey s input.principalId keyScope signingKey := by
  rw [reusableKeys] at h
  generalize hfound : ((none, []) : Option LinkedAccount × List SigningKey) = found at h
  have hheld : ∀ key ∈ found.2, HoldsKey storageKey s input.principalId keyScope key := by
    rw [← hfound]
    exact fun _ hkey => absurd hkey List.not_mem_nil
  generalize heligible : s.accounts.filter _ = eligible at h
  have hmem : ∀ account ∈ eligible, account ∈ s.accounts ∧
      account.principalId = input.principalId ∧ account.revokedAt = none ∧
      managedKeyScope account.chainNamespace = .ok keyScope := by
    intro account haccount
    rw [← heligible, List.mem_filter, Bool.and_eq_true, Bool.and_eq_true, beq_iff_eq,
      Option.isNone_iff_eq_none] at haccount
    obtain ⟨haccount, ⟨hprincipal, hactive⟩, hscope⟩ := haccount
    refine ⟨haccount, hprincipal, hactive, ?_⟩
    split at hscope
    · next scope hok => rw [hok, beq_iff_eq.mp hscope]
    · cases hscope
  clear heligible hfound
  -- account by account, what has been found is held
  induction eligible generalizing found with
  | nil => exact hheld signingKey h
  | cons account rest ih =>
    rw [List.foldl_cons] at h
    refine ih _ ?_ h fun a ha => hmem a (List.mem_cons_of_mem _ ha)
    obtain ⟨haccount, hprincipal, hactive, hscope⟩ := hmem account List.mem_cons_self
    intro key hkey
    split at hkey
    · exact hheld key hkey
    · next own hown =>
      dsimp only at hkey
      split at hkey
      · rcases List.mem_append.mp hkey with hold | hnew
        · exact hheld key hold
        · rw [List.mem_singleton.mp hnew]
          exact ⟨account, haccount, hprincipal, hactive, hscope, hown⟩
      · exact hheld key hkey

omit [Crypto] [Custody.Aes256Gcm] in
theorem unusedKey_eq_ok {chainNamespace address newAccountId : String} {signingKey : SigningKey}
    {drawn : List SigningKey}
    (h : unusedKey s chainNamespace drawn = .ok (signingKey, address, newAccountId)) :
    signingKey ∈ drawn ∧ managedAddressForSigningKey signingKey chainNamespace = .ok address ∧
      newAccountId = accountId chainNamespace address ∧ inUse s newAccountId = false := by
  induction drawn with
  | nil => cases h
  | cons first rest ih =>
    simp only [unusedKey, Codec.bind_eq_ok, refuse_eq_ok] at h
    obtain ⟨derived, hderived, h⟩ := h
    split at h
    · obtain ⟨hmem, hrest⟩ := ih h
      exact ⟨List.mem_cons_of_mem _ hmem, hrest⟩
    · next hfree =>
      cases h
      exact ⟨List.mem_cons_self, hderived, rfl, Bool.eq_false_iff.mpr hfree⟩

theorem addManagedAccount_effect {proofType : String} {reusable : Option SigningKey}
    {created : Bool}
    (h : Does (addManagedAccount storageKey at_ input proofType reusable) s (account, created) s')
    (hmay : ∀ signingKey ∈ reusable.toList, MayUse storageKey s at_ input signingKey) :
    Creates storageKey s at_ input s' := by
  simp only [addManagedAccount, does_check, does_reads, does_updates, does_pure, refuse_eq_ok, id]
    at h
  obtain ⟨⟨signingKey, address, newAccountId⟩, hunused, secret, hsecret, -, rfl⟩ := h
  obtain ⟨hmem, haddress, rfl, hfree⟩ := unusedKey_eq_ok hunused
  refine Creates.account ?_ haddress hfree hsecret
  rcases List.mem_append.mp hmem with hreusable | hdrawn
  · exact hmay signingKey hreusable
  · exact Or.inl hdrawn

theorem createManagedAccount_effect {created : Bool}
    (h : Does (createManagedAccount storageKey at_ input) s (account, created) s') :
    s' = s ∨ Creates storageKey s at_ input s' := by
  simp only [createManagedAccount, does_check, refuse_eq_ok, exists_unit] at h
  obtain ⟨-, -, proofType, -, keyScope, hscope, h⟩ := h
  split at h
  · exact Or.inr (addManagedAccount_effect h fun _ hnone => by cases hnone)
  · next hreuse =>
    simp only [does_reads, does_check, exists_unit, id] at h
    obtain ⟨-, h⟩ := h
    split at h
    · exact Or.inl (does_pure.mp h).2.symm
    · refine Or.inr (addManagedAccount_effect h fun signingKey hkey => Or.inr ?_)
      have hmem := List.mem_of_getLast? (Option.mem_toList.mp hkey)
      exact ⟨Bool.eq_false_iff.mpr hreuse, keyScope, hscope, mem_reusableKeys hmem⟩

omit [Custody.Aes256Gcm] [Crypto] in
theorem recoveredKey_accountId {recoveryKey : Json} {recovered : RecoveredKey}
    (h : readRecoveryKey recoveryKey = .ok recovered) :
    recovered.accountId = accountId recovered.chainNamespace recovered.address := by
  simp only [readRecoveryKey, Codec.bind_eq_ok, pure_eq_ok] at h
  obtain ⟨-, -, _, -, _, -, _, -, -, -, -, -, -, -, -, -, _, -, _, -, _, -, _, -, -, -, rfl⟩ := h
  rfl

theorem importManagedRecoveryKey_effect {nonce : Bytes 12} {input : ImportManagedRecoveryKeyInput}
    (h : Does (importManagedRecoveryKey storageKey nonce now input) s account s') :
    Imports storageKey input.principalId s s' := by
  simp only [importManagedRecoveryKey, does_check, does_reads, does_updates, does_pure,
    refuse_eq_ok, exists_unit, id] at h
  obtain ⟨-, -, ⟨id, chainNamespace, address, signingKey⟩, hread, proofType, hproofType, secret,
    hsecret, -, rfl⟩ := h
  obtain rfl : id = accountId chainNamespace address := recoveredKey_accountId hread
  have himports := Imports.account (s := s) (((s.accounts.find? (isAccount input.principalId
    (accountId chainNamespace address))).map LinkedAccount.linkedAt).getD now)
    (givenLabel input.label) hread hproofType hsecret
  exact himports

variable {accounts : List LinkedAccount}

theorem importManagedRecoveryKeys_effect {entries : List ManagedRecoveryKeyEntryV1} : ∀ {i : Nat},
    Does (importManagedRecoveryKeys storageKey at_ principalId i entries) s accounts s' →
      ReflTransGen (Imports storageKey principalId) s s' := by
  induction entries generalizing s accounts with
  | nil =>
    intro i h
    rw [(does_pure.mp h).2]
  | cons entry rest ih =>
    intro i h
    rw [importManagedRecoveryKeys] at h
    simp only [does_bind, does_pure] at h
    obtain ⟨account, s₁, hfirst, accounts', s₂, hrest, -, rfl⟩ := h
    exact (ih hrest).head (importManagedRecoveryKey_effect hfirst)

variable [SerdeJson] [DerivedSerialize]

theorem importManagedRecoverySet_effect {recoverySet : ManagedRecoverySetV1}
    (h : Does (importManagedRecoverySet storageKey at_ principalId recoverySet) s accounts s') :
    ReflTransGen (Imports storageKey principalId) s s' := by
  simp only [importManagedRecoverySet, does_check, refuse_eq_ok, exists_unit] at h
  exact importManagedRecoveryKeys_effect h.2.2.2.2

/-- **What a call that succeeds does.** -/
theorem AccountCall.rewrites {call : AccountCall} (h : Does (call.perform storageKey) s () s') :
    Rewrites storageKey s call s' := by
  cases call with
  | createManagedAccount at_ input =>
    obtain ⟨⟨account, created⟩, _, hdoes, hlast⟩ := does_bind.mp h
    obtain ⟨-, rfl⟩ := does_pure.mp hlast
    rcases createManagedAccount_effect hdoes with rfl | hcreates
    · exact Rewrites.found
    · exact Rewrites.created hcreates
  | importManagedRecoveryKey nonce now input =>
    obtain ⟨account, _, hdoes, hlast⟩ := does_bind.mp h
    obtain ⟨-, rfl⟩ := does_pure.mp hlast
    exact Rewrites.imported (importManagedRecoveryKey_effect hdoes)
  | importManagedRecoverySet at_ principalId recoverySet =>
    obtain ⟨accounts, _, hdoes, hlast⟩ := does_bind.mp h
    obtain ⟨-, rfl⟩ := does_pure.mp hlast
    exact Rewrites.importedSet (importManagedRecoverySet_effect hdoes)
  | linkAccount now input =>
    obtain ⟨account, _, hdoes, hlast⟩ := does_bind.mp h
    obtain ⟨-, rfl⟩ := does_pure.mp hlast
    obtain ⟨hid, hactive, hexternal, rfl⟩ := linkAccount_effect hdoes
    exact Rewrites.linked hid hactive hexternal
  | revokeAccount now principalId accountId =>
    obtain ⟨account, _, hdoes, hlast⟩ := does_bind.mp h
    obtain ⟨-, rfl⟩ := does_pure.mp hlast
    obtain ⟨-, -, -, found, hfound, -, rfl⟩ := does_revokeAccount.mp hdoes
    exact Rewrites.revoked hfound
  | renameAccount principalId accountId label =>
    obtain ⟨account, _, hdoes, hlast⟩ := does_bind.mp h
    obtain ⟨-, rfl⟩ := does_pure.mp hlast
    obtain ⟨found, given, hfound, rfl⟩ := renameAccount_effect hdoes
    exact Rewrites.renamed hfound
  | setDefaultAccount now input =>
    obtain ⟨answer, _, hdoes, hlast⟩ := does_bind.mp h
    obtain ⟨-, rfl⟩ := does_pure.mp hlast
    obtain ⟨defaultAccounts, rfl⟩ := setDefaultAccount_effect hdoes
    exact Rewrites.defaulted

/-- Every call leaves a store. -/
theorem exists_callStep (s : WalletStore) (call : Option (Bytes 32) × AccountCall) :
    ∃ s', callStep s call = some s' := by
  rw [callStep]
  rcases (call.2.perform call.1).outcome s with ⟨_ | ⟨⟩, changed⟩
  · exact ⟨s, rfl⟩
  · exact ⟨changed, rfl⟩

theorem callStep_cases {call : Option (Bytes 32) × AccountCall} (h : callStep s call = some s') :
    s' = s ∨ Rewrites call.1 s call.2 s' := by
  rw [callStep] at h
  split at h
  · next changed hdone =>
    cases h
    exact Or.inr (AccountCall.rewrites hdone)
  · cases h
    exact Or.inl rfl

end

/-! ## 4. One record of an account -/

/-- What a record of an account goes by. -/
def LinkedAccount.key (account : LinkedAccount) : String × String :=
  (account.principalId, account.accountId)

theorem isAccount_iff_key {principalId accountId : String} :
    isAccount principalId accountId account = true ↔ account.key = (principalId, accountId) := by
  rw [isAccount_iff, LinkedAccount.key, Prod.mk.injEq]

variable {accounts : List LinkedAccount}

theorem unique_modifyFirst {found changed : LinkedAccount} {p : LinkedAccount → Bool}
    (h : Unique LinkedAccount.key accounts) (hfound : accounts.find? p = some found)
    (hkey : changed.key = found.key) :
    Unique LinkedAccount.key (modifyFirst p (fun _ => changed) accounts) := by
  refine h.modifyFirst fun b hb => ?_
  rw [← Option.some.inj (hfound.symm.trans hb)]
  exact hkey

theorem unique_putAccount (h : Unique LinkedAccount.key accounts) :
    Unique LinkedAccount.key (putAccount account accounts) := by
  rw [putAccount]
  split
  · exact h.modifyFirst fun b hb => (isAccount_iff_key.mp (List.find?_some hb)).symm
  · next hnone =>
    refine h.append_singleton fun b hb hkey => hnone ?_
    exact List.any_eq_true.mpr ⟨b, hb, isAccount_iff_key.mpr hkey⟩

section

variable [Crypto] [WalletSigner] [BitcoinCrate] [Custody.Aes256Gcm]

/-- No key the call may create an account for belongs to one the principal has a record of, which
then is a revoked one: the account is not in use. -/
def StaysClear (storageKey : Option (Bytes 32)) (s : WalletStore) : AccountCall → Prop
  | .createManagedAccount at_ input => ∀ signingKey address,
    MayUse storageKey s at_ input signingKey →
    managedAddressForSigningKey signingKey input.chainNamespace = .ok address →
    inUse s (accountId input.chainNamespace address) = false →
    ∀ account ∈ s.accounts,
      isAccount input.principalId (accountId input.chainNamespace address) account = false
  | _ => True

variable {storageKey : Option (Bytes 32)} {s s' : WalletStore}

theorem Imports.unique {principalId : String} (h : Imports storageKey principalId s s')
    (hunique : Unique LinkedAccount.key s.accounts) : Unique LinkedAccount.key s'.accounts := by
  cases h with
  | account => exact unique_putAccount hunique

/-- A principal keeps one record of an account. -/
theorem Rewrites.unique {call : AccountCall} (h : Rewrites storageKey s call s')
    (hclear : StaysClear storageKey s call) (hunique : Unique LinkedAccount.key s.accounts) :
    Unique LinkedAccount.key s'.accounts := by
  cases h with
  | found => exact hunique
  | created hcreates =>
    cases hcreates with
    | account hmay haddress hunused =>
      refine hunique.append_singleton fun b hb hkey => ?_
      have hnone := hclear _ _ hmay haddress hunused b hb
      exact Bool.false_ne_true (hnone.symm.trans (isAccount_iff_key.mpr hkey))
  | imported himports => exact himports.unique hunique
  | importedSet himports =>
    induction himports with
    | refl => exact hunique
    | tail _ hlast ih => exact hlast.unique ih
  | linked => exact unique_putAccount hunique
  | revoked hfound => exact unique_modifyFirst hunique hfound rfl
  | renamed hfound => exact unique_modifyFirst hunique hfound rfl
  | defaulted => exact hunique

end

/-- The account is revoked: nothing active refers to it, and the others are as they were. -/
structure Revoked (principalId accountId : String) (s s' : WalletStore) : Prop where
  inactive : activeAccount s'.accounts principalId accountId = none
  secrets : ∀ secret ∈ s'.managedWallets, secret.principalId = principalId →
    secret.accountId = accountId → secret.revokedAt.isSome = true
  defaults : ∀ default ∈ s'.defaultAccounts,
    ¬(default.principalId = principalId ∧ default.accountId = accountId)
  others : (s'.accounts.filter fun account => !isAccount principalId accountId account) =
    s.accounts.filter fun account => !isAccount principalId accountId account

/-- Where the account has one record, revoking it takes effect. -/
theorem revokeAccount_revokes {storageKey : Option (Bytes 32)} {s s' : WalletStore} {now : Nat}
    {principalId accountId : String} (hunique : Unique LinkedAccount.key s.accounts)
    (h : Does (revokeAccount storageKey now principalId accountId) s account s') :
    Revoked principalId accountId s s' := by
  obtain ⟨-, -, -, found, hfound, -, rfl⟩ := does_revokeAccount.mp h
  have hnamed := List.find?_some hfound
  constructor
  · refine List.find?_eq_none.mpr fun b hb hactive => ?_
    -- the one record of the account is the one that was revoked
    have hkey : b.key = found.key :=
      (isAccount_iff_key.mp (isAccount_of_isActiveAccount hactive)).trans
        (isAccount_iff_key.mp hnamed).symm
    have hrevoked := (hunique.mem_modifyFirst_iff (fun a ha => by
      rw [← Option.some.inj (hfound.symm.trans ha)]; rfl) hfound hkey).mp hb
    rw [hrevoked, Bool.and_eq_true] at hactive
    exact Bool.false_ne_true hactive.2
  · intro secret hsecret hprincipal hid
    obtain ⟨before, -, rfl⟩ := List.mem_map.mp hsecret
    rw [revokeSecret] at hprincipal hid ⊢
    split
    · rfl
    · next hother =>
      rw [if_neg hother] at hprincipal hid
      exact absurd ⟨hid, hprincipal⟩ hother
  · rintro default hdefault ⟨hprincipal, hid⟩
    have hkept := (List.mem_filter.mp hdefault).2
    rw [hprincipal, hid, beq_self_eq_true, beq_self_eq_true] at hkept
    cases hkept
  · refine filter_modifyFirst fun b hb => ?_
    have hchanged : isAccount principalId accountId { found with revokedAt := some now } = true :=
      hnamed
    rw [List.find?_some hb, hchanged]
    exact ⟨rfl, rfl⟩

section

variable [Crypto] [WalletSigner] [BitcoinCrate] [Custody.Aes256Gcm] [SerdeJson] [DerivedSerialize]

/-- **Revoking an account takes effect**, after any calls none of which created an account that the
principal had a record of. -/
theorem revocation_is_effective {calls : List (Option (Bytes 32) × AccountCall)} {s : WalletStore}
    (hrun : Transition.run callStep WalletStore.empty calls = some s)
    (hclear : Transition.Guarded callStep (fun store call => StaysClear call.1 store call.2)
      WalletStore.empty calls) :
    Unique LinkedAccount.key s.accounts ∧
      ∀ storageKey now principalId accountId account s',
        Does (revokeAccount storageKey now principalId accountId) s account s' →
          Revoked principalId accountId s s' := by
  have hstep : ∀ (store : WalletStore) (call : Option (Bytes 32) × AccountCall) (after : WalletStore),
      Unique LinkedAccount.key store.accounts → StaysClear call.1 store call.2 →
        callStep store call = some after → Unique LinkedAccount.key after.accounts := by
    intro store call after hunique hclear hstep
    rcases callStep_cases hstep with rfl | hrewrites
    · exact hunique
    · exact hrewrites.unique hclear hunique
  have hunique : Unique LinkedAccount.key s.accounts :=
    Transition.run_invariant hstep Unique.nil hclear hrun
  exact ⟨hunique, fun _ _ _ _ _ _ hdoes => revokeAccount_revokes hunique hdoes⟩

end

namespace Sample

attribute [local instance] acceptingCurves keyEchoCrypto plainSigner plainBitcoin plainAes plainJson
  plainSerialize plainAuth

def drawing (now : Nat) (keys : List SigningKey) : Circumstances where
  clock := fun _ => now
  nonces := fun _ => Bytes.zero 12
  keys := keys
  challengeId := Bytes.zero 16
  challengeNonce := Bytes.zero 12

def keyAddress : String := "0x0000000000000000000000000000000000000000"

/-- An account is created on one chain and, with its key, on another; the other one is revoked and
created anew. -/
def calls : List (Option (Bytes 32) × AccountCall) :=
  [(storageKey, .createManagedAccount (drawing 100 [()]) ⟨"owner", "eip155:1", none, true⟩),
    (storageKey, .createManagedAccount (drawing 200 []) ⟨"owner", "eip155:5", none, false⟩),
    (storageKey, .revokeAccount 300 "owner" (accountId "eip155:5" keyAddress)),
    (storageKey, .createManagedAccount (drawing 400 []) ⟨"owner", "eip155:5", none, false⟩)]

def behind (calls : List (Option (Bytes 32) × AccountCall)) : WalletStore :=
  (Transition.run callStep WalletStore.empty calls).getD WalletStore.empty

theorem run_behind (calls : List (Option (Bytes 32) × AccountCall)) :
    Transition.run callStep WalletStore.empty calls = some (behind calls) := by
  have hrun : ∀ s, ∃ s', Transition.run callStep s calls = some s' := by
    induction calls with
    | nil => exact fun s => ⟨s, rfl⟩
    | cons call rest ih =>
      intro s
      obtain ⟨s₁, hfirst⟩ := exists_callStep s call
      obtain ⟨s₂, hrest⟩ := ih s₁
      exact ⟨s₂, Transition.run_cons_eq_some.mpr ⟨s₁, hfirst, hrest⟩⟩
  obtain ⟨s', hs'⟩ := hrun WalletStore.empty
  rw [behind, hs']
  rfl

def createdOn (chainNamespace : String) (now : Nat) : LinkedAccount :=
  managedAccount "owner" chainNamespace keyAddress MANAGED_EVM_PROOF_TYPE none now

def reopenedId : String := accountId "eip155:5" keyAddress

theorem behind_accounts : (behind calls).accounts =
    [createdOn "eip155:1" 100, { createdOn "eip155:5" 200 with revokedAt := some 300 },
      createdOn "eip155:5" 400] := by
  decide +kernel

/-- The account that was created anew has two records, and revoking it revokes the first again. -/
theorem reopened_account_survives : ∃ account s',
    Transition.run callStep WalletStore.empty calls = some (behind calls) ∧
    ¬Unique LinkedAccount.key (behind calls).accounts ∧
    Does (revokeAccount storageKey 500 "owner" reopenedId) (behind calls) account s' ∧
    (activeAccount s'.accounts "owner" reopenedId).isSome = true := by
  refine ⟨_, _, run_behind calls, ?_, does_revokeAccount.mpr ⟨rfl, by decide, by decide,
    { createdOn "eip155:5" 200 with revokedAt := some 300 }, ?_, rfl, rfl⟩, ?_⟩
  · rw [Records.Unique, behind_accounts]
    decide
  · rw [behind_accounts]
    decide
  · rw [revokeIn]
    dsimp only
    rw [behind_accounts]
    decide

theorem created_accounts :
    (behind (calls.take 1)).accounts = [createdOn "eip155:1" 100] := by
  decide +kernel

theorem revocation_is_effective_created : ∃ s', Revoked "owner" (accountId "eip155:1" keyAddress)
    (behind (calls.take 1)) s' := by
  have hclear : Transition.Guarded callStep (fun store call => StaysClear call.1 store call.2)
      WalletStore.empty (calls.take 1) :=
    ⟨fun _ _ _ _ _ _ hmem => absurd hmem List.not_mem_nil, fun _ _ => trivial⟩
  have hfound : (behind (calls.take 1)).accounts.find?
      (isAccount "owner" (accountId "eip155:1" keyAddress)) = some (createdOn "eip155:1" 100) := by
    rw [created_accounts]
    decide
  obtain ⟨account, s', hdoes⟩ : ∃ account s', Does (revokeAccount storageKey 500 "owner"
      (accountId "eip155:1" keyAddress)) (behind (calls.take 1)) account s' :=
    ⟨_, _, does_revokeAccount.mpr ⟨rfl, by decide, by decide, _, hfound, rfl, rfl⟩⟩
  exact ⟨s', (revocation_is_effective (run_behind _) hclear).2 storageKey 500 _ _ _ _ hdoes⟩

end Sample

/-! ## 5. What the provider's operations do -/

/-- Accounts, keys and defaults are as they were. -/
def SameAccounts (s t : WalletStore) : Prop :=
  t.accounts = s.accounts ∧ t.managedWallets = s.managedWallets ∧
    t.defaultAccounts = s.defaultAccounts

theorem sameAccounts_frame (T : Nat) : Frame SameAccounts T SameAccounts where
  refl _ := ⟨rfl, rfl, rfl⟩
  trans h h' := ⟨h'.1.trans h.1, h'.2.1.trans h.2.1, h'.2.2.trans h.2.2⟩
  same h := h
  pruned _ _ _ := ⟨rfl, rfl, rfl⟩

/-- The call that a request makes, if its operation is one on accounts. -/
def callOf [WalletSigner] (at_ : Circumstances) (request : WalletProviderRequestV2) :
    Option AccountCall :=
  let principalId := request.authority.principalId
  let now := at_.clock 0
  match request.operation with
  | .createManagedAccount chainNamespace label createNew =>
    some (.createManagedAccount at_ ⟨principalId, chainNamespace, label, createNew⟩)
  | .importManagedRecoveryKey recoveryKey label =>
    some (.importManagedRecoveryKey (at_.nonces 0) now ⟨principalId, recoveryKey, label⟩)
  | .importManagedRecoverySet recoverySet =>
    some (.importManagedRecoverySet at_ principalId recoverySet)
  | .linkVerifiedAccount proofBindingId chainNamespace address proofType label =>
    some (.linkAccount now ⟨principalId, proofBindingId, chainNamespace, address, proofType,
      some request.authority.actor, label⟩)
  | .revokeAccount accountId => some (.revokeAccount now principalId accountId)
  | .renameAccount accountId label => some (.renameAccount principalId accountId label)
  | .setDefaultAccount chainNamespace intent accountId =>
    some (.setDefaultAccount now ⟨principalId, chainNamespace, intent, accountId⟩)
  | _ => none

variable {request : WalletProviderRequestV2}

/-- Only a request to revoke an account does. -/
theorem eq_of_callOf_eq_revoke [WalletSigner] {at_ : Circumstances} {now : Nat}
    {principalId accountId : String}
    (h : callOf at_ request = some (.revokeAccount now principalId accountId)) :
    request.operation = .revokeAccount accountId ∧ request.authority.principalId = principalId := by
  rw [callOf] at h
  cases hop : request.operation <;> rw [hop] at h <;> cases h
  exact ⟨rfl, rfl⟩

/-- Only a request to link an account does. -/
theorem eq_of_callOf_eq_link [WalletSigner] {at_ : Circumstances} {now : Nat}
    {input : LinkAccountInput} (h : callOf at_ request = some (.linkAccount now input)) :
    request.operation = .linkVerifiedAccount input.proofBindingId input.chainNamespace input.address
      input.proofType input.label ∧ request.authority.principalId = input.principalId := by
  rw [callOf] at h
  cases hop : request.operation <;> rw [hop] at h <;> cases h
  exact ⟨rfl, rfl⟩

section

variable [Curves] [Crypto] [WalletSigner] [BitcoinCrate] [Custody.Aes256Gcm] [SerdeJson]
  [DerivedSerialize] [ElastosAuth]

section

open Spares

/-- All other operations spare the accounts. -/
theorem spares_dispatch_accounts {storageKey : Option (Bytes 32)} {at_ : Circumstances} {T : Nat}
    {request : WalletProviderRequestV2} (hT : at_.clock 0 ≤ T) (hT' : at_.clock 1 ≤ T)
    (hother : callOf at_ request = none) :
    Spares SameAccounts T (dispatchWalletOperation storageKey at_ request) := by
  have happrovals : ∀ s l, SameAccounts s { s with approvalRequests := l } :=
    fun _ _ => ⟨rfl, rfl, rfl⟩
  rw [dispatchWalletOperation]
  cases hop : request.operation with
  | listAccounts | defaultAccount | listApprovals | exportManagedRecoveryKey
  | exportManagedRecoverySet => exact (reading _).bind fun _ => (check _).bind fun _ => .pure _
  | createManagedAccount | linkVerifiedAccount | revokeAccount | renameAccount | setDefaultAccount
  | importManagedRecoveryKey | importManagedRecoverySet =>
    rw [callOf, hop] at hother
    cases hother
  | challenge => exact (spares_challenge (fun _ _ => ⟨rfl, rfl, rfl⟩) hT _).bind fun _ => .pure _
  | bitcoinChallenge =>
    exact (spares_bitcoinChallenge (fun _ _ => ⟨rfl, rfl, rfl⟩) hT _).bind fun _ => .pure _
  | verifyProof =>
    exact (spares_verifyProof (fun _ _ => ⟨rfl, rfl, rfl⟩) _ _).bind fun _ => .pure _
  | verifyContractProof =>
    exact (spares_verifyContractProof (fun _ _ => ⟨rfl, rfl, rfl⟩) _ _ _).bind fun _ => .pure _
  | verifyBip322Proof =>
    exact (spares_verifyBitcoinProof (fun _ _ => ⟨rfl, rfl, rfl⟩) _ _ _ _).bind fun _ => .pure _
  | requestProtectedContentRightsSignature =>
    exact (spares_requestProtectedContentRightsSignature happrovals hT' _ _ _ _).bind
      fun _ => .pure _
  | requestApproval => exact (spares_requestApproval happrovals hT _).bind fun _ => .pure _
  | rejectApproval => exact (spares_rejectApproval happrovals hT _ _ _ _ _).bind fun _ => .pure _
  | approveAndSignManaged =>
    exact (spares_approveAndSignManaged happrovals hT hT' _ _ _ _).bind fun _ => .pure _
  | approveConnectorHandoff =>
    exact (spares_approveConnectorHandoff happrovals hT _ _ _ _ _).bind fun _ => .pure _
  | completeConnectorHandoff =>
    exact (spares_completeConnectorHandoff happrovals hT _).bind fun _ => .pure _
  | attachValidatedChainOutcome =>
    exact (spares_attachValidatedChainOutcome happrovals _ _).bind fun _ => .pure _

end

/-- **What an operation does to the accounts.** -/
theorem Event.Leaves.rewrites {e : Event} {s' : WalletStore} (h : e.Leaves s') :
    (∃ call, callOf e.circumstances e.request = some call ∧
      Rewrites e.storageKey e.store call s') ∨
    (callOf e.circumstances e.request = none ∧ SameAccounts e.store s') := by
  cases hcall : callOf e.circumstances e.request with
  | none =>
    have hspares : Spares SameAccounts (max (e.circumstances.clock 0) (e.circumstances.clock 1))
        (dispatchWalletOperation e.storageKey e.circumstances e.request) :=
      spares_dispatch_accounts (Nat.le_max_left _ _) (Nat.le_max_right _ _) hcall
    exact Or.inr ⟨rfl, hspares.extends_ (sameAccounts_frame _) h⟩
  | some call =>
    refine Or.inl ⟨call, rfl, ?_⟩
    rw [Leaves, dispatchWalletOperation] at h
    rw [callOf] at hcall
    cases hop : e.request.operation <;> rw [hop] at hcall <;> cases hcall
    all_goals
      rw [hop] at h
      obtain ⟨_, _, hdoes, hlast⟩ := does_bind.mp h
      obtain ⟨-, rfl⟩ := does_pure.mp hlast
      exact AccountCall.rewrites (hdoes.bind rfl)

end

end ElastosRuntime.Wallet
