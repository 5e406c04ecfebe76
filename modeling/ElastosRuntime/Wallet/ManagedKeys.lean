/-
# Managed keys stay within reach

The record of an account and its encrypted key stand in two lists.  A managed account is of use only
as long as the record is active and managed and the one unrevoked key of the account is its own
(`KeyOf`), and all operations but two leave it so: importing the account again encrypts the same key
anew, and revoking it is meant to take it away.

Linking is the other one.  `link_account` puts its record in the place of whatever record the
account had, also of a managed one, whose key then is out of reach: `managed_keys_stay`.
-/
import ElastosRuntime.Lib.Segments
import ElastosRuntime.Wallet.Revocations

namespace ElastosRuntime.Wallet

open Contracts Text WalletCurve WalletSigner Records Streams Streams.Effect Relation Custody

/-! ## 1. Names of managed accounts -/

theorem notMem_of_decimalDigits {c : Char} (hc : decimalDigit c = none) {chars : List Char}
    {values : List Nat} (h : chars.mapM decimalDigit = some values) : c ∉ chars := by
  induction chars generalizing values with
  | nil => exact List.not_mem_nil
  | cons first rest ih =>
    rw [List.mapM_cons] at h
    simp only [Option.bind_eq_bind, Option.bind_eq_some_iff] at h
    obtain ⟨digit, hdigit, tail, htail, -⟩ := h
    intro hmem
    rcases List.mem_cons.mp hmem with rfl | hrest
    · rw [hc] at hdigit
      cases hdigit
    · exact ih htail hrest

/-- A number has no colon in it. -/
theorem notMem_of_parseU64 {s : String} {value : UInt64} (h : parseU64 s = some value) :
    ':' ∉ s.toList := by
  have hdigits : ∀ {digits : List Char}, (if digits = [] then none else do
      let values ← digits.mapM decimalDigit
      let value := values.foldl (fun n digit => 10 * n + digit) 0
      if value < 2 ^ 64 then some (UInt64.ofNat value) else none) = some value →
      ':' ∉ digits := by
    intro digits h
    split at h
    · cases h
    · obtain ⟨values, hvalues, -⟩ := Option.bind_eq_some_iff.mp h
      exact notMem_of_decimalDigits (by decide) hvalues
  rw [parseU64] at h
  split at h
  · next rest hplus =>
    rw [hplus]
    exact List.not_mem_cons_of_ne_of_not_mem (by decide) (hdigits h)
  · exact hdigits h

/-- A chain that accounts are managed on: a name, and behind a colon the chain. -/
theorem chain_of_managedProofType {chainNamespace proofType : String}
    (h : managedProofType chainNamespace = .ok proofType) :
    ∃ name chain, chainNamespace.toList = name ++ ':' :: chain ∧ ':' ∉ name ∧ ':' ∉ chain := by
  simp only [managedProofType, Codec.bind_eq_ok, exists_unit] at h
  obtain ⟨-, h⟩ := h
  split at h
  · simp only [validateEvmChainNamespace, eip155ChainId, Codec.bind_eq_ok, exists_unit, okOr_eq_ok]
      at h
    obtain ⟨⟨value, ⟨-, digits, hstrip, number, hnumber, -⟩, -⟩, -⟩ := h
    rw [stripPrefix_eq_some_iff.mp hstrip, String.toList_append]
    exact ⟨"eip155".toList, digits.toList, by simp, by decide, notMem_of_parseU64 hnumber⟩
  · split at h
    · next hbitcoin =>
      rw [hbitcoin]
      exact ⟨"bip122".toList, "000000000019d6689c085ae165831e93".toList, by decide, by decide,
        by decide⟩
    · cases h

theorem isManagedProofType_of_chain {chainNamespace proofType : String}
    (h : managedProofType chainNamespace = .ok proofType) : isManagedProofType proofType = true := by
  simp only [managedProofType, Codec.bind_eq_ok, exists_unit] at h
  obtain ⟨-, h⟩ := h
  split at h
  · simp only [Codec.bind_eq_ok, exists_unit, pure_eq_ok] at h
    rw [← h.2]
    decide
  · split at h
    · rw [← Except.ok.inj h]
      decide
    · cases h

/-- The id of a managed account is read in one way. -/
theorem accountId_inj {chain chain' address address' proofType proofType' : String}
    (hchain : managedProofType chain = .ok proofType)
    (hchain' : managedProofType chain' = .ok proofType')
    (h : accountId chain address = accountId chain' address') :
    chain = chain' ∧ address = address' := by
  obtain ⟨name, rest, hlist, hname, hrest⟩ := chain_of_managedProofType hchain
  obtain ⟨name', rest', hlist', hname', hrest'⟩ := chain_of_managedProofType hchain'
  have hchars := congrArg String.toList h
  simp only [accountId, String.toList_append, hlist, hlist', List.append_assoc, List.cons_append,
    List.append_cancel_left_eq] at hchars
  obtain ⟨rfl, htail⟩ := append_cons_inj hname hname' hchars
  have hcolon : ":".toList = [':'] := rfl
  rw [hcolon, List.singleton_append, List.singleton_append] at htail
  obtain ⟨rfl, haddress⟩ := append_cons_inj hrest hrest' htail
  exact ⟨String.toList_inj.mp (hlist.trans hlist'.symm), String.toList_inj.mp haddress⟩

/-! ## 2. Addresses as they are compared -/

/-- Hexadecimal digits behind their prefix hold no blank. -/
theorem trim_hex {raw : String} (h : ∀ c ∈ raw.toList, isAsciiHexdigit c = true) :
    trim ("0x" ++ raw) = "0x" ++ raw := by
  have hfront : ∀ c ∈ "0x".toList, isWhitespace c = false :=
    isWhitespace_of_any_eq_false (by decide +kernel)
  refine trim_eq_self fun c hc => ?_
  rw [String.toList_append] at hc
  rcases List.mem_append.mp hc with hc | hc
  · exact hfront c hc
  · exact isWhitespace_of_isAsciiHexdigit (h c hc)

theorem lowercase_hexPrefix (raw : String) : lowercase ("0x" ++ raw) = "0x" ++ lowercase raw := by
  have hprefix : lowercase "0x" = "0x" := by decide
  rw [lowercase_append, hprefix]

theorem isAsciiHexdigit_of_mem_lowercase {raw : String}
    (h : ∀ c ∈ raw.toList, isAsciiHexdigit c = true) {c : Char} (hc : c ∈ (lowercase raw).toList) :
    isAsciiHexdigit c = true := by
  rw [lowercase, String.toList_ofList] at hc
  obtain ⟨d, hd, rfl⟩ := List.mem_map.mp hc
  exact isAsciiHexdigit_toAsciiLowercase (h d hd)

theorem validateEvmAddress_eq_ok {address : String} :
    validateEvmAddress address = .ok () ↔ ∃ raw, trim address = "0x" ++ raw ∧
      byteLength raw = 40 ∧ all raw isAsciiHexdigit = true := by
  simp only [validateEvmAddress, Codec.bind_eq_ok, okOr_eq_ok, failIf_eq_ok,
    stripPrefix_eq_some_iff, not_or, not_not]

/-- An address that is in its compared form already. -/
theorem canonicalAddress_idem {proofType address canonical : String}
    (h : canonicalAddress proofType address = .ok canonical) :
    canonicalAddress proofType canonical = .ok canonical := by
  rw [canonicalAddress] at h ⊢
  split at h
  · next hevm =>
    rw [if_pos hevm]
    simp only [Codec.bind_eq_ok, exists_unit, pure_eq_ok, validateEvmAddress_eq_ok] at h ⊢
    obtain ⟨⟨raw, htrim, hlength, hhex⟩, rfl⟩ := h
    have hdigits := List.all_eq_true.mp hhex
    have hlower : normalizeEvmAddress address = "0x" ++ lowercase raw := by
      rw [normalizeEvmAddress, htrim, lowercase_hexPrefix]
    have hkept : trim ("0x" ++ lowercase raw) = "0x" ++ lowercase raw :=
      trim_hex fun c hc => isAsciiHexdigit_of_mem_lowercase hdigits hc
    rw [hlower]
    refine ⟨⟨lowercase raw, hkept, (byteLength_lowercase raw).trans hlength, ?_⟩, ?_⟩
    · exact List.all_eq_true.mpr fun c hc => isAsciiHexdigit_of_mem_lowercase hdigits hc
    · rw [normalizeEvmAddress, hkept, lowercase_hexPrefix, lowercase_idem]
  · next hother => exact if_neg hother

/-- An address that a key derives is in its compared form. -/
theorem canonicalAddress_derived [Crypto] [WalletSigner] [BitcoinCrate] {signingKey : SigningKey}
    {chainNamespace proofType derived canonical : String}
    (hproofType : managedProofType chainNamespace = .ok proofType)
    (hderived : managedAddressForSigningKey signingKey chainNamespace = .ok derived)
    (h : canonicalAddress proofType derived = .ok canonical) : canonical = derived := by
  rw [canonicalAddress] at h
  split at h
  · next hevm =>
    simp only [managedAddressForSigningKey, hproofType, Codec.bind_eq_ok, Except.ok.injEq,
      exists_eq_left', if_pos hevm, pure_eq_ok] at hderived
    simp only [Codec.bind_eq_ok, exists_unit, pure_eq_ok] at h
    obtain ⟨-, rfl⟩ := h
    have hlower : derived = "0x" ++ lowercase (hexEncode
        ((keccak256 ((encodedPoint signingKey).drop 1)).toList.drop 12)) := by
      rw [← hderived, evmAddressForSigningKey, evmAddressOfPoint, lowercase_hexPrefix]
    rw [hlower, normalizeEvmAddress, trim_hex fun c hc => isAsciiHexdigit_of_mem_lowercase
      (fun _ => isAsciiHexdigit_of_mem_hexEncode) hc, lowercase_hexPrefix, lowercase_idem]
  · exact (Except.ok.inj h).symm

/-! ## 3. Keys that are encrypted and read back -/

section

variable [Crypto] [WalletSigner] [BitcoinCrate] [Aes256Gcm]

/-- What the wallet relies on of its keys (`k256`): a key is read back from its bytes, and the
address tells it, as an address is compared when a key is recovered. -/
class LawfulSigningKeys : Prop where
  fromSlice_toBytes : ∀ signingKey : SigningKey,
    signingKeyFromSlice (signingKeyToBytes signingKey) = some signingKey
  eq_of_address : ∀ {signingKey recovered : SigningKey}
    {chainNamespace address recoveredAddress : String},
    managedAddressForSigningKey signingKey chainNamespace = .ok address →
    managedAddressForSigningKey recovered chainNamespace = .ok recoveredAddress →
    eqIgnoreAsciiCase recoveredAddress address = true → recovered = signingKey

variable {storageKey : Option (Bytes 32)} {nonce : Bytes 12}
  {principalId chainNamespace address : String} {signingKey : SigningKey} {now : Nat}
  {secret : ManagedWalletSecret} {account : LinkedAccount} {wallets : List ManagedWalletSecret}

omit [WalletSigner] [BitcoinCrate] in
theorem encryptManagedKey_eq_ok {id : String} {privateKey : List UInt8} :
    encryptManagedKey storageKey nonce id principalId chainNamespace address privateKey now =
      .ok secret ↔
    ∃ key ciphertext, managedStorageKey storageKey principalId = .ok key ∧
      Aes256Gcm.encrypt key nonce privateKey
        (utf8Bytes (managedKeyAad id principalId chainNamespace address)) = some ciphertext ∧
      secret =
        { schema := "elastos.wallet.managed_secret/v1"
          accountId := id
          principalId := principalId
          chainNamespace := chainNamespace
          address := address
          keyAlgorithm := "secp256k1"
          cipher := "aes-256-gcm"
          nonce := hexEncode nonce.toList
          ciphertext := hexEncode ciphertext
          createdAt := now
          revokedAt := none } := by
  simp only [encryptManagedKey, Codec.bind_eq_ok, okOr_eq_ok, pure_eq_ok, eq_comm (b := secret)]
  constructor
  · rintro ⟨key, hkey, ciphertext, hciphertext, hsecret⟩
    exact ⟨key, ciphertext, hkey, hciphertext, hsecret⟩
  · rintro ⟨key, ciphertext, hkey, hciphertext, hsecret⟩
    exact ⟨key, hkey, ciphertext, hciphertext, hsecret⟩

/-- **A key that was encrypted is read back.** -/
theorem decryptManagedKey_encrypt [LawfulAes256Gcm] [LawfulSigningKeys] {id : String}
    (h : encryptManagedKey storageKey nonce id principalId chainNamespace address
      (signingKeyToBytes signingKey) now = .ok secret) :
    decryptManagedKey storageKey secret = .ok signingKey := by
  obtain ⟨key, ciphertext, hkey, hciphertext, rfl⟩ := encryptManagedKey_eq_ok.mp h
  have hnonce : nonce.toList.length = 12 := nonce.2
  simp only [decryptManagedKey, Codec.bind_eq_ok, failIf_eq_ok, exists_unit, okOr_eq_ok,
    hexDecode_hexEncode]
  refine ⟨by decide, key, hkey, nonce.toList, rfl, ?_⟩
  rw [dif_pos hnonce]
  simp only [Codec.bind_eq_ok, pure_eq_ok, okOr_eq_ok]
  exact ⟨nonce, rfl, ciphertext, rfl, signingKeyToBytes signingKey,
    LawfulAes256Gcm.decrypt_encrypt hciphertext, LawfulSigningKeys.fromSlice_toBytes signingKey⟩

/-- What holds of an account whose key can be had. -/
theorem managedSigningKey_facts
    (h : managedSigningKeyForAccount storageKey wallets account = .ok signingKey) :
    ∃ proofType canonical derived, managedProofType account.chainNamespace = .ok proofType ∧
      canonicalAddress proofType account.address = .ok canonical ∧
      managedAddressForSigningKey signingKey account.chainNamespace = .ok derived ∧
      canonicalAddress proofType derived = .ok canonical ∧
      account.accountId = accountId account.chainNamespace canonical := by
  simp only [managedSigningKeyForAccount, Codec.bind_eq_ok, failIf_eq_ok, exists_unit,
    pure_eq_ok] at h
  obtain ⟨-, -, proofType, hproofType, -, address, haddress, secret, -, -, secretAddress, -, -, key,
    -, derived, hderived, canonical, hcanonical, hsame, hid, -, rfl⟩ := h
  rw [not_or, not_not, not_not] at hsame hid
  obtain ⟨rfl, -⟩ := hsame
  exact ⟨proofType, canonical, derived, hproofType, haddress, hderived, hcanonical, hid.1⟩

omit [Crypto] [Aes256Gcm] in
theorem recoveredKey_facts {recoveryKey : Json} {recovered : RecoveredKey}
    (h : readRecoveryKey recoveryKey = .ok recovered) :
    ∃ derived, managedAddressForSigningKey recovered.signingKey recovered.chainNamespace =
      .ok derived ∧ eqIgnoreAsciiCase derived recovered.address = true := by
  simp only [readRecoveryKey, Codec.bind_eq_ok, pure_eq_ok, failIf_eq_ok] at h
  obtain ⟨-, -, _, -, _, -, _, -, -, -, -, -, -, -, -, -, _, -, _, -, _, -, derived, hderived, -,
    hsame, rfl⟩ := h
  exact ⟨derived, hderived, Bool.of_not_eq_false hsame⟩

end

/-! ## 4. The key of an account -/

/-- An unrevoked key that is stored for the account. -/
def isActiveSecret (principalId accountId : String) (secret : ManagedWalletSecret) : Bool :=
  secret.revokedAt.isNone && secret.principalId == principalId && secret.accountId == accountId

theorem activeSecret_eq_ok {wallets : List ManagedWalletSecret} {account : LinkedAccount}
    {secret : ManagedWalletSecret}
    (h : wallets.filter (isActiveSecret account.principalId account.accountId) = [secret]) :
    activeSecret wallets account = .ok secret := by
  have hfilter : (wallets.filter fun secret => secret.revokedAt.isNone &&
      secret.principalId == account.principalId && secret.accountId == account.accountId) =
      [secret] := h
  rw [activeSecret, hfilter]

theorem activeSecret_congr {wallets wallets' : List ManagedWalletSecret} {account : LinkedAccount}
    (h : wallets'.filter (isActiveSecret account.principalId account.accountId) =
      wallets.filter (isActiveSecret account.principalId account.accountId)) :
    activeSecret wallets' account = activeSecret wallets account := by
  have hfilter : (wallets'.filter fun secret => secret.revokedAt.isNone &&
      secret.principalId == account.principalId && secret.accountId == account.accountId) =
      wallets.filter fun secret => secret.revokedAt.isNone &&
        secret.principalId == account.principalId && secret.accountId == account.accountId := h
  rw [activeSecret, activeSecret, hfilter]

section

variable {wallets : List ManagedWalletSecret} {principalId accountId p id : String} {now : Nat}

variable {secret : ManagedWalletSecret}

theorem isActiveSecret_eq_false (hother : ¬(p = principalId ∧ id = accountId))
    (hprincipal : secret.principalId = p) (hid : secret.accountId = id) :
    isActiveSecret principalId accountId secret = false := by
  refine Bool.eq_false_iff.mpr fun hactive => hother ?_
  simp only [isActiveSecret, Bool.and_eq_true, beq_iff_eq] at hactive
  exact ⟨hprincipal.symm.trans hactive.1.2, hid.symm.trans hactive.2⟩

/-- Keys of other accounts that are revoked are not seen. -/
theorem filter_revokeSecret (hother : ¬(p = principalId ∧ id = accountId)) :
    (wallets.map (revokeSecret now p id)).filter (isActiveSecret principalId accountId) =
      wallets.filter (isActiveSecret principalId accountId) := by
  refine filter_map_of_fixed fun secret => ?_
  rw [revokeSecret]
  split
  · next h =>
    exact Or.inr ⟨isActiveSecret_eq_false hother h.2 h.1, isActiveSecret_eq_false hother h.2 h.1⟩
  · exact Or.inl rfl

theorem filter_replaceSecret (hother : ¬(p = principalId ∧ id = accountId)) :
    (wallets.map (replaceSecret now p id)).filter (isActiveSecret principalId accountId) =
      wallets.filter (isActiveSecret principalId accountId) := by
  refine filter_map_of_fixed fun secret => ?_
  rw [replaceSecret]
  split
  · next h =>
    exact Or.inr ⟨isActiveSecret_eq_false hother h.1 h.2.1,
      isActiveSecret_eq_false hother h.1 h.2.1⟩
  · exact Or.inl rfl

/-- Of the keys an account had none is left behind its import. -/
theorem filter_replaceSecret_self :
    (wallets.map (replaceSecret now principalId accountId)).filter
      (isActiveSecret principalId accountId) = [] := by
  refine List.filter_eq_nil_iff.mpr fun secret hsecret hactive => ?_
  obtain ⟨before, -, rfl⟩ := List.mem_map.mp hsecret
  rw [replaceSecret] at hactive
  split at hactive
  · cases hactive
  · next hother =>
    simp only [isActiveSecret, Bool.and_eq_true, beq_iff_eq] at hactive
    exact hother ⟨hactive.1.2, hactive.2, hactive.1.1⟩

theorem filter_append_of_ne (hother : isActiveSecret principalId accountId secret = false) :
    (wallets ++ [secret]).filter (isActiveSecret principalId accountId) =
      wallets.filter (isActiveSecret principalId accountId) := by
  rw [List.filter_append, List.filter_cons_of_neg (by rw [hother]; exact Bool.false_ne_true),
    List.filter_nil, List.append_nil]

end

section

variable [Crypto] [WalletSigner] [BitcoinCrate] [Aes256Gcm]

variable {storageKey : Option (Bytes 32)} {s s' : WalletStore} {principalId accountId : String}
  {signingKey : SigningKey} {account : LinkedAccount} {wallets wallets' : List ManagedWalletSecret}

/-- The principal's account of the id is active and managed, and this is the key it signs with. -/
def KeyOf (storageKey : Option (Bytes 32)) (s : WalletStore) (principalId accountId : String)
    (signingKey : SigningKey) : Prop :=
  ∃ account, activeAccount s.accounts principalId accountId = some account ∧
    isManagedProofType account.proofType = true ∧
    managedSigningKeyForAccount storageKey s.managedWallets account = .ok signingKey

theorem managedSigningKey_congr (h : activeSecret wallets' account = activeSecret wallets account) :
    managedSigningKeyForAccount storageKey wallets' account =
      managedSigningKeyForAccount storageKey wallets account := by
  rw [managedSigningKeyForAccount, managedSigningKeyForAccount, h]

/-- Where the record is the same but for its label, and so are the keys stored for it. -/
theorem KeyOf.of_account (h : KeyOf storageKey s principalId accountId signingKey)
    (haccount : ∀ account, activeAccount s.accounts principalId accountId = some account →
      ∃ given, activeAccount s'.accounts principalId accountId = some { account with label := given })
    (hsecrets : s'.managedWallets.filter (isActiveSecret principalId accountId) =
      s.managedWallets.filter (isActiveSecret principalId accountId)) :
    KeyOf storageKey s' principalId accountId signingKey := by
  obtain ⟨account, hfound, hmanaged, hkey⟩ := h
  obtain ⟨given, hgiven⟩ := haccount account hfound
  obtain ⟨rfl, rfl⟩ := isAccount_iff.mp (mem_of_activeAccount hfound).2.1
  refine ⟨_, hgiven, hmanaged, ?_⟩
  have hlabel : managedSigningKeyForAccount storageKey s'.managedWallets
      { account with label := given } =
        managedSigningKeyForAccount storageKey s'.managedWallets account := rfl
  rw [hlabel, managedSigningKey_congr (activeSecret_congr hsecrets), hkey]

/-- The account and its keys are as they were. -/
theorem KeyOf.of_same (h : KeyOf storageKey s principalId accountId signingKey)
    (haccount : activeAccount s'.accounts principalId accountId =
      activeAccount s.accounts principalId accountId)
    (hsecrets : s'.managedWallets.filter (isActiveSecret principalId accountId) =
      s.managedWallets.filter (isActiveSecret principalId accountId)) :
    KeyOf storageKey s' principalId accountId signingKey :=
  h.of_account (fun account hfound => ⟨account.label, haccount.trans hfound⟩) hsecrets

/-- An account whose one key was encrypted for it. -/
theorem managedSigningKey_of_encrypted [LawfulAes256Gcm] [LawfulSigningKeys]
    {chainNamespace address proofType : String} {label : Option String} {linkedAt now : Nat}
    {nonce : Bytes 12} {secret : ManagedWalletSecret}
    (hproofType : managedProofType chainNamespace = .ok proofType)
    (hderived : managedAddressForSigningKey signingKey chainNamespace = .ok address)
    (hcanonical : canonicalAddress proofType address = .ok address)
    (hsecret : encryptManagedKey storageKey nonce (Wallet.accountId chainNamespace address)
      principalId chainNamespace address (signingKeyToBytes signingKey) now = .ok secret)
    (hactive : activeSecret wallets
      (managedAccount principalId chainNamespace address proofType label linkedAt) = .ok secret) :
    managedSigningKeyForAccount storageKey wallets
      (managedAccount principalId chainNamespace address proofType label linkedAt) =
        .ok signingKey := by
  have hdecrypt := decryptManagedKey_encrypt hsecret
  obtain ⟨key, ciphertext, hkey, hciphertext, heq⟩ := encryptManagedKey_eq_ok.mp hsecret
  have hschema : secret.schema = "elastos.wallet.managed_secret/v1" := by rw [heq]
  have hprincipal : secret.principalId = principalId := by rw [heq]
  have hid : secret.accountId = Wallet.accountId chainNamespace address := by rw [heq]
  have hchain : secret.chainNamespace = chainNamespace := by rw [heq]
  have haddress : secret.address = address := by rw [heq]
  simp only [managedSigningKeyForAccount, Codec.bind_eq_ok, failIf_eq_ok, exists_unit, pure_eq_ok]
  refine ⟨Bool.false_ne_true, Bool.false_ne_true, proofType, hproofType, fun h => h rfl, address,
    hcanonical, secret, hactive, ?_, address, ?_, fun h => h rfl, signingKey, hdecrypt, address,
    hderived, address, hcanonical, ?_, ?_, fun h => h rfl, rfl⟩
  · rw [hschema, hprincipal, hid, hchain]
    simp [managedAccount]
  · rw [haddress]
    exact hcanonical
  · simp
  · rw [hid]
    simp [managedAccount]

/-! ## 5. What becomes of a key -/

/-- A key is created for no account that is active. -/
theorem Creates.keyOf {at_ : Circumstances} {input : CreateManagedAccountInput}
    (h : Creates storageKey s at_ input s')
    (hkey : KeyOf storageKey s principalId accountId signingKey) :
    KeyOf storageKey s' principalId accountId signingKey := by
  cases h with
  | @account created address proofType secret hmay haddress hunused hsecret =>
    obtain ⟨account, hfound, hrest⟩ := hkey
    obtain ⟨hmem, hnamed, hactive⟩ := mem_of_activeAccount hfound
    have hother : Wallet.accountId input.chainNamespace address ≠ accountId := by
      rintro rfl
      refine Bool.false_ne_true (hunused.symm.trans ?_)
      rw [inUse, Bool.or_eq_true]
      refine Or.inl (List.any_eq_true.mpr ⟨account, hmem, ?_⟩)
      rw [hactive, (isAccount_iff.mp hnamed).2, beq_self_eq_true]
      rfl
    have hid : secret.accountId = Wallet.accountId input.chainNamespace address := by
      obtain ⟨-, -, -, -, rfl⟩ := encryptManagedKey_eq_ok.mp hsecret
      rfl
    refine KeyOf.of_same ⟨account, hfound, hrest⟩ ?_ ?_
    · rw [activeAccount_eq, List.find?_append, ← activeAccount_eq, hfound, Option.some_or]
    · refine filter_append_of_ne (isActiveSecret_eq_false ?_ rfl rfl)
      rintro ⟨-, hsame⟩
      exact hother (hid.symm.trans hsame)

/-- The key of an account that is imported again is encrypted anew. -/
theorem Imports.keyOf [LawfulAes256Gcm] [LawfulSigningKeys] {p : String}
    (h : Imports storageKey p s s')
    (hkey : KeyOf storageKey s principalId accountId signingKey) :
    KeyOf storageKey s' principalId accountId signingKey := by
  cases h with
  | @account recoveryKey recovered proofType nonce now secret linkedAt label hread hproofType hsecret =>
    have hid := recoveredKey_accountId hread
    have hsecretOf : secret.principalId = p ∧ secret.accountId = recovered.accountId ∧
        secret.revokedAt = none := by
      obtain ⟨-, -, -, -, rfl⟩ := encryptManagedKey_eq_ok.mp hsecret
      exact ⟨rfl, rfl, rfl⟩
    by_cases hsame : p = principalId ∧ recovered.accountId = accountId
    · obtain ⟨rfl, hsameId⟩ := hsame
      obtain ⟨account, hfound, -, hkey⟩ := hkey
      obtain ⟨proofType', canonical, derived, hchain, -, hderived, hcanonical, haccount⟩ :=
        managedSigningKey_facts hkey
      obtain ⟨recoveredAddress, hrecovered, hcompared⟩ := recoveredKey_facts hread
      -- the id names the chain and the address, and the address the key
      have hnamed := (isAccount_iff.mp (mem_of_activeAccount hfound).2.1).2
      obtain ⟨hchainEq, haddress⟩ := accountId_inj hchain hproofType <|
        haccount.symm.trans (hnamed.trans (hsameId.symm.trans hid))
      rw [hchainEq] at hchain hderived
      obtain rfl : proofType' = proofType := Except.ok.inj (hchain.symm.trans hproofType)
      obtain rfl : canonical = derived := canonicalAddress_derived hchain hderived hcanonical
      have hkeyEq : recovered.signingKey = signingKey :=
        LawfulSigningKeys.eq_of_address hderived hrecovered (haddress ▸ hcompared)
      rw [hid, hkeyEq, ← haddress] at hsecret
      rw [← haddress] at hid ⊢
      have hown : isAccount p accountId (managedAccount p recovered.chainNamespace canonical
          proofType' label linkedAt) = true := isAccount_iff.mpr ⟨rfl, hid.symm.trans hsameId⟩
      have hactive : isActiveSecret p accountId secret = true := by
        simp [isActiveSecret, hsecretOf.1, hsecretOf.2.1, hsecretOf.2.2, hsameId]
      refine ⟨_, activeAccount_putAccount rfl hown, isManagedProofType_of_chain hchain,
        managedSigningKey_of_encrypted hchain hderived (canonicalAddress_idem hcanonical) hsecret
          (activeSecret_eq_ok ?_)⟩
      have hnamed' := isAccount_iff.mp hown
      rw [hnamed'.1, hnamed'.2, hsameId, List.filter_append, filter_replaceSecret_self,
        List.nil_append, List.filter_cons_of_pos hactive, List.filter_nil]
    · refine hkey.of_same ?_ ?_
      · refine activeAccount_putAccount_of_ne (Bool.eq_false_iff.mpr fun hnamed => hsame ?_)
        obtain ⟨hp, ha⟩ := isAccount_iff.mp hnamed
        exact ⟨hp, hid.trans ha⟩
      · have hother := isActiveSecret_eq_false hsame hsecretOf.1 hsecretOf.2.1
        exact (filter_append_of_ne hother).trans (filter_replaceSecret hsame)

variable [LawfulAes256Gcm] [LawfulSigningKeys]

/-- What a call that succeeds leaves of a key within reach. -/
theorem Rewrites.keyOf {call : AccountCall} (h : Rewrites storageKey s call s')
    (hkey : KeyOf storageKey s principalId accountId signingKey)
    (hkept : ∀ now, call ≠ .revokeAccount now principalId accountId) :
    KeyOf storageKey s' principalId accountId signingKey ∨
      ∃ now input account, call = .linkAccount now input ∧ input.principalId = principalId ∧
        Wallet.accountId input.chainNamespace input.address = accountId ∧
        activeAccount s'.accounts principalId accountId = some account ∧
        isManagedProofType account.proofType = false := by
  cases h with
  | found => exact Or.inl hkey
  | created hcreates => exact Or.inl (hcreates.keyOf hkey)
  | imported himports => exact Or.inl (himports.keyOf hkey)
  | importedSet himports =>
    refine Or.inl ?_
    induction himports with
    | refl => exact hkey
    | tail _ hlast ih => exact hlast.keyOf ih
  | @linked now input account hid hactive hexternal =>
    obtain ⟨hprincipal, haccount⟩ := isAccount_iff.mp hid
    cases hsame : isAccount principalId accountId account with
    | true =>
      obtain ⟨rfl, rfl⟩ := isAccount_iff.mp hsame
      exact Or.inr ⟨now, input, account, rfl, hprincipal.symm, haccount.symm,
        activeAccount_putAccount hactive hsame, hexternal⟩
    | false => exact Or.inl (hkey.of_same (activeAccount_putAccount_of_ne hsame) rfl)
  | @revoked now p id found hfound =>
    have hother : ¬(p = principalId ∧ id = accountId) := by
      rintro ⟨rfl, rfl⟩
      exact hkept now rfl
    exact Or.inl (hkey.of_same (activeAccount_revokeIn_of_ne hfound hother)
      (filter_revokeSecret hother))
  | renamed hfound =>
    refine Or.inl (hkey.of_account (fun account haccount => ?_) rfl)
    rcases activeAccount_rename hfound with hsame | ⟨hown, hrenamed⟩
    · exact ⟨account.label, hsame.trans haccount⟩
    · rw [Option.some.inj (haccount.symm.trans hown)]
      exact ⟨_, hrenamed⟩
  | defaulted => exact Or.inl (hkey.of_same rfl rfl)

end

section

variable [Curves] [Crypto] [WalletSigner] [BitcoinCrate] [Aes256Gcm] [SerdeJson]
  [DerivedSerialize] [ElastosAuth]

/-- The event revokes the account of the principal. -/
def Event.RevokesAccount (e : Event) (principalId accountId : String) : Prop :=
  e.request.operation = .revokeAccount accountId ∧ e.request.authority.principalId = principalId

/-- The event links an external account under the id. -/
def Event.LinksAccount (e : Event) (principalId accountId : String) : Prop :=
  ∃ proofBindingId chainNamespace address proofType label,
    e.request.operation =
      .linkVerifiedAccount proofBindingId chainNamespace address proofType label ∧
    e.request.authority.principalId = principalId ∧
    Wallet.accountId chainNamespace address = accountId

/-- **A key stays within reach** of every operation but the one that revokes its account, exactly if
the operation does not link an account in its place. -/
theorem key_stays_iff [LawfulAes256Gcm] [LawfulSigningKeys] {e : Event} {s' : WalletStore}
    {principalId accountId : String} {signingKey : SigningKey} (h : e.Leaves s')
    (hkey : KeyOf e.storageKey e.store principalId accountId signingKey)
    (hkept : ¬e.RevokesAccount principalId accountId) :
    KeyOf e.storageKey s' principalId accountId signingKey ↔
      ¬e.LinksAccount principalId accountId := by
  rcases h.rewrites with ⟨call, hcall, hrewrites⟩ | ⟨hnone, haccounts, hwallets, -⟩
  · have hkept' : ∀ now, call ≠ .revokeAccount now principalId accountId := by
      rintro now rfl
      exact hkept (eq_of_callOf_eq_revoke hcall)
    constructor
    · rintro ⟨account, hfound, hmanaged, -⟩ ⟨proofBindingId, chainNamespace, address, proofType,
        label, hop, hprincipal, haccount⟩
      rw [callOf, hop] at hcall
      cases hcall
      cases hrewrites with
      | linked hid hactive hexternal =>
        have hnamed := isAccount_iff.mp hid
        have hown := isAccount_iff.mpr ⟨hnamed.1.trans hprincipal, hnamed.2.trans haccount⟩
        rw [activeAccount_putAccount hactive hown] at hfound
        obtain rfl := Option.some.inj hfound
        rw [hexternal] at hmanaged
        cases hmanaged
    · intro hnot
      rcases hrewrites.keyOf hkey hkept' with hstays | ⟨now, input, account, rfl, hp, hid, -⟩
      · exact hstays
      · obtain ⟨hop, hprincipal⟩ := eq_of_callOf_eq_link hcall
        exact absurd ⟨_, _, _, _, _, hop, hprincipal.trans hp, hid⟩ hnot
  · constructor
    · rintro - ⟨proofBindingId, chainNamespace, address, proofType, label, hop, -⟩
      rw [callOf, hop] at hnone
      cases hnone
    · intro _
      exact hkey.of_same (by rw [haccounts]) (by rw [hwallets])

/-! ## 7. Runs -/

/-- The key is within reach, and in the file as well. -/
structure KeepsKey (p : WalletProvider) (principalId accountId : String) (signingKey : SigningKey) :
    Prop where
  store : KeyOf p.storageKey p.store principalId accountId signingKey
  disk : ∀ store, p.disk = some store → KeyOf p.storageKey store principalId accountId signingKey

/-- The event neither revokes the account nor links another in its place. -/
def Event.Spares (e : Event) (principalId accountId : String) : Prop :=
  ¬e.RevokesAccount principalId accountId ∧ ¬e.LinksAccount principalId accountId

variable {p p' : WalletProvider} {later : List Event} {time time' : Nat}
  {principalId accountId : String} {signingKey : SigningKey}

omit [Curves] [SerdeJson] [DerivedSerialize] [ElastosAuth] in
/-- What is recorded with an operation is no account and no key. -/
theorem KeyOf.recorded {storageKey : Option (Bytes 32)} {s : WalletStore}
    (h : KeyOf storageKey s principalId accountId signingKey) (request : WalletProviderRequestV2)
    (now : Nat) : KeyOf storageKey (recordLifecycle request now s) principalId accountId signingKey :=
  h.of_same (by rw [recordLifecycle, pruneStore_accounts]) rfl

variable [LawfulAes256Gcm] [LawfulSigningKeys]

theorem KeepsKey.handle (h : KeepsKey p principalId accountId signingKey) (occasion : Occasion)
    (request : WalletProviderRequestV2)
    (hspares : ∀ e ∈ carriedOut p occasion request, e.Spares principalId accountId) :
    KeepsKey (handleWalletContract p occasion request).2 principalId accountId signingKey := by
  have hbefore : KeyOf p.storageKey (pruneExpiredLifecycles p.store occasion.now) principalId
      accountId signingKey := h.store.of_same rfl rfl
  have hkeeps := handle_keeps occasion request h.store h.disk hbefore (fun _ hs => hs)
    fun reply changed _ hdone hleaves => by
      obtain ⟨hkept, hnot⟩ := hspares _ (hdone ▸ List.mem_singleton_self _)
      exact ((key_stays_iff hleaves hbefore hkept).mpr hnot).recorded request occasion.now
  have hkey : (handleWalletContract p occasion request).2.storageKey = p.storageKey := by
    rcases handleWalletContract_cases p occasion request with
      ⟨-, hsame | hpruned⟩ | ⟨reply, changed, -, -, -, hsaved⟩
    · rw [hsame]
    · rw [hpruned]
    · rw [hsaved, (saved_cases p occasion request changed).1]
  rw [← hkey] at hkeeps
  exact ⟨hkeeps.1, hkeeps.2⟩

theorem Run.keepsKey (hrun : Run false p time later time' p')
    (h : KeepsKey p principalId accountId signingKey)
    (hspares : ∀ e ∈ later, e.Spares principalId accountId) :
    KeepsKey p' principalId accountId signingKey := by
  induction hrun with
  | start => exact h
  | request _ occasion request _ _ _ _ ih =>
    refine (ih fun e he => ?_).handle occasion request fun e he => ?_
    · exact hspares e (List.mem_append_left _ he)
    · exact hspares e (List.mem_append_right _ he)
  | restart _ hrestarts => cases hrestarts

/-- **Managed keys stay within reach**: an operation that does not revoke the account takes its key
away exactly if it links an account in its place, and a run without either keeps the key. -/
theorem managed_keys_stay :
    (∀ (e : Event) s' principalId accountId signingKey, e.Leaves s' →
      KeyOf e.storageKey e.store principalId accountId signingKey →
      ¬e.RevokesAccount principalId accountId →
      (KeyOf e.storageKey s' principalId accountId signingKey ↔
        ¬e.LinksAccount principalId accountId)) ∧
    ∀ p time later time' p' principalId accountId signingKey, Run false p time later time' p' →
      KeepsKey p principalId accountId signingKey →
      (∀ e ∈ later, e.Spares principalId accountId) →
      KeepsKey p' principalId accountId signingKey :=
  ⟨fun _ _ _ _ _ => key_stays_iff, fun _ _ _ _ _ _ _ _ => Run.keepsKey⟩

end

/-! ## 8. An external wallet of the same address is linked -/

namespace Sample

attribute [local instance] acceptingCurves keyEchoCrypto plainSigner plainBitcoin taggingGcm plainJson
  plainSerialize plainAuth taggingGcm_lawful

theorem plainSigner_lawful : LawfulSigningKeys := ⟨fun _ => rfl, fun _ _ _ => rfl⟩

def keyAccountId : String := accountId "eip155:1" keyAddress

def createRequest : WalletProviderRequestV2 :=
  request (.createManagedAccount "eip155:1" none true)
    "wallet-request:00000000000000000000000000000001" 100 130

def createOccasion : Occasion := ⟨100, drawing 100 [()], ⟨.saved, true⟩⟩

theorem createRequest_attempted : Attempted started createOccasion createRequest where
  valid := request_valid (by decide) (by decide) (by decide) (by decide) (by decide)
    ⟨none, rfl⟩ ⟨none, rfl⟩
  effectful := rfl
  unanswered := rfl

def createdCiphertext : List UInt8 := lengthTag 32 ++ List.replicate 32 1

def createdSecret : ManagedWalletSecret where
  schema := "elastos.wallet.managed_secret/v1"
  accountId := keyAccountId
  principalId := "owner"
  chainNamespace := "eip155:1"
  address := keyAddress
  keyAlgorithm := "secp256k1"
  cipher := "aes-256-gcm"
  nonce := hexEncode (Bytes.zero 12).toList
  ciphertext := hexEncode createdCiphertext
  createdAt := 100
  revokedAt := none

theorem createdSecret_encrypted : encryptManagedKey storageKey (Bytes.zero 12) keyAccountId "owner"
    "eip155:1" keyAddress (List.replicate 32 1) 100 = .ok createdSecret := by
  refine encryptManagedKey_eq_ok.mpr ⟨_, createdCiphertext, rfl, if_pos ⟨by decide, ?_⟩, rfl⟩
  decide +kernel

def managedStore : WalletStore :=
  { WalletStore.empty with
    managedWallets := [createdSecret]
    accounts := [createdOn "eip155:1" 100] }

def createEvent : Event :=
  eventOf started createOccasion createRequest (.managedAccount (createdOn "eip155:1" 100) true)

theorem create_leaves : createEvent.Leaves managedStore := by
  refine does_bind.mpr ⟨(createdOn "eip155:1" 100, true), managedStore, ?_, rfl⟩
  refine Does.check (a := ()) rfl (Does.check (a := ()) (by decide) ?_)
  refine Does.check (a := MANAGED_EVM_PROOF_TYPE) (by decide) ?_
  refine Does.check (a := "eip155") (by decide) ?_
  refine does_reads.mpr (Does.check (a := ((), keyAddress, keyAccountId)) ?_ ?_)
  · exact Codec.bind_eq_ok.mpr ⟨keyAddress, by decide, if_neg (by decide)⟩
  refine Does.check (a := createdSecret) ?_ (does_updates.mpr rfl)
  rw [refuse_eq_ok]
  exact createdSecret_encrypted

def managing : WalletProvider :=
  let store := recordLifecycle createRequest 100 managedStore
  ⟨storageKey, store, some store⟩

theorem managing_run : Run true (.stopped none) 0 [createEvent] 100 managing :=
  (Run.restart Run.start rfl storageKey ⟨.saved, true⟩ 0 (Nat.le_refl 0)).saved_step
    (Nat.zero_le 100) (fun _ => rfl) rfl createRequest_attempted create_leaves

def externalRequest (address : String) : WalletProviderRequestV2 :=
  request (.linkVerifiedAccount "proof" "eip155:1" address "siwe" none)
    "wallet-request:00000000000000000000000000000002" 200 230

def externalAccount (address : String) : LinkedAccount where
  accountId := accountId "eip155:1" address
  principalId := "owner"
  proofBindingId := "proof"
  chainNamespace := "eip155:1"
  address := address
  proofType := "siwe"
  connectorId := some "wallet-link"
  label := none
  linkedAt := 200
  revokedAt := none

def externalEvent (address : String) : Event :=
  eventOf managing (occasion 200) (externalRequest address) (.account (externalAccount address))

def linkedStore (address : String) : WalletStore :=
  let store := pruneExpiredLifecycles managing.store 200
  { store with accounts := putAccount (externalAccount address) store.accounts }

theorem external_leaves {address : String}
    (hvalid : (⟨"owner", "proof", "eip155:1", address, "siwe", some "wallet-link", none⟩ :
      LinkAccountInput).validate = .ok ()) :
    (externalEvent address).Leaves (linkedStore address) := by
  refine does_bind.mpr ⟨externalAccount address, linkedStore address, ?_, rfl⟩
  exact Does.check (a := ()) rfl (Does.check (a := ()) (refuse_eq_ok.mpr hvalid) rfl)

theorem managed_keyOf :
    KeyOf storageKey (pruneExpiredLifecycles managing.store 200) "owner" keyAccountId () := by
  have := plainSigner_lawful
  refine ⟨createdOn "eip155:1" 100, by decide, by decide, ?_⟩
  refine managedSigningKey_of_encrypted (by decide) (by decide) (by decide)
    createdSecret_encrypted (activeSecret_eq_ok ?_)
  decide

theorem managed_keys_stay_other :
    KeyOf storageKey (linkedStore address) "owner" keyAccountId () := by
  have := plainSigner_lawful
  refine (managed_keys_stay.1 (externalEvent address) _ _ _ _ (external_leaves (by decide))
    managed_keyOf (fun hrevokes => ?_)).mpr ?_
  · have hoperation := hrevokes.1
    cases hoperation
  · rintro ⟨_, _, linkedAddress, _, _, hoperation, -, hid⟩
    cases hoperation
    exact absurd hid (by decide)

theorem externalRequest_attempted : Attempted managing (occasion 200) (externalRequest keyAddress)
    where
  valid := request_valid (by decide) (by decide) (by decide) (by decide) (by decide)
    ⟨none, rfl⟩ ⟨none, rfl⟩
  effectful := rfl
  unanswered := by decide

/-- The key of the account is stored, but the account is that of an external wallet. -/
theorem linked_over_managed_account : ∃ history time p, Run true (.stopped none) 0 history time p ∧
    externalEvent keyAddress ∈ history ∧
    (externalEvent keyAddress).Leaves (linkedStore keyAddress) ∧
    KeyOf storageKey (externalEvent keyAddress).store "owner" keyAccountId () ∧
    (linkedStore keyAddress).managedWallets = (externalEvent keyAddress).store.managedWallets ∧
    ∀ signingKey, ¬KeyOf storageKey (linkedStore keyAddress) "owner" keyAccountId signingKey := by
  have hleaves : (externalEvent keyAddress).Leaves (linkedStore keyAddress) :=
    external_leaves (by decide)
  refine ⟨_, _, _, managing_run.saved_step (Nat.le_add_right 100 100) (fun _ => rfl) rfl
    externalRequest_attempted hleaves, ?_, hleaves, managed_keyOf, rfl, ?_⟩
  · exact List.mem_append_right _ List.mem_cons_self
  · rintro signingKey ⟨account, hfound, hmanaged, -⟩
    have hexternal : activeAccount (linkedStore keyAddress).accounts "owner" keyAccountId =
        some (externalAccount keyAddress) := by decide
    obtain rfl := Option.some.inj (hexternal.symm.trans hfound)
    cases hmanaged

end Sample

end ElastosRuntime.Wallet
