/-
# Keys the wallet keeps

A managed account's key is stored encrypted, under a key derived from the provider's storage key
and the principal, and bound to the account it belongs to (`main.rs`).  Before a key is used every
part of its record and of the account is compared with what the key itself derives
(`managedSigningKeyForAccount`).
-/
import ElastosRuntime.Custody.ShareWrap
import ElastosRuntime.Wallet.Bitcoin

namespace ElastosRuntime.Wallet

open Contracts Text WalletCurve WalletSigner Custody

variable [Crypto] [WalletSigner] [BitcoinCrate] [Aes256Gcm]

/-! ## 1. Addresses -/

def accountId (chainNamespace address : String) : String :=
  "wallet:" ++ chainNamespace ++ ":" ++ address

/-- `format!("proof:wallet:managed:{chain_namespace}:{address}")` -/
def managedProofBindingId (chainNamespace address : String) : String :=
  "proof:wallet:managed:" ++ chainNamespace ++ ":" ++ address

def managedAddressForSigningKey (signingKey : SigningKey) (chainNamespace : String) :
    Except String String := do
  let proofType ← managedProofType chainNamespace
  if proofType = MANAGED_EVM_PROOF_TYPE then pure (evmAddressForSigningKey signingKey)
  else if proofType = MANAGED_BTC_P2WPKH_PROOF_TYPE then btcP2wpkhAddressForSigningKey signingKey
  else throw "unsupported managed wallet proof type"

/-- The closure of the same name: an address as the proof type compares it. -/
def canonicalAddress (expectedProofType address : String) : Except String String := do
  if expectedProofType = MANAGED_EVM_PROOF_TYPE then
    validateEvmAddress address
    pure (normalizeEvmAddress address)
  else pure address

/-! ## 2. Encryption -/

def managedKeyAad (accountId principalId chainNamespace address : String) : String :=
  "elastos.wallet.managed_secret/v1\n" ++ accountId ++ "\n" ++ principalId ++ "\n" ++
    chainNamespace ++ "\n" ++ normalizeEvmAddress address

def managedStorageKey (storageKey : Option (Bytes 32)) (principalId : String) :
    Except String (Bytes 32) := do
  let storageKey ← okOr storageKey "managed wallet storage key is not initialized"
  pure <| Crypto.sha256 <|
    utf8Bytes "elastos.wallet.managed-key.v1" ++ storageKey.toList ++ utf8Bytes principalId

def UNDECRYPTABLE : String :=
  "managed wallet key could not be decrypted; recover or recreate this account"

def encryptManagedKey (storageKey : Option (Bytes 32)) (nonce : Bytes 12)
    (accountId principalId chainNamespace address : String) (privateKey : List UInt8)
    (createdAt : Nat) : Except String ManagedWalletSecret := do
  let key ← managedStorageKey storageKey principalId
  let aad := managedKeyAad accountId principalId chainNamespace address
  let ciphertext ← okOr (Aes256Gcm.encrypt key nonce privateKey (utf8Bytes aad)) UNDECRYPTABLE
  pure
    { schema := "elastos.wallet.managed_secret/v1"
      accountId := accountId
      principalId := principalId
      chainNamespace := chainNamespace
      address := address
      keyAlgorithm := "secp256k1"
      cipher := "aes-256-gcm"
      nonce := hexEncode nonce.toList
      ciphertext := hexEncode ciphertext
      createdAt := createdAt
      revokedAt := none }

def decryptManagedKey (storageKey : Option (Bytes 32)) (secret : ManagedWalletSecret) :
    Except String SigningKey := do
  failIf (secret.keyAlgorithm ≠ "secp256k1" ∨ secret.cipher ≠ "aes-256-gcm")
    "unsupported managed wallet key envelope"
  let key ← managedStorageKey storageKey secret.principalId
  let nonceBytes ← okOr (hexDecode secret.nonce) "invalid hex"
  let nonce ← if h : nonceBytes.length = 12 then pure (⟨nonceBytes, h⟩ : Bytes 12)
    else throw "managed wallet nonce must be 12 bytes"
  let ciphertext ← okOr (hexDecode secret.ciphertext) "invalid hex"
  let aad :=
    managedKeyAad secret.accountId secret.principalId secret.chainNamespace secret.address
  let privateKey ← okOr (Aes256Gcm.decrypt key nonce ciphertext (utf8Bytes aad)) UNDECRYPTABLE
  okOr (signingKeyFromSlice privateKey) "signature error"

/-! ## 3. The key of an account -/

def MANAGED_KEY_NOT_FOUND : String := "managed wallet key not found"

/-- The one unrevoked key stored for the account. -/
def activeSecret (managedWallets : List ManagedWalletSecret) (account : LinkedAccount) :
    Except String ManagedWalletSecret :=
  match managedWallets.filter fun secret => secret.revokedAt.isNone &&
      secret.principalId == account.principalId && secret.accountId == account.accountId with
  | [] => .error MANAGED_KEY_NOT_FOUND
  | [secret] => .ok secret
  | _ :: _ :: _ => .error "managed wallet account has multiple active signing keys"

def managedSigningKeyForAccount (storageKey : Option (Bytes 32))
    (managedWallets : List ManagedWalletSecret) (account : LinkedAccount) :
    Except String SigningKey := do
  failIf account.revokedAt.isSome "managed wallet account is revoked"
  failIf account.connectorId.isSome "managed wallet account cannot carry connector authority"
  let expectedProofType ← managedProofType account.chainNamespace
  failIf (account.proofType ≠ expectedProofType)
    "managed wallet account proof type does not match its chain"
  let accountAddress ← canonicalAddress expectedProofType account.address
  let secret ← activeSecret managedWallets account
  failIf (secret.schema ≠ "elastos.wallet.managed_secret/v1" ∨
      secret.principalId ≠ account.principalId ∨ secret.accountId ≠ account.accountId ∨
      secret.chainNamespace ≠ account.chainNamespace)
    "managed wallet key metadata does not match its account"
  let secretAddress ← canonicalAddress expectedProofType secret.address
  failIf (secretAddress ≠ accountAddress) "managed wallet key address does not match its account"
  let signingKey ← decryptManagedKey storageKey secret
  let derived ← managedAddressForSigningKey signingKey account.chainNamespace
  let derivedAddress ← canonicalAddress expectedProofType derived
  failIf (derivedAddress ≠ accountAddress ∨ derivedAddress ≠ secretAddress)
    "managed wallet key derives a different account address"
  let expectedAccountId := accountId account.chainNamespace derivedAddress
  failIf (account.accountId ≠ expectedAccountId ∨ secret.accountId ≠ expectedAccountId)
    "managed wallet account id does not match its key authority"
  failIf (account.proofBindingId ≠ managedProofBindingId account.chainNamespace derivedAddress)
    "managed wallet proof binding does not match its key authority"
  pure signingKey

/-- The address a key derives is the account's, as its proof type compares addresses. -/
def Derives (signingKey : SigningKey) (chainNamespace address : String) : Prop :=
  ∃ proofType derived canonical, managedProofType chainNamespace = .ok proofType ∧
    managedAddressForSigningKey signingKey chainNamespace = .ok derived ∧
    canonicalAddress proofType derived = .ok canonical ∧
    canonicalAddress proofType address = .ok canonical

/-- **A key that is handed out is the account's own.** -/
theorem derives_of_managedSigningKey {storageKey : Option (Bytes 32)}
    {managedWallets : List ManagedWalletSecret} {account : LinkedAccount} {signingKey : SigningKey}
    (h : managedSigningKeyForAccount storageKey managedWallets account = .ok signingKey) :
    Derives signingKey account.chainNamespace account.address := by
  simp only [managedSigningKeyForAccount, Codec.bind_eq_ok, failIf_eq_ok, exists_unit,
    pure_eq_ok] at h
  obtain ⟨-, -, proofType, hproofType, -, address, haddress, secret, -, -, secretAddress, -, -, key,
    -, derived, hderived, canonical, hcanonical, hsame, -, -, rfl⟩ := h
  rw [not_or, not_not, not_not] at hsame
  exact ⟨proofType, derived, canonical, hproofType, hderived, hcanonical, hsame.1 ▸ haddress⟩

end ElastosRuntime.Wallet
