/-
# Challenges

The challenges the wallet issues and the proofs of an account that answer them (`main.rs`,
`crypto/evm/proof.rs` and `elastos-auth`).  A challenge is used up by the first proof that passes.

How a sign-in message is parsed, what an origin is and how a time is written are parameters.
-/
import ElastosRuntime.Wallet.Accounts

namespace ElastosRuntime.Wallet

open Contracts Text WalletCurve WalletSigner Records Streams Streams.Effect

def AUTH_CHALLENGE_TTL_SECS : Nat := 5 * 60
def AUTH_CHALLENGE_SCHEMA : String := "elastos.auth.challenge/v1"
def BITCOIN_CHALLENGE_SCHEMA : String := "elastos.wallet.bitcoin_challenge/v1"

structure SiweMessage where
  domain : String
  address : String
  uri : String
  version : String
  chainId : UInt64
  nonce : String
  issuedAt : Nat
  expiresAt : Option Nat
  resources : List String

/-- The parts of `elastos-auth` that read and write texts. -/
class ElastosAuth where
  validateSiweOriginBinding : (origin uri : String) → Except String Unit
  checksumEvmAddress : String → String
  rfc3339 : Nat → String
  parseSiweMessage : String → Except String SiweMessage

/-! ## 1. Messages -/

section

variable [ElastosAuth]

namespace AuthChallengeV1

def challengeResource (v : AuthChallengeV1) : String :=
  "elastos://auth/challenge/" ++ v.challengeId

def siweMessage (v : AuthChallengeV1) : String :=
  v.domain ++ " wants you to sign in with your Ethereum account:\n" ++ trim v.address ++ "\n\n" ++
    v.statement ++ "\n\nURI: " ++ v.uri ++ "\nVersion: 1\nChain ID: " ++
    toString v.chainId.toNat ++ "\nNonce: " ++ v.nonce ++ "\nIssued At: " ++
    ElastosAuth.rfc3339 v.issuedAt ++ "\nExpiration Time: " ++ ElastosAuth.rfc3339 v.expiresAt ++
    (if v.resources = [] then ""
      else "\nResources:" ++ String.join (v.resources.map ("\n- " ++ ·)))

end AuthChallengeV1

/-- What both verifications check of a parsed message. -/
def validateSiweFields (challenge : AuthChallengeV1) (parsed : SiweMessage) (message : String)
    (now : Nat) : Except String Unit := do
  failIf (parsed.domain ≠ challenge.domain) "SIWE domain does not match challenge"
  failIf (parsed.uri ≠ challenge.uri) "SIWE URI does not match challenge"
  failIf (parsed.version ≠ "1") "unsupported SIWE version"
  failIf (parsed.chainId ≠ challenge.chainId) "SIWE chain ID does not match challenge"
  failIf (parsed.nonce ≠ challenge.nonce) "SIWE nonce does not match challenge"
  failIf (normalizeEvmAddress parsed.address ≠ normalizeEvmAddress challenge.address)
    "SIWE address does not match challenge"
  failIf (saturatingAdd now 300 < parsed.issuedAt) "SIWE issued-at is in the future"
  let expiresAt ← okOr parsed.expiresAt "SIWE expiration-time is required"
  failIf (expiresAt ≤ now) "SIWE proof expired"
  failIf (challenge.expiresAt < expiresAt) "SIWE proof outlives challenge"
  failIf (parsed.resources ≠ challenge.resources) "SIWE resources do not match challenge"
  failIf (challenge.challengeResource ∉ parsed.resources)
    "SIWE resources missing challenge binding"
  failIf (message ≠ challenge.siweMessage) "SIWE message does not match challenge"

def validateSiweChallenge (challenge : AuthChallengeV1) (now : Nat) : Except String Unit := do
  failIf (challenge.schema ≠ AUTH_CHALLENGE_SCHEMA) "unsupported auth challenge schema"
  failIf (challenge.expiresAt ≤ now) "auth challenge expired"

/-- `ProofBinding::evm_account(..).id()` -/
def evmProofBindingId (chainId : UInt64) (address : String) : String :=
  "proof:wallet:eip155:" ++ toString chainId.toNat ++ ":" ++ normalizeEvmAddress address

/-- What a proof that passes is answered with. -/
structure WalletProof where
  proofBindingId : String
  chainNamespace : String
  address : String
  proofType : String
  proofStrength : Option String
  challengeId : String
  verifiedAt : Nat
  messageHash : String

section

variable [WalletSigner]

/-- `verify_siwe_challenge`: the address that signed, and the hash of the message. -/
def verifySiweChallenge (challenge : AuthChallengeV1) (message signature : String) (now : Nat) :
    Except String (String × Bytes 32) := do
  validateSiweChallenge challenge now
  ElastosAuth.validateSiweOriginBinding challenge.domain challenge.uri
  let parsed ← ElastosAuth.parseSiweMessage message
  validateSiweFields challenge parsed message now
  let (recovered, messageHash) ← recoverEvmAddress message signature
  failIf (normalizeEvmAddress recovered ≠ normalizeEvmAddress challenge.address)
    "SIWE signature does not recover expected address"
  pure (normalizeEvmAddress recovered, messageHash)

def validateSiweChallengeMessage (challenge : AuthChallengeV1) (parsed : SiweMessage)
    (message : String) (now : Nat) : Except String (Bytes 32) := do
  validateSiweChallenge challenge now
  validateSiweFields challenge parsed message now
  pure (ethereumSignedMessageHash (utf8Bytes message))

def validateErc1271ChainProof [Crypto] (proof : Erc1271ProofEvidenceV1) (parsed : SiweMessage)
    (messageHash : Bytes 32) (signature : String) : Except String Unit := do
  failIf (proof.schema ≠ ERC1271_EVIDENCE_SCHEMA) "unsupported ERC-1271 proof schema"
  failIf (proof.valid = false) "ERC-1271 signature was not accepted by the contract"
  failIf (proof.chainId ≠ parsed.chainId) "ERC-1271 proof chain_id does not match SIWE message"
  validateEvmAddress proof.contract
  failIf (normalizeEvmAddress proof.contract ≠ parsed.address)
    "ERC-1271 proof contract does not match SIWE address"
  failIf (proof.messageHash ≠ "0x" ++ hexEncode messageHash.toList)
    "ERC-1271 proof message_hash mismatch"
  let signatureBytes ← hexPrefixedBytes signature none "signature"
  failIf (signatureBytes = []) "signature must not be empty"
  failIf (proof.signatureHash ≠ bytesHash signatureBytes) "ERC-1271 proof signature_hash mismatch"

/-! ## 2. Issuing -/

structure ChallengeInput where
  domain : String
  uri : String
  address : String
  chainId : UInt64
  resources : List String

def ChallengeInput.validate (v : ChallengeInput) : Except String Unit := do
  ElastosAuth.validateSiweOriginBinding v.domain v.uri
  validateEvmAddress v.address
  failIf (v.chainId = 0) "chain_id must be non-zero"
  v.resources.forM validateResource

structure BitcoinChallengeInput where
  domain : String
  uri : String
  address : String
  network : String
  resources : List String

def BitcoinChallengeInput.validate [BitcoinCrate] (v : BitcoinChallengeInput) :
    Except String Unit := do
  validateDomain v.domain
  validateUri v.uri
  validateBitcoinNetwork v.network
  validateBitcoinAddress v.address v.network
  v.resources.forM validateResource

/-- The resources of a challenge: its own, and those asked for or the one for linking. -/
def challengeResources (own : String) (resources : List String) : List String :=
  own :: if resources = [] then ["elastos://wallet/account/link"] else resources

def challenge (storageKey : Option (Bytes 32)) (at_ : Circumstances) (input : ChallengeInput) :
    Operation AuthChallengeV1 := do
  ensureInitialized storageKey
  refuse "invalid_request" input.validate
  let now := at_.clock 0
  updates (pruneStore · now)
  let challengeId := hexEncode at_.challengeId.toList
  let challenge : AuthChallengeV1 :=
    { schema := AUTH_CHALLENGE_SCHEMA
      challengeId := challengeId
      domain := input.domain
      uri := input.uri
      statement := "Sign in to ElastOS Runtime."
      address := ElastosAuth.checksumEvmAddress input.address
      chainId := input.chainId
      nonce := hexEncode at_.challengeNonce.toList
      issuedAt := now
      expiresAt := saturatingAdd now AUTH_CHALLENGE_TTL_SECS
      resources := challengeResources ("elastos://auth/challenge/" ++ challengeId) input.resources }
  updates fun store => { store with challenges := store.challenges ++ [⟨challenge, none⟩] }
  pure challenge

def bitcoinChallenge [Crypto] [BitcoinCrate] (storageKey : Option (Bytes 32))
    (at_ : Circumstances) (input : BitcoinChallengeInput) :
    Operation (BitcoinChallengeV1 × String) := do
  ensureInitialized storageKey
  refuse "invalid_request" input.validate
  let now := at_.clock 0
  updates (pruneStore · now)
  let challengeId := hexEncode at_.challengeId.toList
  let challenge : BitcoinChallengeV1 :=
    { schema := BITCOIN_CHALLENGE_SCHEMA
      challengeId := challengeId
      domain := input.domain
      uri := input.uri
      network := input.network
      address := input.address
      nonce := hexEncode at_.challengeNonce.toList
      issuedAt := now
      expiresAt := saturatingAdd now AUTH_CHALLENGE_TTL_SECS
      resources :=
        challengeResources ("elastos://auth/bitcoin-challenge/" ++ challengeId) input.resources }
  updates fun store =>
    { store with bitcoinChallenges := store.bitcoinChallenges ++ [⟨challenge, none⟩] }
  let proofType ← refuse "invalid_request" <|
    bitcoinProofTypeForAddress challenge.network challenge.address
  pure (challenge, proofType)

/-! ## 3. Proofs -/

/-- The challenge a sign-in message names, as long as no proof has used it up. -/
def openChallenge (store : WalletStore) (parsed : SiweMessage) :
    Except Refusal StoredWalletChallenge := do
  let challengeId ← okOr (parsed.resources.findSome? (stripPrefix · "elastos://auth/challenge/"))
    ⟨"invalid_proof", "SIWE proof missing challenge resource"⟩
  let stored ← okOr
    (store.challenges.find? fun stored => stored.challenge.challengeId == challengeId)
    ⟨"not_found", "wallet proof challenge not found"⟩
  denyIf stored.consumedAt.isSome "invalid_proof" "wallet proof challenge already consumed"
  pure stored

def consumeChallenge (challengeId : String) (now : Nat) (store : WalletStore) : WalletStore :=
  { store with
    challenges := modifyFirst (fun stored => stored.challenge.challengeId == challengeId)
      (fun stored => { stored with consumedAt := some now }) store.challenges }

def verifyProof (storageKey : Option (Bytes 32)) (now : Nat) (message signature : String) :
    Operation WalletProof := do
  ensureInitialized storageKey
  let parsed ← refuse "invalid_proof" (ElastosAuth.parseSiweMessage message)
  let store ← reads id
  let stored ← openChallenge store parsed
  denyIf (stored.challenge.expiresAt ≤ now) "invalid_proof" "wallet proof challenge expired"
  let (recovered, messageHash) ← refuse "invalid_proof" <|
    verifySiweChallenge stored.challenge message signature now
  updates (consumeChallenge stored.challenge.challengeId now)
  pure
    { proofBindingId := evmProofBindingId stored.challenge.chainId recovered
      chainNamespace := "eip155:" ++ toString stored.challenge.chainId.toNat
      address := recovered
      proofType := "siwe"
      proofStrength := none
      challengeId := stored.challenge.challengeId
      verifiedAt := now
      messageHash := "0x" ++ hexEncode messageHash.toList }

def verifyContractProof [Crypto] (storageKey : Option (Bytes 32)) (now : Nat)
    (message signature : String) (evidence : Erc1271ProofEvidenceV1) : Operation WalletProof := do
  ensureInitialized storageKey
  let parsed ← refuse "invalid_proof" (ElastosAuth.parseSiweMessage message)
  let store ← reads id
  let stored ← openChallenge store parsed
  let messageHash ← refuse "invalid_proof" <|
    validateSiweChallengeMessage stored.challenge parsed message now
  refuse "invalid_contract_proof" <|
    validateErc1271ChainProof evidence parsed messageHash signature
  updates (consumeChallenge stored.challenge.challengeId now)
  pure
    { proofBindingId := evmProofBindingId parsed.chainId parsed.address
      chainNamespace := "eip155:" ++ toString parsed.chainId.toNat
      address := parsed.address
      proofType := "siwe_erc1271"
      proofStrength := none
      challengeId := stored.challenge.challengeId
      verifiedAt := now
      messageHash := "0x" ++ hexEncode messageHash.toList }

def verifyBitcoinProof [Crypto] [BitcoinCrate] (storageKey : Option (Bytes 32)) (now : Nat)
    (message signature signatureType : String) (publicKey : Option String) :
    Operation WalletProof := do
  ensureInitialized storageKey
  let challengeId ← okOr
    ((lines message).findSome? fun line => stripPrefix (trim line) BITCOIN_CHALLENGE_LINE)
    (⟨"invalid_proof", "BIP-322 proof missing challenge resource"⟩ : Refusal)
  let store ← reads id
  let stored ← okOr
    (store.bitcoinChallenges.find? fun stored => stored.challenge.challengeId == challengeId)
    (⟨"not_found", "Bitcoin wallet proof challenge not found"⟩ : Refusal)
  denyIf stored.consumedAt.isSome "invalid_proof" "Bitcoin wallet proof challenge already consumed"
  denyIf (stored.challenge.expiresAt ≤ now) "invalid_proof"
    "Bitcoin wallet proof challenge expired"
  denyIf (message ≠ stored.challenge.message) "invalid_proof"
    "Bitcoin challenge message does not match"
  let expectedProofType ← refuse "invalid_request" <|
    bitcoinProofTypeForAddress stored.challenge.network stored.challenge.address
  let proof ← refuse "invalid_bitcoin_proof" <| verifyBitcoinProofForType expectedProofType
    signatureType stored.challenge.network stored.challenge.address message signature publicKey
  updates fun store =>
    { store with
      bitcoinChallenges := modifyFirst (fun stored => stored.challenge.challengeId == challengeId)
        (fun stored => { stored with consumedAt := some now }) store.bitcoinChallenges }
  pure
    { proofBindingId := "proof:wallet:" ++ proof.chainNamespace ++ ":" ++ proof.address
      chainNamespace := proof.chainNamespace
      address := proof.address
      proofType := proof.proofType
      proofStrength := some proof.proofStrength
      challengeId := challengeId
      verifiedAt := now
      messageHash := "0x" ++ hexEncode proof.messageHash.toList }

end

end

end ElastosRuntime.Wallet
