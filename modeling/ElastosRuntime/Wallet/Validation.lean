/-
# What the wallet accepts as input

The checks of `validation.rs`, each of which answers with the text of its error, and the two
digests that bind an approval: of its payload and of the authority it was asked for with.

`serde_json::to_vec` is a parameter.  What the code relies on is that two values have the same text
only when they are the same, and that a member's text is part of the whole (`LawfulSerdeJson`).
-/
import ElastosRuntime.Contracts.Verification
import ElastosRuntime.Wallet.Store

namespace ElastosRuntime.Wallet

open Contracts Text

def MAX_APPROVAL_REQUEST_TTL_SECS : Nat := 30 * 60
def MAX_APPROVAL_PAYLOAD_BYTES : Nat := 32 * 1024
def MAX_ACTIVE_APPROVAL_REQUESTS_PER_PRINCIPAL : Nat := 100
def MANAGED_EVM_PROOF_TYPE : String := "managed_evm"
def MANAGED_BTC_P2WPKH_PROOF_TYPE : String := "managed_btc_p2wpkh"
def BITCOIN_MAINNET_CHAIN_NAMESPACE : String := "bip122:000000000019d6689c085ae165831e93"
def PROTECTED_CONTENT_RIGHTS_SIGNATURE_INTENT : String := "protected_content_rights_signature"

/-- `u64::saturating_add` -/
def saturatingAdd (a b : Nat) : Nat := min (a + b) (2 ^ 64 - 1)

/-! ## 1. Texts -/

def validateOpaqueId (value label : String) : Except String Unit := do
  let value := trim value
  failIf (value = "" ∨ 256 < byteLength value) s!"{label} must be 1-256 characters"
  failIf (value = "." ∨ value = "..") s!"{label} must be opaque"
  failIf (any value fun c =>
      isControl c || c == '/' || c == '\\' || c == '"' || c == '\'' || isWhitespace c)
    s!"{label} contains unsupported characters"

theorem ne_empty_of_validateOpaqueId {value label : String}
    (h : validateOpaqueId value label = .ok ()) : value ≠ "" := by
  rintro rfl
  simp only [validateOpaqueId, Codec.bind_eq_ok, failIf_eq_ok] at h
  obtain ⟨_, hlength, -⟩ := h
  exact hlength (Or.inl (by decide))

def eip155ChainId (value : String) : Except String UInt64 := do
  validateOpaqueId value "chain_namespace"
  let chainId ← okOr (stripPrefix value "eip155:")
    "managed EVM wallets require an eip155 chain namespace"
  let chainId ← okOr (parseU64 chainId) "managed wallet chain ID must be numeric"
  failIf (chainId = 0) "managed wallet chain ID must be non-zero"
  pure chainId

def validateEvmChainNamespace (value : String) : Except String Unit := do
  let _ ← eip155ChainId value

def isManagedProofType (value : String) : Bool :=
  value == MANAGED_EVM_PROOF_TYPE || value == MANAGED_BTC_P2WPKH_PROOF_TYPE

def managedProofType (chainNamespace : String) : Except String String := do
  validateOpaqueId chainNamespace "chain_namespace"
  if startsWith chainNamespace "eip155:" then
    validateEvmChainNamespace chainNamespace
    pure MANAGED_EVM_PROOF_TYPE
  else if chainNamespace = BITCOIN_MAINNET_CHAIN_NAMESPACE then
    pure MANAGED_BTC_P2WPKH_PROOF_TYPE
  else
    throw "managed wallets support EVM chains and Bitcoin mainnet P2WPKH"

def validateManagedChainNamespace (value : String) : Except String Unit := do
  let _ ← managedProofType value

def managedKeyScope (chainNamespace : String) : Except String String := do
  let proofType ← managedProofType chainNamespace
  if proofType = MANAGED_EVM_PROOF_TYPE then pure "eip155"
  else if proofType = MANAGED_BTC_P2WPKH_PROOF_TYPE then pure "bitcoin:p2wpkh"
  else throw "unsupported managed wallet proof type"

def chainNamespacesCompatible (accountChainNamespace requestedChainNamespace : String) : Bool :=
  accountChainNamespace == requestedChainNamespace ||
    (startsWith accountChainNamespace "eip155:" && startsWith requestedChainNamespace "eip155:")

def validateLabel (value : String) : Except String Unit :=
  failIf (80 < byteLength value ∨ any value isControl)
    "label must be 80 characters or fewer and contain no control characters"

def validateReason (value : String) : Except String Unit := do
  let value := trim value
  failIf (value = "" ∨ 160 < byteLength value ∨ any value isControl)
    "reason must be 1-160 characters and contain no control characters"

def SIGNING_INTENTS : List String :=
  ["auth_challenge", "capability_grant", "credential", "publish_envelope", "transaction_intent",
    "browser_connect", "browser_account_access", "browser_personal_sign",
    "browser_typed_data_sign", "bitcoin_bip322_proof", PROTECTED_CONTENT_RIGHTS_SIGNATURE_INTENT,
    "revocation"]

def validateSigningIntent (value : String) : Except String Unit :=
  failIf (value ∉ SIGNING_INTENTS) "unsupported signing intent"

def MANAGED_SIGNING_INTENTS : List String :=
  ["transaction_intent", "browser_account_access", "browser_personal_sign",
    "browser_typed_data_sign", "bitcoin_bip322_proof", PROTECTED_CONTENT_RIGHTS_SIGNATURE_INTENT]

def managedSigningIntentIsSupported (value : String) : Bool := value ∈ MANAGED_SIGNING_INTENTS

def validateDomain (value : String) : Except String Unit := do
  let value := trim value
  failIf (value = "" ∨ 253 < byteLength value ∨ contains value "/" ∨ contains value "@" ∨
      any value fun c => isAsciiControl c || isAsciiWhitespace c)
    "invalid SIWE domain"

def validateUri (value : String) : Except String Unit := do
  let value := trim value
  failIf (512 < byteLength value ∨ ¬(startsWith value "https://" ∨ startsWith value "http://") ∨
      any value fun c => isAsciiControl c || isAsciiWhitespace c)
    "invalid SIWE URI"

def validateResource (value : String) : Except String Unit := do
  let value := trim value
  failIf (512 < byteLength value ∨ ¬startsWith value "elastos://" ∨
      any value fun c => isAsciiControl c || isAsciiWhitespace c)
    "invalid wallet proof resource"

def validateHash (value label : String) : Except String Unit := do
  let raw ← okOr (stripPrefix value "0x") s!"{label} must start with 0x"
  failIf (byteLength raw ≠ 64 ∨ ¬all raw isAsciiHexdigit) s!"{label} must be a 32-byte hex digest"

theorem ne_empty_of_validateHash {value label : String} (h : validateHash value label = .ok ()) :
    value ≠ "" := by
  rintro rfl
  simp only [validateHash, Codec.bind_eq_ok, okOr_eq_ok] at h
  obtain ⟨raw, hraw, -⟩ := h
  have hbare : stripPrefix "" "0x" = none := by decide
  rw [hbare] at hraw
  cases hraw

def validateSignature (value : String) : Except String Unit := do
  let value := trim value
  failIf (byteLength value < 8 ∨ 4096 < byteLength value ∨ any value isControl)
    "signature must be 8-4096 characters and contain no control characters"

/-- `elastos_auth::normalize_evm_address` -/
def normalizeEvmAddress (address : String) : String := lowercase (trim address)

/-- `elastos_auth::validate_evm_address` -/
def validateEvmAddress (address : String) : Except String Unit := do
  let address := trim address
  let raw ← okOr (stripPrefix address "0x") "EVM address must start with 0x"
  failIf (byteLength raw ≠ 40 ∨ ¬all raw isAsciiHexdigit) "EVM address must be 20 bytes of hex"

/-! ## 2. Digests -/

/-- What `serde_json` writes for a value, and the value it reads from a text. -/
class SerdeJson where
  toVec : Json → List UInt8
  fromStr : String → Except String Json

/-- Two values have one text only when they are the same, and a text that a value has as a member
stands in its own text, where escapes make it longer. -/
class LawfulSerdeJson [SerdeJson] : Prop where
  toVec_injective : Function.Injective SerdeJson.toVec
  length_le_toVec : ∀ {value : Json} {name text : String}, value.getStr name = some text →
    (utf8Bytes text).length ≤ (SerdeJson.toVec value).length

/-- What an operation is carried out under (`WalletAuthorityV2`). -/
structure WalletAuthorityV2 where
  principalId : String
  sessionId : String
  proofBindingId : Option String
  grantId : String
  actor : String
  launchId : String
  capability : String
  intent : String
deriving DecidableEq

/-- A text or `null`. -/
def optionalText (value : Option String) : Json := value.elim .null .string

section

variable [Crypto] [SerdeJson]

def bytesHash (bytes : List UInt8) : String := "0x" ++ hexEncode (Crypto.sha256 bytes).toList

def valueHash (value : Json) : String := bytesHash (SerdeJson.toVec value)

def walletAuthorityBinding (authority : WalletAuthorityV2) : String :=
  valueHash <| .object
    [("actor", .string authority.actor),
      ("grant_id", .string authority.grantId),
      ("launch_id", .string authority.launchId),
      ("principal_id", .string authority.principalId),
      ("proof_binding_id", optionalText authority.proofBindingId),
      ("session_id", .string authority.sessionId)]

end

/-! ## 3. Requests for a signature -/

structure SignatureRequestInput where
  requestId : String
  walletRequestSha256 : String
  authorityBinding : String
  principalId : String
  sessionId : String
  launchId : String
  proofBindingId : Option String
  accountId : String
  chainNamespace : String
  intent : String
  requestedByActor : String
  resource : String
  reason : String
  payload : Json
  expiresAt : Nat

def SignatureRequestInput.validate [SerdeJson] (v : SignatureRequestInput) (now : Nat) :
    Except String Unit := do
  validateOpaqueId v.requestId "request_id"
  validateOpaqueId v.walletRequestSha256 "wallet_request_sha256"
  validateHash v.authorityBinding "authority_binding"
  validateOpaqueId v.principalId "principal_id"
  validateOpaqueId v.sessionId "session_id"
  validateOpaqueId v.launchId "launch_id"
  v.proofBindingId.forM (validateOpaqueId · "proof_binding_id")
  validateOpaqueId v.accountId "account_id"
  validateOpaqueId v.chainNamespace "chain_namespace"
  validateSigningIntent v.intent
  validateOpaqueId v.requestedByActor "requested_by_actor"
  validateResource v.resource
  validateReason v.reason
  let payload := SerdeJson.toVec v.payload
  failIf (payload = [] ∨ MAX_APPROVAL_PAYLOAD_BYTES < payload.length)
    "payload must be 1-32768 bytes"
  failIf (v.expiresAt ≤ now) "approval expires_at must be in the future"
  failIf (saturatingAdd now MAX_APPROVAL_REQUEST_TTL_SECS < v.expiresAt)
    "approval lifetime exceeds 1800 seconds"

end ElastosRuntime.Wallet
