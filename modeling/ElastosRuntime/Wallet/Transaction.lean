/-
# Transactions

`crypto/evm/transaction.rs` and the check of a transaction intent from `validation.rs`.  An intent
is an opaque payload of the request; it names the chain it is for in its member `chain_id`, beside
the chain namespace of the request itself.

What is signed is the list of its fields with the chain id in seventh place (EIP-155).
`signedChainId` reads the id out of those bytes, and `signedChainId_signingPayload` says that it is
the payload's.
-/
import ElastosRuntime.Wallet.TypedData

namespace ElastosRuntime.Wallet

open Contracts Text WalletCurve WalletSigner

/-! ## 1. The intent -/

def validateEip155TransactionIntentPayload (payload : Json) (account : LinkedAccount) :
    Except String Unit := do
  failIf (payload.getStr "schema" ≠ some "elastos.chain.unsigned_transaction_intent/v1")
    "transaction intent payload has unsupported schema"
  failIf (payload.getStr "transaction_type" ≠ some "eip155_legacy")
    "transaction intent payload must be eip155_legacy"
  failIf (payload.getStr "wallet_intent" ≠ some "transaction_intent")
    "transaction intent payload has mismatched wallet_intent"
  failIf (payload.getBool "requires_wallet_approval" ≠ some true)
    "transaction intent must require wallet approval"
  let chainId ← payloadU64 payload "chain_id"
  failIf (startsWith account.chainNamespace "eip155:" = false)
    "transaction intent requires an EVM account"
  failIf (chainId = 0) "transaction intent chain_id must be non-zero"
  let sender ← payloadStr payload "from"
  validateEvmAddress sender
  failIf (normalizeEvmAddress sender ≠ normalizeEvmAddress account.address)
    "transaction intent from address does not match account"
  let _ ← payloadEvmAddressBytes payload "to"
  let _ ← payloadQuantityBytes payload "nonce"
  let _ ← payloadQuantityBytes payload "gas_price"
  let _ ← payloadQuantityBytes payload "gas_limit"
  let _ ← payloadQuantityBytes payload "value"
  let _ ← payloadHexBytes payload "data"
  pure ()

/-- The account record that the checks are given when only the approval is at hand. -/
def WalletApprovalRequest.account (request : WalletApprovalRequest) : LinkedAccount where
  accountId := request.accountId
  principalId := request.principalId
  proofBindingId := request.proofBindingId
  chainNamespace := request.chainNamespace
  address := request.address
  proofType := request.proofType
  connectorId := request.connectorId
  label := none
  linkedAt := request.createdAt
  revokedAt := none

/-! ## 2. RLP -/

def rlpLengthPrefix (len : Nat) (offset : UInt8) : List UInt8 :=
  if len < 56 then [offset + UInt8.ofNat len]
  else
    let lenBytes := Rlp.trimmed (beBytes 8 len)
    (offset + 55 + UInt8.ofNat lenBytes.length) :: lenBytes

def rlpBytes (bytes : List UInt8) : List UInt8 :=
  if bytes.length = 1 ∧ bytes.getD 0 0 < 0x80 then [bytes.getD 0 0]
  else rlpLengthPrefix bytes.length 0x80 ++ bytes

def rlpList (items : List (List UInt8)) : List UInt8 :=
  rlpLengthPrefix (items.map List.length).sum 0xc0 ++ items.flatten

def rlpU64 (value : UInt64) : List UInt8 :=
  if value = 0 then rlpBytes [] else rlpBytes (Rlp.trimmed (beBytes 8 value.toNat))

theorem rlpBytes_eq (bytes : List UInt8) : rlpBytes bytes = Rlp.encodeString bytes := by
  unfold rlpBytes Rlp.encodeString
  match bytes with
  | [] => rfl
  | [b] =>
    simp only [List.length_singleton, List.getD_cons_zero, true_and]
    rfl
  | _ :: _ :: _ => exact if_neg (by simp)

theorem rlpU64_eq (value : UInt64) : rlpU64 value = Rlp.encodeString (Rlp.integer value.toNat) := by
  unfold rlpU64
  split
  · rename_i hzero
    rw [hzero, rlpBytes_eq]
    rfl
  · exact rlpBytes_eq _

/-- A list whose items are written strings. -/
theorem rlpList_eq (items : List (List UInt8)) :
    rlpList (items.map Rlp.encodeString) = Rlp.encodeList items := by
  rw [rlpList, Rlp.encodeList, Rlp.encodeItems, ← List.length_flatten, List.flatMap_def]
  rfl

/-! ## 3. Signing -/

/-- The fields a transaction is made of, as bytes. -/
structure LegacyTransaction where
  chainId : UInt64
  nonce : List UInt8
  gasPrice : List UInt8
  gasLimit : List UInt8
  toAddress : List UInt8
  value : List UInt8
  data : List UInt8

/-- The readings at the head of `sign_eip155_legacy_transaction`. -/
def LegacyTransaction.ofPayload (payload : Json) : Except String LegacyTransaction := do
  let chainId ← payloadU64 payload "chain_id"
  let nonce ← payloadQuantityBytes payload "nonce"
  let gasPrice ← payloadQuantityBytes payload "gas_price"
  let gasLimit ← payloadQuantityBytes payload "gas_limit"
  let toAddress ← payloadEvmAddressBytes payload "to"
  let value ← payloadQuantityBytes payload "value"
  let data ← payloadHexBytes payload "data"
  pure ⟨chainId, nonce, gasPrice, gasLimit, toAddress, value, data⟩

namespace LegacyTransaction

variable (tx : LegacyTransaction)

/-- What both lists start with. -/
def fields : List (List UInt8) :=
  [rlpBytes tx.nonce, rlpBytes tx.gasPrice, rlpBytes tx.gasLimit, rlpBytes tx.toAddress,
    rlpBytes tx.value, rlpBytes tx.data]

def signingPayload : List UInt8 :=
  rlpList (tx.fields ++ [rlpU64 tx.chainId, rlpBytes [], rlpBytes []])

def signedTransaction (v : UInt64) (r s : List UInt8) : List UInt8 :=
  rlpList (tx.fields ++ [rlpU64 v, rlpBytes (Rlp.trimmed r), rlpBytes (Rlp.trimmed s)])

/-- `chain_id.checked_mul(2)?.checked_add(35)?.checked_add(recovery_id)` -/
def recoveryValue (recoveryId : UInt8) : Option UInt64 :=
  let v := 2 * tx.chainId.toNat + 35 + recoveryId.toNat
  if v < 2 ^ 64 then some (UInt64.ofNat v) else none

end LegacyTransaction

/-- The chain id inside the bytes that are signed: the seventh of nine items. -/
def signedChainId (signingPayload : List UInt8) : Option Nat := do
  let items ← Rlp.decodeList signingPayload
  if items.length = 9 then (items[6]?).map ofBeBytes else none

/-- The strings of a transaction fit in memory. -/
def LegacyTransaction.Fits (tx : LegacyTransaction) : Prop :=
  ∀ field ∈ [tx.nonce, tx.gasPrice, tx.gasLimit, tx.toAddress, tx.value, tx.data],
    field.length < 2 ^ 32

theorem length_encodeString_le (bytes : List UInt8) :
    (Rlp.encodeString bytes).length ≤ bytes.length + 9 := by
  have hlead : ∀ n : Nat, (Rlp.lengthPrefix n 0x80).length ≤ 9 := by
    intro n
    rw [Rlp.lengthPrefix]
    split
    · exact Nat.le_add_left 1 8
    · exact Nat.succ_le_succ (Rlp.length_integer_le n)
  unfold Rlp.encodeString
  split
  · split
    · exact Nat.le_add_right 1 9
    · have h := hlead 1
      rw [List.length_append]
      omega
  · have h := hlead bytes.length
    rw [List.length_append]
    omega

/-- **The chain id that is signed is the payload's.** -/
theorem signedChainId_signingPayload {tx : LegacyTransaction} (hfits : tx.Fits) :
    signedChainId tx.signingPayload = some tx.chainId.toNat := by
  have hitems : tx.fields ++ [rlpU64 tx.chainId, rlpBytes [], rlpBytes []] =
      [tx.nonce, tx.gasPrice, tx.gasLimit, tx.toAddress, tx.value, tx.data,
        Rlp.integer tx.chainId.toNat, [], []].map Rlp.encodeString := by
    simp only [LegacyTransaction.fields, rlpBytes_eq, rlpU64_eq]
    rfl
  have hlen : (Rlp.encodeItems [tx.nonce, tx.gasPrice, tx.gasLimit, tx.toAddress, tx.value,
      tx.data, Rlp.integer tx.chainId.toNat, [], []]).length < 2 ^ 64 := by
    simp only [LegacyTransaction.Fits, List.forall_mem_cons] at hfits
    obtain ⟨h₁, h₂, h₃, h₄, h₅, h₆, -⟩ := hfits
    have hid := Rlp.length_integer_le tx.chainId.toNat
    have hstring := length_encodeString_le
    have s₁ := hstring tx.nonce
    have s₂ := hstring tx.gasPrice
    have s₃ := hstring tx.gasLimit
    have s₄ := hstring tx.toAddress
    have s₅ := hstring tx.value
    have s₆ := hstring tx.data
    have s₇ := hstring (Rlp.integer tx.chainId.toNat)
    have s₈ : (Rlp.encodeString []).length ≤ 9 := hstring []
    simp only [Rlp.encodeItems, List.flatMap_cons, List.flatMap_nil, List.length_append,
      List.length_nil]
    omega
  rw [signedChainId, LegacyTransaction.signingPayload, hitems, rlpList_eq,
    Rlp.decodeList_encodeList hlen]
  exact congrArg some (Rlp.ofBeBytes_integer tx.chainId.toNat_lt)

section

variable [WalletSigner]

def signEip155LegacyTransaction (signingKey : SigningKey) (request : WalletApprovalRequest) :
    Except String (String × Json) := do
  validateEip155TransactionIntentPayload request.payload request.account
  let tx ← LegacyTransaction.ofPayload request.payload
  let signingHash := keccak256 tx.signingPayload
  let (signature, recoveryId) ← okOr (signPrehashRecoverable signingKey signingHash)
    "signature error"
  let signatureBytes := (signatureToBytes signature).toList
  let v ← okOr (tx.recoveryValue recoveryId) "transaction chain_id is too large"
  let signed := tx.signedTransaction v (signatureBytes.take 32) (signatureBytes.drop 32)
  let transactionHash := "0x" ++ hexEncode (keccak256 signed).toList
  pure ("0x" ++ hexEncode signed, .object
    [("chain_namespace", .string request.chainNamespace),
      ("payload_hash", .string request.payloadHash),
      ("request_id", .string request.requestId),
      ("schema", .string "elastos.wallet.signed_transaction/v1"),
      ("signer", .string request.address),
      ("transaction_hash", .string transactionHash),
      ("transaction_type", .string "eip155_legacy")])

end

/-- What is stored of a transaction that an external wallet says it has sent. -/
def externalTransactionResult (request : WalletApprovalRequest) (transactionHash : String) :
    Json :=
  .object
    [("chain_namespace", .string request.chainNamespace),
      ("method", .string "eth_sendTransaction"),
      ("origin", request.payload.getOrNull "origin"),
      ("page_url", request.payload.getOrNull "page_url"),
      ("payload_hash", .string request.payloadHash),
      ("request_id", .string request.requestId),
      ("schema", .string "elastos.wallet.external-transaction-result/v1"),
      ("signer", .string request.address),
      ("transaction_hash", .string transactionHash)]

end ElastosRuntime.Wallet
