/-
# What the bytes of a transaction say

`crypto/evm/transaction.rs` writes a legacy transaction twice, once to be signed and once with its
signature, and `crypto/evm/payload.rs` reads its fields out of the payload of an approval.  Here
both lists are read back with the strict reader of `Lib/Rlp`, which takes no spelling but the
shortest one, and the items are compared with what the payload denotes: numbers for the
quantities, bytes for the recipient and the data.

A quantity may have any number of digits.  The bytes it comes to are the digits of its number in
base 256 without leading zeros (`natBytes_of_payloadQuantityBytes`), so the number can be told from
them; the list can be told into its items; and a payload is thereby as good as its signing payload
(`legacy_transaction_rlp`).
-/
import ElastosRuntime.Wallet.SignedChain

namespace ElastosRuntime.Wallet

open Contracts Text WalletCurve WalletSigner

/-! ## 1. What a payload denotes -/

/-- The seven values of a transaction. -/
structure TransactionValues where
  chainId : Nat
  nonce : Nat
  gasPrice : Nat
  gasLimit : Nat
  toAddress : List UInt8
  value : Nat
  data : List UInt8
  deriving DecidableEq

/-- What `0x` and pairs of hexadecimal digits denote. -/
def parseHexBytes (s : String) : Option (List UInt8) := do
  let digits ← stripPrefix s "0x"
  hexDecode digits

def TransactionValues.ofPayload (payload : Json) : Option TransactionValues := do
  let chainId ← payload.getU64 "chain_id"
  let nonce ← payload.getStr "nonce" >>= parseHexNumber
  let gasPrice ← payload.getStr "gas_price" >>= parseHexNumber
  let gasLimit ← payload.getStr "gas_limit" >>= parseHexNumber
  let toAddress ← payload.getStr "to" >>= parseHexBytes
  let value ← payload.getStr "value" >>= parseHexNumber
  let data ← payload.getStr "data" >>= parseHexBytes
  some ⟨chainId.toNat, nonce, gasPrice, gasLimit, toAddress, value, data⟩

/-- The items that both lists start with. -/
def TransactionValues.items (values : TransactionValues) : List (List UInt8) :=
  [Rlp.natBytes values.nonce, Rlp.natBytes values.gasPrice, Rlp.natBytes values.gasLimit,
    values.toAddress, Rlp.natBytes values.value, values.data]

/-- How long the text of a member is. -/
def memberLength (payload : Json) (field : String) : Nat :=
  ((payload.getStr field).map byteLength).getD 0

/-- The texts of a payload lie in one address space. -/
def InMemory (payload : Json) : Prop :=
  memberLength payload "nonce" + memberLength payload "gas_price" +
    memberLength payload "gas_limit" + memberLength payload "to" + memberLength payload "value" +
    memberLength payload "data" < 2 ^ 64

/-! ## 2. The readers of members -/

section

variable {payload : Json} {field : String} {bytes : List UInt8}

/-- A zero in front makes the number of digits even and leaves their number as it is. -/
theorem hexDigitsValue_padded {raw : String} (h : hexDecode
    (if byteLength raw % 2 = 0 then raw else "0" ++ raw) = some bytes) :
    hexDigitsValue raw.toList = some (ofBeBytes bytes) ∧
      2 * bytes.length ≤ raw.toList.length + 1 := by
  split at h
  · have hlen := length_eq_of_hexPairs h
    exact ⟨hexDigitsValue_of_hexPairs h, by omega⟩
  · have hlen := length_eq_of_hexPairs h
    have hvalue := hexDigitsValue_of_hexPairs h
    rw [String.toList_append, List.length_append] at hlen
    have hone : "0".toList.length = 1 := rfl
    refine ⟨?_, by omega⟩
    rw [← hvalue, String.toList_append]
    rfl

/-- **The bytes of a quantity are its number** in base 256 without leading zeros. -/
theorem natBytes_of_payloadQuantityBytes (h : payloadQuantityBytes payload field = .ok bytes) :
    ∃ n, payload.getStr field >>= parseHexNumber = some n ∧ bytes = Rlp.natBytes n ∧
      2 * bytes.length ≤ memberLength payload field := by
  simp only [payloadQuantityBytes, payloadStr, hexQuantityBytes, Codec.bind_eq_ok,
    okOr_eq_ok] at h
  obtain ⟨text, htext, raw, hraw, -, -, h⟩ := h
  have hlong : raw.toList.length + 2 ≤ memberLength payload field := by
    have hbytes := length_toList_le text
    rw [stripPrefix_eq_some_iff.mp hraw, String.toList_append, List.length_append] at hbytes
    rw [memberLength, htext, Option.map_some, Option.getD_some, stripPrefix_eq_some_iff.mp hraw]
    have htwo : "0x".toList.length = 2 := rfl
    omega
  have hnumber : ∀ n, hexDigitsValue raw.toList = some n →
      payload.getStr field >>= parseHexNumber = some n := by
    intro n hn
    rw [htext, Option.bind_eq_bind, Option.bind_some, parseHexNumber, hraw, Option.bind_eq_bind,
      Option.bind_some, hn]
  split at h
  · next hzero =>
    rw [pure_eq_ok] at h
    refine ⟨0, hnumber 0 ?_, ?_, ?_⟩
    · rw [hzero]
      rfl
    · rw [← h, Rlp.natBytes, Nat.digits_zero]
      rfl
    · rw [← h]
      exact Nat.zero_le _
  · simp only [Codec.bind_eq_ok, okOr_eq_ok, pure_eq_ok] at h
    obtain ⟨-, -, decoded, hdecode, rfl⟩ := h
    obtain ⟨hvalue, hlen⟩ := hexDigitsValue_padded hdecode
    have htrimmed := Rlp.length_trimmed_le decoded
    exact ⟨ofBeBytes decoded, hnumber _ hvalue, Rlp.trimmed_eq_natBytes decoded, by omega⟩

theorem parseHexBytes_of_hexPrefixedBytes {text : String} {expected : Option Nat}
    (h : hexPrefixedBytes text expected field = .ok bytes) :
    parseHexBytes text = some bytes ∧ 2 * bytes.length ≤ byteLength text := by
  simp only [hexPrefixedBytes, Codec.bind_eq_ok, okOr_eq_ok] at h
  obtain ⟨raw, hraw, -, -, -, -, hdecode⟩ := h
  refine ⟨Option.bind_eq_some_iff.mpr ⟨raw, hraw, hdecode⟩, ?_⟩
  have hlen := length_eq_of_hexPairs hdecode
  have hraw := length_of_stripPrefix hraw
  have htext := length_toList_le text
  omega

theorem parseHexBytes_of_payloadHexBytes (h : payloadHexBytes payload field = .ok bytes) :
    payload.getStr field >>= parseHexBytes = some bytes ∧
      2 * bytes.length ≤ memberLength payload field := by
  simp only [payloadHexBytes, payloadStr, Codec.bind_eq_ok, okOr_eq_ok] at h
  obtain ⟨text, htext, h⟩ := h
  rw [memberLength, htext]
  exact parseHexBytes_of_hexPrefixedBytes h

theorem parseHexBytes_of_payloadEvmAddressBytes
    (h : payloadEvmAddressBytes payload field = .ok bytes) :
    payload.getStr field >>= parseHexBytes = some bytes ∧
      2 * bytes.length ≤ memberLength payload field := by
  simp only [payloadEvmAddressBytes, payloadStr, Codec.bind_eq_ok, okOr_eq_ok] at h
  obtain ⟨text, htext, -, -, h⟩ := h
  rw [memberLength, htext]
  exact parseHexBytes_of_hexPrefixedBytes h

end

/-! ## 3. The fields of a transaction -/

/-- The fields as strings, in the order of the list. -/
def LegacyTransaction.strings (tx : LegacyTransaction) : List (List UInt8) :=
  [tx.nonce, tx.gasPrice, tx.gasLimit, tx.toAddress, tx.value, tx.data]

/-- The fields come out of a payload with those values, and take half the room of its texts. -/
structure LegacyTransaction.Denotes (tx : LegacyTransaction) (values : TransactionValues) :
    Prop where
  chainId : tx.chainId.toNat = values.chainId
  strings : tx.strings = values.items
  short : (tx.strings.map List.length).sum < 2 ^ 63

section

variable {payload : Json} {account : LinkedAccount} {tx : LegacyTransaction}

/-- A payload that passes the check is read. -/
theorem exists_ofPayload (h : validateEip155TransactionIntentPayload payload account = .ok ()) :
    ∃ tx, LegacyTransaction.ofPayload payload = .ok tx := by
  simp only [validateEip155TransactionIntentPayload, Codec.bind_eq_ok, exists_unit] at h
  obtain ⟨-, -, -, -, chainId, hchainId, -, -, -, -, -, -, to', hto, nonce, hnonce, gasPrice,
    hgasPrice, gasLimit, hgasLimit, value, hvalue, data, hdata, -⟩ := h
  refine ⟨⟨chainId, nonce, gasPrice, gasLimit, to', value, data⟩, ?_⟩
  simp only [LegacyTransaction.ofPayload, Codec.bind_eq_ok, pure_eq_ok]
  exact ⟨chainId, hchainId, nonce, hnonce, gasPrice, hgasPrice, gasLimit, hgasLimit, to', hto,
    value, hvalue, data, hdata, rfl⟩

theorem denotes_of_ofPayload (hmemory : InMemory payload)
    (h : LegacyTransaction.ofPayload payload = .ok tx) :
    ∃ values, TransactionValues.ofPayload payload = some values ∧ tx.Denotes values := by
  simp only [LegacyTransaction.ofPayload, Codec.bind_eq_ok, pure_eq_ok] at h
  obtain ⟨chainId, hchainId, nonce, hnonce, gasPrice, hgasPrice, gasLimit, hgasLimit, to', hto,
    value, hvalue, data, hdata, rfl⟩ := h
  rw [payloadU64, okOr_eq_ok] at hchainId
  obtain ⟨nonceValue, nonceText, rfl, nonceLen⟩ := natBytes_of_payloadQuantityBytes hnonce
  obtain ⟨gasPriceValue, gasPriceText, rfl, gasPriceLen⟩ :=
    natBytes_of_payloadQuantityBytes hgasPrice
  obtain ⟨gasLimitValue, gasLimitText, rfl, gasLimitLen⟩ :=
    natBytes_of_payloadQuantityBytes hgasLimit
  obtain ⟨toText, toLen⟩ := parseHexBytes_of_payloadEvmAddressBytes hto
  obtain ⟨valueValue, valueText, rfl, valueLen⟩ := natBytes_of_payloadQuantityBytes hvalue
  obtain ⟨dataText, dataLen⟩ := parseHexBytes_of_payloadHexBytes hdata
  refine ⟨⟨chainId.toNat, nonceValue, gasPriceValue, gasLimitValue, to', valueValue, data⟩, ?_,
    rfl, rfl, ?_⟩
  · rw [TransactionValues.ofPayload, hchainId, nonceText, gasPriceText, gasLimitText, toText,
      valueText, dataText]
    rfl
  · rw [InMemory] at hmemory
    simp only [LegacyTransaction.strings, List.map_cons, List.map_nil, List.sum_cons,
      List.sum_nil]
    omega

end

/-! ## 4. Both lists are read back -/

section

variable {tx : LegacyTransaction} {values : TransactionValues}

/-- The written fields are the strings of the transaction, as the writer of lists has them. -/
theorem rlpList_fields (last : List (List UInt8)) :
    rlpList (tx.fields ++ last.map rlpBytes) = Rlp.encodeList (tx.strings ++ last) := by
  have hbytes : rlpBytes = Rlp.encodeString := funext rlpBytes_eq
  rw [← rlpList_eq, List.map_append, ← hbytes]
  rfl

/-- Three short strings behind the fields are read back with them. -/
theorem decodeList_fields (hdenotes : tx.Denotes values) {seventh eighth ninth : List UInt8}
    (h₇ : seventh.length ≤ 32) (h₈ : eighth.length ≤ 32) (h₉ : ninth.length ≤ 32) :
    Rlp.decodeList (rlpList (tx.fields ++ [seventh, eighth, ninth].map rlpBytes)) =
      some (values.items ++ [seventh, eighth, ninth]) := by
  rw [rlpList_fields, hdenotes.strings.symm]
  refine Rlp.decodeList_encodeList ?_
  have hshort := hdenotes.short
  simp only [LegacyTransaction.strings, List.map_cons, List.map_nil, List.sum_cons,
    List.sum_nil] at hshort
  have hstring := length_encodeString_le
  have s₁ := hstring tx.nonce
  have s₂ := hstring tx.gasPrice
  have s₃ := hstring tx.gasLimit
  have s₄ := hstring tx.toAddress
  have s₅ := hstring tx.value
  have s₆ := hstring tx.data
  have s₇ := hstring seventh
  have s₈ := hstring eighth
  have s₉ := hstring ninth
  simp only [LegacyTransaction.strings, Rlp.encodeItems, List.cons_append, List.nil_append,
    List.flatMap_cons, List.flatMap_nil, List.length_append, List.length_nil]
  omega

theorem rlpU64_eq_natBytes (value : UInt64) :
    rlpU64 value = rlpBytes (Rlp.natBytes value.toNat) := by
  rw [rlpU64_eq, Rlp.integer_eq_natBytes value.toNat_lt, rlpBytes_eq]

theorem length_natBytes_toNat (value : UInt64) : (Rlp.natBytes value.toNat).length ≤ 32 := by
  rw [← Rlp.integer_eq_natBytes value.toNat_lt]
  exact (Rlp.length_integer_le _).trans (by decide)

theorem decodeList_signingPayload (hdenotes : tx.Denotes values) :
    Rlp.decodeList tx.signingPayload =
      some (values.items ++ [Rlp.natBytes values.chainId, [], []]) := by
  rw [LegacyTransaction.signingPayload, rlpU64_eq_natBytes, ← hdenotes.chainId]
  exact decodeList_fields hdenotes (length_natBytes_toNat _) (Nat.zero_le _) (Nat.zero_le _)

theorem decodeList_signedTransaction (hdenotes : tx.Denotes values) (v : UInt64)
    {r s : List UInt8} (hr : r.length ≤ 32) (hs : s.length ≤ 32) :
    Rlp.decodeList (tx.signedTransaction v r s) = some (values.items ++
      [Rlp.natBytes v.toNat, Rlp.natBytes (ofBeBytes r), Rlp.natBytes (ofBeBytes s)]) := by
  rw [LegacyTransaction.signedTransaction, rlpU64_eq_natBytes, Rlp.trimmed_eq_natBytes,
    Rlp.trimmed_eq_natBytes]
  refine decodeList_fields hdenotes (length_natBytes_toNat v) ?_ ?_
  · rw [← Rlp.trimmed_eq_natBytes]
    exact (Rlp.length_trimmed_le r).trans hr
  · rw [← Rlp.trimmed_eq_natBytes]
    exact (Rlp.length_trimmed_le s).trans hs

/-- What is signed is the list of the values. -/
theorem signingPayload_eq (hdenotes : tx.Denotes values) : tx.signingPayload =
    Rlp.encodeList (values.items ++ [Rlp.natBytes values.chainId, [], []]) :=
  Rlp.eq_encodeList_of_decodeList (decodeList_signingPayload hdenotes)

/-- The items tell the values. -/
theorem values_of_items {values others : TransactionValues}
    (h : values.items ++ [Rlp.natBytes values.chainId, [], []] =
      others.items ++ [Rlp.natBytes others.chainId, [], []]) : values = others := by
  have hnumber : ∀ m n, Rlp.natBytes m = Rlp.natBytes n → m = n := by
    intro m n hmn
    rw [← Rlp.ofBeBytes_natBytes m, hmn, Rlp.ofBeBytes_natBytes]
  simp only [TransactionValues.items, List.cons_append, List.nil_append, List.cons.injEq,
    and_true] at h
  obtain ⟨hnonce, hgasPrice, hgasLimit, hto, hvalue, hdata, hchainId⟩ := h
  obtain ⟨chainId, nonce, gasPrice, gasLimit, to', value, data⟩ := values
  obtain ⟨chainId', nonce', gasPrice', gasLimit', to'', value', data'⟩ := others
  rw [TransactionValues.mk.injEq]
  exact ⟨hnumber _ _ hchainId, hnumber _ _ hnonce, hnumber _ _ hgasPrice,
    hnumber _ _ hgasLimit, hto, hnumber _ _ hvalue, hdata⟩

end

/-! ## 5. Transactions of payloads -/

section

variable [WalletSigner]

/-- The signature is the one over the payload's signing payload, and `v`, `r` and `s` are its. -/
theorem signed_of_signEip155LegacyTransaction {signingKey : SigningKey}
    {request : WalletApprovalRequest} {output : String × Json} {tx : LegacyTransaction}
    {values : TransactionValues} (htx : LegacyTransaction.ofPayload request.payload = .ok tx)
    (hdenotes : tx.Denotes values)
    (h : signEip155LegacyTransaction signingKey request = .ok output) :
    ∃ signature recoveryId signed,
      signPrehashRecoverable signingKey (keccak256 tx.signingPayload) =
        some (signature, recoveryId) ∧
      output.1 = "0x" ++ hexEncode signed ∧
      Rlp.decodeList signed = some (values.items ++
        [Rlp.natBytes (2 * values.chainId + 35 + recoveryId.toNat),
          Rlp.natBytes (ofBeBytes ((signatureToBytes signature).toList.take 32)),
          Rlp.natBytes (ofBeBytes ((signatureToBytes signature).toList.drop 32))]) := by
  simp only [signEip155LegacyTransaction, Codec.bind_eq_ok, okOr_eq_ok, pure_eq_ok] at h
  obtain ⟨-, -, tx', htx', ⟨signature, recoveryId⟩, hsignature, v, hv, rfl⟩ := h
  obtain rfl : tx' = tx := Except.ok.inj (htx'.symm.trans htx)
  refine ⟨signature, recoveryId, _, hsignature, rfl, ?_⟩
  rw [LegacyTransaction.recoveryValue] at hv
  split at hv
  · next hfits =>
    rw [Option.some.injEq] at hv
    have hvalue : v.toNat = 2 * values.chainId + 35 + recoveryId.toNat := by
      rw [← hv, UInt64.toNat_ofNat', Nat.mod_eq_of_lt hfits, hdenotes.chainId]
    have hlen := Bytes.length_toList (signatureToBytes signature)
    rw [← hvalue]
    refine decodeList_signedTransaction hdenotes v ?_ ?_
    · rw [List.length_take, hlen]
      decide
    · rw [List.length_drop, hlen]
  · cases hv

/-- **Both lists are canonical and say what the payload says.**  The strict reader finds nine items
in what is signed, and in what is handed out the same six fields before `v`, `r` and `s`.  Two
payloads are signed as the same bytes exactly if they denote the same values. -/
theorem legacy_transaction_rlp {payload : Json} {account : LinkedAccount}
    (hvalid : validateEip155TransactionIntentPayload payload account = .ok ())
    (hmemory : InMemory payload) :
    ∃ tx values, LegacyTransaction.ofPayload payload = .ok tx ∧
      TransactionValues.ofPayload payload = some values ∧
      Rlp.decodeList tx.signingPayload =
        some (values.items ++ [Rlp.natBytes values.chainId, [], []]) ∧
      (∀ (signingKey : SigningKey) (request : WalletApprovalRequest) (output : String × Json),
        request.payload = payload → signEip155LegacyTransaction signingKey request = .ok output →
        ∃ signature recoveryId signed,
          signPrehashRecoverable signingKey (keccak256 tx.signingPayload) =
            some (signature, recoveryId) ∧
          output.1 = "0x" ++ hexEncode signed ∧
          Rlp.decodeList signed = some (values.items ++
            [Rlp.natBytes (2 * values.chainId + 35 + recoveryId.toNat),
              Rlp.natBytes (ofBeBytes ((signatureToBytes signature).toList.take 32)),
              Rlp.natBytes (ofBeBytes ((signatureToBytes signature).toList.drop 32))])) ∧
      ∀ (other : Json) (otherAccount : LinkedAccount) (otherTx : LegacyTransaction),
        validateEip155TransactionIntentPayload other otherAccount = .ok () → InMemory other →
        LegacyTransaction.ofPayload other = .ok otherTx →
        (otherTx.signingPayload = tx.signingPayload ↔
          TransactionValues.ofPayload other = some values) := by
  obtain ⟨tx, htx⟩ := exists_ofPayload hvalid
  obtain ⟨values, hvalues, hdenotes⟩ := denotes_of_ofPayload hmemory htx
  refine ⟨tx, values, htx, hvalues, decodeList_signingPayload hdenotes, ?_, ?_⟩
  · rintro signingKey request output rfl hsign
    exact signed_of_signEip155LegacyTransaction htx hdenotes hsign
  · intro other otherAccount otherTx hotherValid hotherMemory hotherTx
    obtain ⟨others, hothers, hotherDenotes⟩ := denotes_of_ofPayload hotherMemory hotherTx
    constructor
    · intro hsame
      have hitems := decodeList_signingPayload hotherDenotes
      rw [hsame, decodeList_signingPayload hdenotes, Option.some.injEq] at hitems
      rw [hothers, values_of_items hitems]
    · intro hsame
      obtain rfl : others = values := Option.some.inj (hothers.symm.trans hsame)
      rw [signingPayload_eq hotherDenotes, signingPayload_eq hdenotes]

end

/-- A transfer of one unit on the fifth chain, with a gas limit of four digits. -/
theorem legacy_transaction_rlp_transfer :
    ∃ tx values, LegacyTransaction.ofPayload Sample.payload = .ok tx ∧
      TransactionValues.ofPayload Sample.payload = some values ∧
      Rlp.decodeList tx.signingPayload =
        some (values.items ++ [Rlp.natBytes values.chainId, [], []]) := by
  have hmemory : InMemory Sample.payload := by
    rw [InMemory]
    decide
  obtain ⟨tx, values, htx, hvalues, hsigned, -⟩ :=
    @legacy_transaction_rlp plainSigner Sample.payload Sample.account Sample.payload_accepted
      hmemory
  exact ⟨tx, values, htx, hvalues, hsigned⟩

end ElastosRuntime.Wallet
