/-
# The log of a mint

`decode_protected_content_asset_created_log`: the four topics of the log hold three addresses, and
its data is the ABI encoding of the token's id, its URI and the type of the operation.  The data
comes from a chain that nobody vouches for, so every offset and length in it is checked before
anything is taken from it: no slice is ever outside of the data (`ne_outOfBounds`), whatever the
data are, and only the one canonical encoding is accepted (`decodeAssetCreated_eq_ok`).
-/
import ElastosRuntime.Lib.Json
import ElastosRuntime.ChainProvider.AbiCalls

namespace ElastosRuntime.ChainProvider

open Contracts (failIf okOr failIf_eq_ok okOr_eq_ok pure_eq_ok exists_unit)
open Text

/-! ## 1. The decoder -/

structure ProtectedContentAssetCreatedLog where
  creator : String
  ledger : String
  operative : String
  tokenId : String
  tokenUri : String
  opTypeCode : UInt16
deriving DecidableEq

/-- `&data[start..end]` -/
def slice (data : List UInt8) (start stop : Nat) : Except Fault (List UInt8) :=
  if start ≤ stop ∧ stop ≤ data.length then .ok ((data.drop start).take (stop - start))
  else .error .outOfBounds

/-- `usize::checked_add` -/
def checkedAdd (a b : Nat) : Option Nat := if a + b < 2 ^ 64 then some (a + b) else none

/-- `usize::checked_mul` -/
def checkedMul (a b : Nat) : Option Nat := if a * b < 2 ^ 64 then some (a * b) else none

/-- The last bytes of a word whose first ones are zero. -/
def lowBytes (count : Nat) (word : List UInt8) (badLength tooLarge : String) :
    Except Fault (List UInt8) := do
  failIf (word.length ≠ 32) (.refused badLength)
  let high ← slice word 0 (32 - count)
  failIf (high.any (· ≠ 0)) (.refused tooLarge)
  slice word (32 - count) 32

def wordToAddress (word : List UInt8) : Except Fault String := do
  let low ← lowBytes 20 word "address word must be 32 bytes" "address word has non-zero high bytes"
  pure ("0x" ++ encodeHex low)

def topicToAddress (value : Option Json) (label : String) : Except Fault String := do
  let value ← okOr (value >>= Json.asStr) (.refused (label ++ " missing"))
  let bytes ← decodeHex value (some 32) label
  wordToAddress bytes

def usizeFromWord (word : List UInt8) (label : String) : Except Fault Nat := do
  let value ← lowBytes 8 word (label ++ " must be 32 bytes") (label ++ " exceeds usize")
  pure (ofBeBytes value)

def u16FromWord (word : List UInt8) (label : String) : Except Fault UInt16 := do
  let low ← lowBytes 2 word (label ++ " must be 32 bytes") (label ++ " must fit in uint16")
  pure (UInt16.ofNat (ofBeBytes low))

def decodeAbiString (data : List UInt8) (offset : Nat) (label : String) : Except Fault String := do
  let lenEnd ← okOr (checkedAdd offset 32) (.refused (label ++ " offset overflows"))
  failIf (data.length < lenEnd) (.refused (label ++ " length word is out of bounds"))
  let word ← slice data offset lenEnd
  let length ← usizeFromWord word label
  let valueEnd ← okOr (checkedAdd lenEnd length) (.refused (label ++ " length overflows"))
  failIf (data.length < valueEnd) (.refused (label ++ " bytes are truncated"))
  let value ← slice data lenEnd valueEnd
  okOr (ofUtf8Bytes? value) (.refused (label ++ " must be UTF-8"))

/-- What the data says: the token's id and URI and the type of the operation. -/
def decodeAssetCreatedData (dataBytes : List UInt8) : Except Fault (String × String × UInt16) := do
  failIf (dataBytes.length < 96) (.refused "AssetCreated log data is truncated")
  let word ← slice dataBytes 0 32
  let tokenId := normalizeHexQuantityBytes word
  let word ← slice dataBytes 32 64
  let tokenUriOffset ← usizeFromWord word "AssetCreated tokenUri offset"
  failIf (tokenUriOffset ≠ 96) (.refused "AssetCreated tokenUri offset must be exactly 96")
  let word ← slice dataBytes 64 96
  let opTypeCode ← u16FromWord word "AssetCreated opType"
  let tokenUriLengthEnd ← okOr (checkedAdd tokenUriOffset 32)
    (.refused "AssetCreated tokenUri length overflows")
  failIf (dataBytes.length < tokenUriLengthEnd)
    (.refused "AssetCreated tokenUri length word is out of bounds")
  let word ← slice dataBytes tokenUriOffset tokenUriLengthEnd
  let tokenUriLength ← usizeFromWord word "AssetCreated tokenUri"
  let chunks ← okOr (checkedAdd tokenUriLength 31)
    (.refused "AssetCreated tokenUri length overflows")
  let paddedTokenUriLength ← okOr (checkedMul (chunks / 32) 32)
    (.refused "AssetCreated tokenUri length overflows")
  let expectedTotal ← okOr (checkedAdd tokenUriLengthEnd paddedTokenUriLength)
    (.refused "AssetCreated tokenUri length overflows")
  failIf (dataBytes.length ≠ expectedTotal)
    (.refused "AssetCreated log data length is non-canonical")
  let tokenUriValueEnd ← okOr (checkedAdd tokenUriLengthEnd tokenUriLength)
    (.refused "AssetCreated tokenUri length overflows")
  let padding ← slice dataBytes tokenUriValueEnd expectedTotal
  failIf (padding.any (· ≠ 0)) (.refused "AssetCreated tokenUri padding must be zero")
  let tokenUri ← decodeAbiString dataBytes tokenUriOffset "AssetCreated tokenUri"
  pure (tokenId, tokenUri, opTypeCode)

def decodeProtectedContentAssetCreatedLog (entry : Json) :
    Except Fault ProtectedContentAssetCreatedLog := do
  let topics ← okOr (entry.get "topics" >>= Json.asArray)
    (.refused "AssetCreated log topics missing")
  failIf (topics.length ≠ 4) (.refused "AssetCreated log must contain exactly four topics")
  let creator ← topicToAddress topics[1]? "creator topic"
  let ledger ← topicToAddress topics[2]? "channel topic"
  let operative ← topicToAddress topics[3]? "operative topic"
  let data ← okOr (entry.get "data" >>= Json.asStr) (.refused "AssetCreated log data missing")
  let dataBytes ← decodeHex data none "AssetCreated log data"
  let (tokenId, tokenUri, opTypeCode) ← decodeAssetCreatedData dataBytes
  pure { creator, ledger, operative, tokenId, tokenUri, opTypeCode }

/-! ## 2. Slices and words -/

variable {data word : List UInt8} {start stop n : Nat}

theorem slice_eq_ok {part : List UInt8} : slice data start stop = .ok part ↔
    start ≤ stop ∧ stop ≤ data.length ∧ (data.drop start).take (stop - start) = part := by
  unfold slice
  split
  · next h =>
    rw [Except.ok.injEq]
    exact ⟨fun hpart => ⟨h.1, h.2, hpart⟩, fun hpart => hpart.2.2⟩
  · next h => exact ⟨nofun, fun hpart => absurd ⟨hpart.1, hpart.2.1⟩ h⟩

theorem eq_replicate_of_any {bytes : List UInt8} (h : ¬bytes.any (· ≠ 0)) :
    bytes = List.replicate bytes.length 0 := by
  refine List.eq_replicate_iff.mpr ⟨rfl, fun byte hbyte => ?_⟩
  by_contra hne
  exact h (List.any_eq_true.mpr ⟨byte, hbyte, decide_eq_true hne⟩)

theorem any_replicate_zero (n : Nat) : ¬(List.replicate n (0 : UInt8)).any (· ≠ 0) := by
  intro h
  obtain ⟨byte, hbyte, hne⟩ := List.any_eq_true.mp h
  exact of_decide_eq_true hne (List.eq_of_mem_replicate hbyte)

variable {count a b c : Nat} {badLength tooLarge tokenUri : String}

theorem lowBytes_eq_ok (hcount : count ≤ 32) {low : List UInt8} :
    lowBytes count word badLength tooLarge = .ok low ↔
      low.length = count ∧ word = List.replicate (32 - count) 0 ++ low := by
  simp only [lowBytes, Codec.bind_eq_ok, failIf_eq_ok, exists_unit, slice_eq_ok, not_not]
  constructor
  · rintro ⟨hlength, high, ⟨-, -, rfl⟩, hzero, -, -, rfl⟩
    rw [List.drop_zero, Nat.sub_zero] at hzero
    have htake : (word.drop (32 - count)).take (32 - (32 - count)) = word.drop (32 - count) := by
      rw [List.take_of_length_le]
      rw [List.length_drop]
      omega
    have hhigh : word.take (32 - count) = List.replicate (32 - count) 0 := by
      have hzeros := eq_replicate_of_any hzero
      rwa [List.length_take, Nat.min_eq_left (by omega)] at hzeros
    rw [htake, ← hhigh, List.take_append_drop]
    refine ⟨?_, rfl⟩
    rw [List.length_drop]
    omega
  · rintro ⟨hlength, rfl⟩
    have hsize : (List.replicate (32 - count) 0 ++ low).length = 32 := by
      rw [List.length_append, List.length_replicate]
      omega
    refine ⟨hsize, _, ⟨Nat.zero_le _, by omega, rfl⟩, ?_, by omega, by omega, ?_⟩
    · rw [List.drop_zero, Nat.sub_zero, List.take_left' List.length_replicate]
      exact any_replicate_zero _
    · rw [List.drop_left' List.length_replicate, List.take_of_length_le (by omega)]

/-- A word whose first bytes are zero is the word of a small number. -/
theorem exists_lowBytes_iff (hcount : count ≤ 32) :
    (∃ low, lowBytes count word badLength tooLarge = .ok low ∧ ofBeBytes low = n) ↔
      n < 256 ^ count ∧ word = Abi.word n := by
  simp only [lowBytes_eq_ok hcount]
  constructor
  · rintro ⟨low, ⟨hlength, rfl⟩, rfl⟩
    refine ⟨ofBeBytes_lt hlength, ?_⟩
    rw [← replicate_append_eq_word (by omega), hlength]
  · rintro ⟨hlt, rfl⟩
    refine ⟨beBytes count n, ⟨beBytes_length _ _, ?_⟩, ofBeBytes_beBytes hlt⟩
    rw [replicate_append_beBytes hlt, Nat.sub_add_cancel hcount]
    rfl

variable {label text : String}

theorem usizeFromWord_eq_ok :
    usizeFromWord word label = .ok n ↔ n < 2 ^ 64 ∧ word = Abi.word n := by
  rw [usizeFromWord, Codec.bind_eq_ok]
  simp only [pure_eq_ok]
  exact exists_lowBytes_iff (by decide)

theorem u16FromWord_eq_ok {value : UInt16} :
    u16FromWord word label = .ok value ↔ word = Abi.word value.toNat := by
  have hcount : (2 : Nat) ≤ 32 := by decide
  rw [u16FromWord, Codec.bind_eq_ok]
  simp only [pure_eq_ok]
  constructor
  · rintro ⟨low, hlow, rfl⟩
    obtain ⟨hlt, hword⟩ := (exists_lowBytes_iff hcount).mp ⟨low, hlow, rfl⟩
    rw [hword, UInt16.toNat_ofNat_of_lt' hlt]
  · intro hword
    obtain ⟨low, hlow, hvalue⟩ := (exists_lowBytes_iff hcount).mpr ⟨value.toNat_lt, hword⟩
    exact ⟨low, hlow, by rw [hvalue, UInt16.ofNat_toNat]⟩

/-- The text of an address. -/
def addressText (n : Nat) : String := "0x" ++ hexEncode (beBytes 20 n)

theorem wordToAddress_eq_ok :
    wordToAddress word = .ok text ↔
      ∃ n < 2 ^ 160, word = Abi.word n ∧ text = addressText n := by
  have hcount : (20 : Nat) ≤ 32 := by decide
  rw [wordToAddress, Codec.bind_eq_ok]
  simp only [pure_eq_ok, lowBytes_eq_ok hcount]
  constructor
  · rintro ⟨low, ⟨hlength, rfl⟩, rfl⟩
    refine ⟨ofBeBytes low, ofBeBytes_lt hlength, ?_, ?_⟩
    · rw [← replicate_append_eq_word (by omega), hlength]
    · rw [addressText, beBytes_ofBeBytes hlength]
      rfl
  · rintro ⟨n, hlt, rfl, rfl⟩
    refine ⟨beBytes 20 n, ⟨beBytes_length _ _, ?_⟩, rfl⟩
    rw [replicate_append_beBytes (by exact hlt)]
    rfl

/-! ## 3. Exactly the canonical encodings are accepted -/

theorem tokenIdBits : 256 ≤ 256 := le_rfl

theorem opTypeBits : 16 ≤ 256 := by decide

/-- What the data of the log are: the id of the token, its URI, and the type of the operation. -/
def assetValues (tokenId : { n : Nat // n < 2 ^ 256 }) (tokenUri : String) (opTypeCode : UInt16) :
    List Abi.Datum :=
  [⟨.uint 256 tokenIdBits, tokenId⟩, ⟨.string, tokenUri⟩,
    ⟨.uint 16 opTypeBits, ⟨opTypeCode.toNat, opTypeCode.toNat_lt⟩⟩]

theorem encode_assetValues (tokenId : { n : Nat // n < 2 ^ 256 }) (tokenUri : String)
    (opTypeCode : UInt16) : Abi.encode (assetValues tokenId tokenUri opTypeCode) =
      Abi.word tokenId.1 ++ (Abi.word 96 ++ (Abi.word opTypeCode.toNat ++
        (Abi.word (utf8Bytes tokenUri).length ++ (utf8Bytes tokenUri ++
          List.replicate ((32 - (utf8Bytes tokenUri).length % 32) % 32) 0)))) := by
  simp only [assetValues, Abi.encode, List.map_cons, List.map_nil, Abi.part, Abi.layout, Abi.heads,
    Abi.tails, List.length_cons, List.length_nil, List.append_nil, List.append_assoc]
  rfl

/-- A word is the word of its number. -/
theorem eq_word (h : word.length = 32) : word = Abi.word (ofBeBytes word) :=
  (beBytes_ofBeBytes h).symm

theorem word_injective {m : Nat} (hn : n < 2 ^ 256) (hm : m < 2 ^ 256)
    (h : Abi.word n = Abi.word m) : n = m := by
  have hvalue := congrArg ofBeBytes h
  rwa [Abi.word, Abi.word, ofBeBytes_beBytes (by exact hn), ofBeBytes_beBytes (by exact hm)]
    at hvalue

/-- Two parts, one behind the other. -/
theorem drop_eq_append (data : List UInt8) (h : start ≤ stop) :
    data.drop start = (data.drop start).take (stop - start) ++ data.drop stop := by
  have hdrop : data.drop stop = (data.drop start).drop (stop - start) := by
    rw [List.drop_drop, Nat.add_sub_cancel' h]
  rw [hdrop, List.take_append_drop]

theorem checkedAdd_eq_some : checkedAdd a b = some c ↔ a + b < 2 ^ 64 ∧ a + b = c := by
  unfold checkedAdd
  split
  · next h => rw [Option.some.injEq, and_iff_right h]
  · next h => exact ⟨nofun, fun hsum => absurd hsum.1 h⟩

theorem checkedMul_eq_some : checkedMul a b = some c ↔ a * b < 2 ^ 64 ∧ a * b = c := by
  unfold checkedMul
  split
  · next h => rw [Option.some.injEq, and_iff_right h]
  · next h => exact ⟨nofun, fun hproduct => absurd hproduct.1 h⟩

theorem decodeAbiString_eq_ok {offset : Nat} :
    decodeAbiString data offset label = .ok text ↔ ∃ length < 2 ^ 64,
      offset + 32 + length < 2 ^ 64 ∧ offset + 32 + length ≤ data.length ∧
      (data.drop offset).take 32 = Abi.word length ∧
      (data.drop (offset + 32)).take length = utf8Bytes text := by
  simp only [decodeAbiString, Codec.bind_eq_ok, failIf_eq_ok, exists_unit, slice_eq_ok, okOr_eq_ok,
    usizeFromWord_eq_ok, checkedAdd_eq_some, Nat.not_lt]
  constructor
  · rintro ⟨_, ⟨-, rfl⟩, -, _, ⟨-, -, rfl⟩, length, ⟨hlength, hword⟩, _, ⟨hsum, rfl⟩, hend, _,
      ⟨-, -, rfl⟩, htext⟩
    rw [Nat.add_sub_cancel_left] at hword htext
    exact ⟨length, hlength, hsum, hend, hword, (utf8Bytes_of_ofUtf8Bytes? htext).symm⟩
  · rintro ⟨length, hlength, hsum, hend, hword, htext⟩
    refine ⟨_, ⟨by omega, rfl⟩, by omega, _, ⟨by omega, by omega, rfl⟩, length, ⟨hlength, ?_⟩, _,
      ⟨hsum, rfl⟩, hend, _, ⟨by omega, hend, rfl⟩, ?_⟩
    · rw [Nat.add_sub_cancel_left, hword]
    · rw [Nat.add_sub_cancel_left, htext, ofUtf8Bytes?_utf8Bytes]

/-- **What is read was encoded.** -/
theorem encode_of_decodeAssetCreatedData {tokenId : String} {opTypeCode : UInt16}
    (h : decodeAssetCreatedData data = .ok (tokenId, tokenUri, opTypeCode)) :
    ∃ number : { n : Nat // n < 2 ^ 256 },
      data = Abi.encode (assetValues number tokenUri opTypeCode) ∧
        tokenId = "0x" ++ hexNumeral number.1 := by
  simp only [decodeAssetCreatedData, Codec.bind_eq_ok, failIf_eq_ok, exists_unit, slice_eq_ok,
    okOr_eq_ok, pure_eq_ok, usizeFromWord_eq_ok, u16FromWord_eq_ok, decodeAbiString_eq_ok,
    checkedAdd_eq_some, checkedMul_eq_some, not_not, Nat.not_lt, Prod.mk.injEq] at h
  obtain ⟨hdata, _, ⟨-, -, rfl⟩, _, ⟨-, -, rfl⟩, _, ⟨-, hoffset⟩, rfl, _, ⟨-, -, rfl⟩, _, hop, _,
    ⟨-, rfl⟩, -, _, ⟨-, -, rfl⟩, length, ⟨hlt, hlength⟩, _, ⟨-, rfl⟩, _, ⟨-, rfl⟩, _, ⟨-, rfl⟩, htotal,
    _, ⟨-, rfl⟩, _, ⟨-, -, rfl⟩, hpadding, _, ⟨length', hlt', -, hend, hword, huri⟩, rfl, rfl, rfl⟩ := h
  rw [List.drop_zero, Nat.sub_zero]
  have hfirst : (data.take 32).length = 32 := by
    rw [List.length_take]
    omega
  refine ⟨⟨ofBeBytes (data.take 32), ofBeBytes_lt hfirst⟩, ?_, normalizeHexQuantityBytes_eq _⟩
  -- The length is read a second time, and is the same.
  obtain rfl : length' = length := word_injective (by omega) (by omega) (hword.symm.trans hlength)
  have hsize := congrArg List.length huri
  rw [List.length_take, List.length_drop, Nat.min_eq_left (by omega)] at hsize
  have hzeros := eq_replicate_of_any hpadding
  rw [List.length_take, List.length_drop, Nat.min_eq_left (by omega)] at hzeros
  have hsplit0 : data = data.take 32 ++ data.drop 32 := (List.take_append_drop 32 data).symm
  have hsplit32 := drop_eq_append data (by decide : 32 ≤ 64)
  have hsplit64 := drop_eq_append data (by decide : 64 ≤ 96)
  have hsplit96 := drop_eq_append data (by decide : 96 ≤ 96 + 32)
  have hsplit128 := drop_eq_append data (by omega : 96 + 32 ≤ 96 + 32 + length')
  rw [hoffset] at hsplit32
  rw [hop] at hsplit64
  rw [hlength] at hsplit96
  rw [Nat.add_sub_cancel_left, huri] at hsplit128
  have hpad : 96 + 32 + (length' + 31) / 32 * 32 - (96 + 32 + length') =
      (32 - length' % 32) % 32 := by omega
  rw [List.take_of_length_le (by rw [List.length_drop]; omega), hpad] at hzeros
  have hid : Abi.word (ofBeBytes (data.take 32)) = data.take 32 := (eq_word hfirst).symm
  rw [encode_assetValues, ← hsize, ← hzeros, ← hsplit128, ← hsplit96, ← hsplit64, ← hsplit32, hid,
    ← hsplit0]

/-- **What was encoded is read**, as long as it fits in memory. -/
theorem decodeAssetCreatedData_encode {number : { n : Nat // n < 2 ^ 256 }} {opTypeCode : UInt16}
    (h : (Abi.encode (assetValues number tokenUri opTypeCode)).length ≤ ISIZE_MAX) :
    decodeAssetCreatedData (Abi.encode (assetValues number tokenUri opTypeCode)) =
      .ok ("0x" ++ hexNumeral number.1, tokenUri, opTypeCode) := by
  obtain ⟨uri, huri⟩ : ∃ uri, uri = utf8Bytes tokenUri := ⟨_, rfl⟩
  obtain ⟨zeros, hzeros⟩ : ∃ zeros, zeros = (32 - uri.length % 32) % 32 := ⟨_, rfl⟩
  obtain ⟨data, hdata⟩ : ∃ data, data = Abi.encode (assetValues number tokenUri opTypeCode) :=
    ⟨_, rfl⟩
  rw [← hdata] at h ⊢
  rw [encode_assetValues, ← huri, ← hzeros] at hdata
  have hlength : data.length = 128 + uri.length + zeros := by
    rw [hdata]
    simp only [List.length_append, Abi.word_length, List.length_replicate]
    omega
  have hid : data.take 32 = Abi.word number.1 := by
    rw [hdata, List.take_left' (Abi.word_length _)]
  have hdrop32 : data.drop 32 = Abi.word 96 ++ (Abi.word opTypeCode.toNat ++
      (Abi.word uri.length ++ (uri ++ List.replicate zeros 0))) := by
    rw [hdata, List.drop_left' (Abi.word_length _)]
  have hdrop64 : data.drop 64 = Abi.word opTypeCode.toNat ++
      (Abi.word uri.length ++ (uri ++ List.replicate zeros 0)) := by
    rw [← List.drop_drop (i := 32) (j := 32), hdrop32, List.drop_left' (Abi.word_length _)]
  have hdrop96 : data.drop 96 = Abi.word uri.length ++ (uri ++ List.replicate zeros 0) := by
    rw [← List.drop_drop (i := 32) (j := 64), hdrop64, List.drop_left' (Abi.word_length _)]
  have hdrop128 : data.drop 128 = uri ++ List.replicate zeros 0 := by
    rw [← List.drop_drop (i := 32) (j := 96), hdrop96, List.drop_left' (Abi.word_length _)]
  have hdropEnd : data.drop (128 + uri.length) = List.replicate zeros 0 := by
    rw [← List.drop_drop, hdrop128, List.drop_left]
  have hnumber : number.1 < 256 ^ 32 := number.2
  rw [ISIZE_MAX, hlength] at h
  simp only [decodeAssetCreatedData, Codec.bind_eq_ok, failIf_eq_ok, exists_unit, slice_eq_ok,
    okOr_eq_ok, pure_eq_ok, usizeFromWord_eq_ok, u16FromWord_eq_ok, decodeAbiString_eq_ok,
    checkedAdd_eq_some, checkedMul_eq_some, not_not, Nat.not_lt, Prod.mk.injEq]
  refine ⟨by omega, _, ⟨by omega, by omega, rfl⟩, _, ⟨by omega, by omega, rfl⟩, 96,
    ⟨by omega, ?_⟩, rfl, _, ⟨by omega, by omega, rfl⟩, opTypeCode, ?_, 128, ⟨by omega, by omega⟩,
    by omega, _, ⟨by omega, by omega, rfl⟩, uri.length, ⟨by omega, ?_⟩, uri.length + 31,
    ⟨by omega, rfl⟩, (uri.length + 31) / 32 * 32, ⟨by omega, rfl⟩, data.length,
    ⟨by omega, by omega⟩, rfl, 128 + uri.length, ⟨by omega, rfl⟩, _,
    ⟨by omega, Nat.le_refl _, rfl⟩, ?_, tokenUri,
    ⟨uri.length, by omega, by omega, by omega, ?_, ?_⟩, ?_, rfl, rfl⟩
  · rw [hdrop32, List.take_left' (Abi.word_length _)]
  · rw [hdrop64, List.take_left' (Abi.word_length _)]
  · rw [hdrop96, List.take_left' (Abi.word_length _)]
  · rw [hdropEnd, List.take_of_length_le (by rw [List.length_replicate]; omega)]
    exact any_replicate_zero _
  · rw [hdrop96, List.take_left' (Abi.word_length _)]
  · rw [hdrop128, List.take_left, huri]
  · rw [normalizeHexQuantityBytes_eq, List.drop_zero, Nat.sub_zero, hid, Abi.word,
      ofBeBytes_beBytes hnumber]

/-- A topic that is the word of an address. -/
def HoldsAddress (topic : Json) (text : String) : Prop :=
  ∃ value n, topic.asStr = some value ∧ n < 2 ^ 160 ∧ Spells value (Abi.word n) ∧
    text = addressText n

theorem topicToAddress_eq_ok {topic : Option Json} :
    topicToAddress topic label = .ok text ↔ ∃ value, topic = some value ∧ HoldsAddress value text := by
  simp only [topicToAddress, Codec.bind_eq_ok, okOr_eq_ok, decodeHex_eq_ok, wordToAddress_eq_ok,
    Option.bind_eq_bind, Option.bind_eq_some_iff, HoldsAddress]
  constructor
  · rintro ⟨value, ⟨topic, htopic, hvalue⟩, _, ⟨hspells, -⟩, n, hlt, rfl, htext⟩
    exact ⟨topic, htopic, value, n, hvalue, hlt, hspells, htext⟩
  · rintro ⟨topic, htopic, value, n, hvalue, hlt, hspells, htext⟩
    refine ⟨value, ⟨topic, htopic, hvalue⟩, _, ⟨hspells, ?_⟩, n, hlt, rfl, htext⟩
    rintro _ ⟨⟩
    exact Abi.word_length n

theorem length_of_spells {value : String} {bytes : List UInt8} (h : Spells value bytes) :
    byteLength value = 2 + 2 * bytes.length := by
  obtain ⟨raw, hraw, hbytes⟩ := h
  obtain ⟨-, hdigits⟩ := exists_hexPairs_iff.mp ⟨bytes, hbytes⟩
  rw [stripPrefix_eq_some_iff.mp hraw, byteLength_append, byteLength_of_all_isAsciiHexdigit hdigits,
    length_eq_of_hexPairs hbytes]
  rfl

/-- **A log is accepted exactly if its data are a canonical encoding**, behind topics that are
addresses, and what it says is what was encoded. -/
theorem decodeProtectedContentAssetCreatedLog_eq_ok {entry : Json}
    {log : ProtectedContentAssetCreatedLog}
    (hfits : ∀ data, entry.getStr "data" = some data → byteLength data ≤ ISIZE_MAX) :
    decodeProtectedContentAssetCreatedLog entry = .ok log ↔
      ∃ signature creator ledger operative data number,
        entry.get "topics" >>= Json.asArray = some [signature, creator, ledger, operative] ∧
        HoldsAddress creator log.creator ∧ HoldsAddress ledger log.ledger ∧
        HoldsAddress operative log.operative ∧ entry.getStr "data" = some data ∧
        Spells data (Abi.encode (assetValues number log.tokenUri log.opTypeCode)) ∧
        log.tokenId = "0x" ++ hexNumeral number.1 := by
  simp only [decodeProtectedContentAssetCreatedLog, Codec.bind_eq_ok, okOr_eq_ok, failIf_eq_ok,
    exists_unit, not_not, topicToAddress_eq_ok, decodeHex_eq_ok, pure_eq_ok]
  constructor
  · rintro ⟨topics, htopics, hcount, creator, ⟨_, hcreatorTopic, hcreator⟩, ledger,
      ⟨_, hledgerTopic, hledger⟩, operative, ⟨_, hoperativeTopic, hoperative⟩, data, hdata, bytes,
      ⟨hspells, -⟩, ⟨tokenId, tokenUri, opTypeCode⟩, hread, rfl⟩
    obtain ⟨signature, creatorTopic, ledgerTopic, operativeTopic, rfl⟩ := List.length_eq_four.mp hcount
    cases hcreatorTopic
    cases hledgerTopic
    cases hoperativeTopic
    obtain ⟨number, rfl, rfl⟩ := encode_of_decodeAssetCreatedData hread
    exact ⟨signature, _, _, _, data, number, htopics, hcreator, hledger, hoperative, hdata, hspells,
      rfl⟩
  · rintro ⟨signature, creator, ledger, operative, data, number, htopics, hcreator, hledger,
      hoperative, hdata, hspells, htokenId⟩
    have hlength := length_of_spells hspells
    have hshort := hfits data hdata
    refine ⟨_, htopics, rfl, _, ⟨creator, rfl, hcreator⟩, _, ⟨ledger, rfl, hledger⟩, _,
      ⟨operative, rfl, hoperative⟩, data, hdata, _, ⟨hspells, by simp⟩, _,
      decodeAssetCreatedData_encode (by omega), ?_⟩
    rw [← htokenId]

/-! ## 4. Nothing is taken from outside of the data -/

/-- No slice was outside of its bytes. -/
def InBounds {α : Type} (x : Except Fault α) : Prop := x ≠ .error .outOfBounds

section

variable {α β : Type}

theorem InBounds.bind {x : Except Fault α} {f : α → Except Fault β} (hx : InBounds x)
    (hf : ∀ a, x = .ok a → InBounds (f a)) : InBounds (x >>= f) := by
  cases x with
  | ok a => exact hf a rfl
  | error fault => exact fun h => hx (congrArg Except.error (Except.error.inj h))

theorem inBounds_pure (a : α) : InBounds (pure a) := nofun

theorem inBounds_failIf (bad : Prop) [Decidable bad] (message : String) :
    InBounds (failIf bad (Fault.refused message)) := by
  unfold failIf
  split
  · nofun
  · nofun

theorem inBounds_okOr (x : Option α) (message : String) :
    InBounds (okOr x (Fault.refused message)) := by
  cases x with
  | none => nofun
  | some a => nofun

end

theorem inBounds_slice (h : start ≤ stop) (hstop : stop ≤ data.length) :
    InBounds (slice data start stop) := by
  rw [slice, if_pos ⟨h, hstop⟩]
  nofun

theorem inBounds_decodeHexChunks (label : String) (chars : List Char) :
    InBounds (decodeHexChunks label chars) := by
  fun_induction decodeHexChunks label chars with
  | case1 high low rest ih =>
    refine (inBounds_okOr _ _).bind fun _ _ => (inBounds_okOr _ _).bind fun _ _ => ?_
    exact ih.bind fun _ _ => inBounds_pure _
  | case2 => exact inBounds_pure _

theorem inBounds_decodeHex (value : String) (count : Option Nat) (label : String) :
    InBounds (decodeHex value count label) := by
  have hvalid : InBounds (validateHex value count label) := by
    refine (inBounds_okOr _ _).bind fun _ _ => (inBounds_failIf _ _).bind fun _ _ => ?_
    cases count with
    | none => exact inBounds_pure _
    | some n => exact inBounds_failIf _ _
  exact hvalid.bind fun _ _ => inBounds_decodeHexChunks _ _

theorem inBounds_lowBytes (count : Nat) (word : List UInt8) (badLength tooLarge : String) :
    InBounds (lowBytes count word badLength tooLarge) := by
  refine (inBounds_failIf _ _).bind fun _ hlength => ?_
  have hlength : word.length = 32 := not_not.mp (failIf_eq_ok.mp hlength)
  refine (inBounds_slice (Nat.zero_le _) (by omega)).bind fun _ _ => ?_
  exact (inBounds_failIf _ _).bind fun _ _ => inBounds_slice (Nat.sub_le _ _) (by omega)

theorem inBounds_usizeFromWord (word : List UInt8) (label : String) :
    InBounds (usizeFromWord word label) :=
  (inBounds_lowBytes _ _ _ _).bind fun _ _ => inBounds_pure _

theorem inBounds_decodeAbiString (data : List UInt8) (offset : Nat) (label : String) :
    InBounds (decodeAbiString data offset label) := by
  refine (inBounds_okOr _ _).bind fun lenEnd hlenEnd => ?_
  obtain ⟨-, rfl⟩ := checkedAdd_eq_some.mp (okOr_eq_ok.mp hlenEnd)
  refine (inBounds_failIf _ _).bind fun _ hword => ?_
  have hword : offset + 32 ≤ data.length := Nat.not_lt.mp (failIf_eq_ok.mp hword)
  refine (inBounds_slice (Nat.le_add_right _ _) hword).bind fun _ _ => ?_
  refine (inBounds_usizeFromWord _ _).bind fun length _ => ?_
  refine (inBounds_okOr _ _).bind fun valueEnd hvalueEnd => ?_
  obtain ⟨-, rfl⟩ := checkedAdd_eq_some.mp (okOr_eq_ok.mp hvalueEnd)
  refine (inBounds_failIf _ _).bind fun _ hvalue => ?_
  have hvalue : offset + 32 + length ≤ data.length := Nat.not_lt.mp (failIf_eq_ok.mp hvalue)
  exact (inBounds_slice (Nat.le_add_right _ _) hvalue).bind fun _ _ => inBounds_okOr _ _

theorem inBounds_decodeAssetCreatedData (data : List UInt8) :
    InBounds (decodeAssetCreatedData data) := by
  refine (inBounds_failIf _ _).bind fun _ hlength => ?_
  have hlength : 96 ≤ data.length := Nat.not_lt.mp (failIf_eq_ok.mp hlength)
  refine (inBounds_slice (by omega) (by omega)).bind fun _ _ => ?_
  refine (inBounds_slice (by omega) (by omega)).bind fun _ _ => ?_
  refine (inBounds_usizeFromWord _ _).bind fun offset _ => ?_
  refine (inBounds_failIf _ _).bind fun _ hoffset => ?_
  obtain rfl : offset = 96 := not_not.mp (failIf_eq_ok.mp hoffset)
  refine (inBounds_slice (by omega) hlength).bind fun _ _ => ?_
  refine ((inBounds_lowBytes _ _ _ _).bind fun _ _ => inBounds_pure _).bind fun _ _ => ?_
  refine (inBounds_okOr _ _).bind fun lengthEnd hlengthEnd => ?_
  obtain ⟨-, rfl⟩ := checkedAdd_eq_some.mp (okOr_eq_ok.mp hlengthEnd)
  refine (inBounds_failIf _ _).bind fun _ hword => ?_
  have hword : 96 + 32 ≤ data.length := Nat.not_lt.mp (failIf_eq_ok.mp hword)
  refine (inBounds_slice (by omega) hword).bind fun _ _ => ?_
  refine (inBounds_usizeFromWord _ _).bind fun length _ => ?_
  refine (inBounds_okOr _ _).bind fun chunks hchunks => ?_
  obtain ⟨-, rfl⟩ := checkedAdd_eq_some.mp (okOr_eq_ok.mp hchunks)
  refine (inBounds_okOr _ _).bind fun padded hpadded => ?_
  obtain ⟨-, rfl⟩ := checkedMul_eq_some.mp (okOr_eq_ok.mp hpadded)
  refine (inBounds_okOr _ _).bind fun total htotal => ?_
  obtain ⟨-, rfl⟩ := checkedAdd_eq_some.mp (okOr_eq_ok.mp htotal)
  refine (inBounds_failIf _ _).bind fun _ htotal => ?_
  have htotal : data.length = 96 + 32 + (length + 31) / 32 * 32 :=
    not_not.mp (failIf_eq_ok.mp htotal)
  refine (inBounds_okOr _ _).bind fun valueEnd hvalueEnd => ?_
  obtain ⟨-, rfl⟩ := checkedAdd_eq_some.mp (okOr_eq_ok.mp hvalueEnd)
  -- The padding is what the length rounded up goes beyond the length.
  refine (inBounds_slice (by omega) (by omega)).bind fun _ _ => ?_
  refine (inBounds_failIf _ _).bind fun _ _ => ?_
  exact (inBounds_decodeAbiString _ _ _).bind fun _ _ => inBounds_pure _

/-- **Nothing is taken from outside of the data**, whatever the log is. -/
theorem inBounds_decodeProtectedContentAssetCreatedLog (entry : Json) :
    InBounds (decodeProtectedContentAssetCreatedLog entry) := by
  have htopic : ∀ (topic : Option Json) (label : String), InBounds (topicToAddress topic label) := by
    intro topic label
    refine (inBounds_okOr _ _).bind fun _ _ => (inBounds_decodeHex _ _ _).bind fun _ _ => ?_
    exact (inBounds_lowBytes _ _ _ _).bind fun _ _ => inBounds_pure _
  refine (inBounds_okOr _ _).bind fun _ _ => (inBounds_failIf _ _).bind fun _ _ => ?_
  refine (htopic _ _).bind fun _ _ => (htopic _ _).bind fun _ _ => (htopic _ _).bind fun _ _ => ?_
  refine (inBounds_okOr _ _).bind fun _ _ => (inBounds_decodeHex _ _ _).bind fun _ _ => ?_
  exact (inBounds_decodeAssetCreatedData _).bind fun _ _ => inBounds_pure _

/-! ## 5. What is built and what is read -/

/-- **Calls and logs follow the ABI.**  What a builder accepts is encoded as the values it denotes,
these are read back, and the same text is the same function with the same values; the data of a
log are read within their bounds, and exactly the canonical encodings are accepted. -/
theorem abi_spec :
    (∀ (args : MintArgs) (text : String), args.call = .ok text → ∃ selector data,
      args.denoted = some (selector, data) ∧ text = callText selector data ∧
        Abi.decode (data.map Sigma.fst) (Abi.encode data) = some data) ∧
    (∀ (args others : MintArgs) (text : String), args.call = .ok text → others.call = .ok text →
      args.denoted = others.denoted) ∧
    (∀ (args : PaidArgs) (bytes : List UInt8), args.encoded = .ok bytes → ∃ data,
      args.denoted = some data ∧ bytes = Abi.encode data ∧
        Abi.decode (data.map Sigma.fst) bytes = some data) ∧
    (∀ (args others : PaidArgs) (bytes : List UInt8), args.encoded = .ok bytes →
      others.encoded = .ok bytes → args.denoted = others.denoted) ∧
    (∀ (args : BuyArgs) (text : String), args.call = .ok text → ∃ selector data,
      args.denoted = some (selector, data) ∧ text = callText selector data ∧
        Abi.decode (data.map Sigma.fst) (Abi.encode data) = some data) ∧
    (∀ (args others : BuyArgs) (text : String), args.call = .ok text → others.call = .ok text →
      args.denoted = others.denoted) ∧
    (∀ entry : Json, InBounds (decodeProtectedContentAssetCreatedLog entry)) ∧
    ∀ (entry : Json) (log : ProtectedContentAssetCreatedLog),
      (∀ data, entry.getStr "data" = some data → byteLength data ≤ ISIZE_MAX) →
      (decodeProtectedContentAssetCreatedLog entry = .ok log ↔
        ∃ signature creator ledger operative data number,
          entry.get "topics" >>= Json.asArray = some [signature, creator, ledger, operative] ∧
          HoldsAddress creator log.creator ∧ HoldsAddress ledger log.ledger ∧
          HoldsAddress operative log.operative ∧ entry.getStr "data" = some data ∧
          Spells data (Abi.encode (assetValues number log.tokenUri log.opTypeCode)) ∧
          log.tokenId = "0x" ++ hexNumeral number.1) := by
  refine ⟨fun args text h => ?_, fun args others text => MintArgs.denoted_eq,
    fun args bytes h => ?_, fun args others bytes => PaidArgs.denoted_eq, fun args text h => ?_,
    fun args others text => BuyArgs.denoted_eq, inBounds_decodeProtectedContentAssetCreatedLog,
    fun entry log => decodeProtectedContentAssetCreatedLog_eq_ok⟩
  · obtain ⟨selector, data, hdenoted, hlength, htext⟩ := args.call_eq_ok h
    exact ⟨selector, data, hdenoted, htext, decode_encode_of_lt hlength⟩
  · obtain ⟨data, hdenoted, hlength, rfl⟩ := args.encoded_eq_ok h
    exact ⟨data, hdenoted, rfl, decode_encode_of_lt hlength⟩
  · obtain ⟨selector, data, hdenoted, hlength, htext⟩ := args.call_eq_ok h
    exact ⟨selector, data, hdenoted, htext, decode_encode_of_lt hlength⟩

namespace Sample

def purchase : BuyArgs where
  selector := "0xf7580ad9"
  seller := "0x0000000000000000000000000000000000000001"
  ledger := "0x0000000000000000000000000000000000000002"
  tokenId := "0x03"
  quantity := "0x1"
  price := "0x05"
  payToken := none

def padded : BuyArgs := { purchase with quantity := "0x01" }

theorem same_quantity :
    abiWordHexQuantity "0x01" "quantity" = abiWordHexQuantity "0x1" "quantity" := by
  decide +kernel

theorem purchase_isSome : purchase.call.toOption.isSome := by
  decide +kernel

theorem same_purchase : purchase.call = padded.call := by
  simp only [BuyArgs.call, purchase, padded, encodeAuthorityGatewayBuyAccessCall, same_quantity]

/-- Two tuples of texts have one call: a quantity has more than one spelling. -/
theorem purchase_spelled_twice : purchase ≠ padded ∧
    ∃ text, purchase.call = .ok text ∧ padded.call = .ok text := by
  refine ⟨by decide, ?_⟩
  cases hcall : purchase.call with
  | error fault =>
    have hsome := purchase_isSome
    rw [hcall] at hsome
    cases hsome
  | ok text => exact ⟨text, rfl, by rw [← same_purchase, hcall]⟩

theorem purchase_read_back : ∃ text selector data, purchase.call = .ok text ∧
    purchase.denoted = some (selector, data) ∧ text = callText selector data ∧
      Abi.decode (data.map Sigma.fst) (Abi.encode data) = some data := by
  obtain ⟨-, text, hcall, -⟩ := purchase_spelled_twice
  obtain ⟨-, -, -, -, hbuy, -⟩ := abi_spec
  obtain ⟨selector, data, h⟩ := hbuy purchase text hcall
  exact ⟨text, selector, data, hcall, h⟩

end Sample

end ElastosRuntime.ChainProvider
