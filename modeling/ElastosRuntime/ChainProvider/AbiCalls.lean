/-
# Contract calls

The builders of `abi.rs` append words and arrays to a vector and compute the offsets of what is
dynamic from the lengths of what stands before it.  What they build is the ABI encoding of the
values that their arguments denote (`encodeProtectedContentCreatorMintCall_eq_ok` and its
siblings), so the values are read back from it, and arguments with different values are never
encoded alike.

A value has several spellings as a text: quantities may begin with zeros, and digits have two
cases.  Two arguments that are spelled differently and denote the same number are encoded alike.
-/
import ElastosRuntime.ChainProvider.Hex
import ElastosRuntime.Lib.Abi

namespace ElastosRuntime.ChainProvider

open Contracts (failIf okOr failIf_eq_ok okOr_eq_ok pure_eq_ok exists_unit)
open Text

/-! ## 1. Words and arrays -/

/-- `usize` addition, which wraps in a release build. -/
def usizeAdd (a b : Nat) : Nat := (a + b) % 2 ^ 64

def abiWordUsize (value : Nat) : List UInt8 := List.replicate 24 0 ++ beBytes 8 value

def abiWordU128 (value : Nat) : List UInt8 := List.replicate 16 0 ++ beBytes 16 value

def abiWordBytes16 (value : Bytes 16) : List UInt8 := value.toList ++ List.replicate 16 0

def abiEncodeBytes (value : List UInt8) : List UInt8 :=
  let padding := (32 - value.length % 32) % 32
  abiWordUsize value.length ++ value ++ List.replicate padding 0

def abiEncodeString (value : List UInt8) : List UInt8 :=
  let padding := (32 - value.length % 32) % 32
  abiWordUsize value.length ++ value ++ List.replicate padding 0

/-- The address is copied to the last 20 bytes of the word; `decode_hex` has counted them. -/
def abiWordAddress (address : String) : Except Fault (List UInt8) := do
  let address ← decodeHex address (some 20) "EVM address"
  pure (List.replicate 12 0 ++ address)

def abiWordHexQuantity (value label : String) : Except Fault (List UInt8) := do
  validateHexQuantity value label
  let raw ← decodeHexQuantity value label
  failIf (32 < raw.length) (.refused (label ++ " must fit in uint256"))
  pure (List.replicate (32 - raw.length) 0 ++ raw)

def abiEncodeAddressArray (addrs : List String) : Except Fault (List UInt8) := do
  let words ← addrs.mapM abiWordAddress
  pure (abiWordUsize addrs.length ++ words.flatten)

def abiEncodeUintArrayU64 (values : List UInt64) : List UInt8 :=
  abiWordUsize values.length ++ values.flatMap fun value => abiWordU128 value.toNat

def abiEncodeUintArrayDecimal (values : List String) : Except Fault (List UInt8) := do
  let words ← values.mapM fun value => abiWordHexQuantity value "amount"
  pure (abiWordUsize values.length ++ words.flatten)

/-! ## 2. The builders -/

/-- What a vector comes to: it cannot grow beyond `isize::MAX` bytes. -/
def allocated (bytes : List UInt8) : Except Fault (List UInt8) := do
  failIf (ISIZE_MAX < bytes.length) .capacityOverflow
  pure bytes

/-- `format!("0x{}", encode_hex(&bytes))` -/
def hexText (bytes : List UInt8) : Except Fault String := do
  failIf (ISIZE_MAX < 2 + 2 * bytes.length) .capacityOverflow
  pure ("0x" ++ encodeHex bytes)

def encodeProtectedContentCreatorMintCall (selector tokenUri : String) (opTypeCode : UInt16)
    (opRaw sellRaw : List UInt8) : Except Fault String := do
  let bytes ← decodeHex selector (some 4) "mint function selector"
  let encUri := abiEncodeString (utf8Bytes tokenUri)
  let encOp := abiEncodeBytes opRaw
  let encSell := abiEncodeBytes sellRaw
  let head := 4 * 32
  let uriOff := head
  let opOff := usizeAdd uriOff encUri.length
  let sellOff := usizeAdd opOff encOp.length
  hexText (bytes ++ abiWordUsize uriOff ++ abiWordU128 opTypeCode.toNat ++ abiWordUsize opOff ++
    abiWordUsize sellOff ++ encUri ++ encOp ++ encSell)

def numHeadWords (resellerCut : Option UInt16) : Nat := if resellerCut.isSome then 6 else 5

def resellerCutWord : Option UInt16 → List UInt8
  | some cut => abiWordU128 cut.toNat
  | none => []

def encodeProtectedContentMintOpRawPaid (contentAccessId : Bytes 16) (metadataUri : String)
    (addresses : List String) (roleTypes : List UInt64) (amounts : List String)
    (resellerCut : Option UInt16) : Except Fault (List UInt8) := do
  failIf (addresses.length ≠ roleTypes.length ∨ addresses.length ≠ amounts.length)
    (.refused "op_raw addresses/role_types/amounts must be equal length")
  failIf (addresses = []) (.refused "op_raw requires at least one payee")
  let headSize := numHeadWords resellerCut * 32
  let encUri := abiEncodeString (utf8Bytes metadataUri)
  let encAddr ← abiEncodeAddressArray addresses
  let encRoles := abiEncodeUintArrayU64 roleTypes
  let encAmts ← abiEncodeUintArrayDecimal amounts
  let uriOff := headSize
  let addrOff := usizeAdd uriOff encUri.length
  let roleOff := usizeAdd addrOff encAddr.length
  let amtOff := usizeAdd roleOff encRoles.length
  allocated (abiWordBytes16 contentAccessId ++ abiWordUsize uriOff ++ abiWordUsize addrOff ++
    abiWordUsize roleOff ++ abiWordUsize amtOff ++ resellerCutWord resellerCut ++ encUri ++
    encAddr ++ encRoles ++ encAmts)

def encodeProtectedContentSellRawData (copies price payToken : String) :
    Except Fault (List UInt8) := do
  let copies ← abiWordHexQuantity copies "copies"
  let price ← abiWordHexQuantity price "price"
  let payToken ← abiWordAddress payToken
  pure (copies ++ price ++ payToken)

def payTokenWord : Option String → Except Fault (List UInt8)
  | some payToken => abiWordAddress payToken
  | none => pure []

def encodeAuthorityGatewayBuyAccessCall (selector seller ledger tokenId quantity price : String)
    (payToken : Option String) : Except Fault String := do
  let bytes ← decodeHex selector (some 4) "EVM function selector"
  let seller ← abiWordAddress seller
  let ledger ← abiWordAddress ledger
  let tokenId ← abiWordHexQuantity tokenId "token_id"
  let quantity ← abiWordHexQuantity quantity "quantity"
  let price ← abiWordHexQuantity price "price"
  let payToken ← payTokenWord payToken
  hexText (bytes ++ seller ++ ledger ++ tokenId ++ quantity ++ price ++ payToken)

/-! ## 3. What the arguments denote -/

/-- The number that `0x` and digits denote, if it is in range. -/
def numberOf (bits : Nat) (text : String) : Option { n : Nat // n < 2 ^ bits } := do
  let n ← parseHexNumber text
  if h : n < 2 ^ bits then some ⟨n, h⟩ else none

/-- The four bytes that name a function. -/
def selectorOf (text : String) : Option (Bytes 4) := do
  let raw ← stripPrefix text "0x"
  let bytes ← hexDecode raw
  if h : bytes.length = 4 then some ⟨bytes, h⟩ else none

/-- The call of that function with these arguments. -/
def callText (selector : Bytes 4) (data : List Abi.Datum) : String :=
  "0x" ++ hexEncode (selector.toList ++ Abi.encode data)

/-- The arguments of `mint(string,uint16,bytes,bytes)`. -/
def mintValues (tokenUri : String) (opTypeCode : UInt16) (opRaw sellRaw : List UInt8) :
    List Abi.Datum :=
  [⟨.string, tokenUri⟩, ⟨.uint 16 (by decide), ⟨opTypeCode.toNat, opTypeCode.toNat_lt⟩⟩,
    ⟨.bytes, opRaw⟩, ⟨.bytes, sellRaw⟩]

def roleNumbers (roleTypes : List UInt64) : List { n : Nat // n < 2 ^ 64 } :=
  roleTypes.map fun role => ⟨role.toNat, role.toNat_lt⟩

/-- What a paid mint says of the operation: the content, its metadata, who is paid in which role
and how much, and the cut of a reseller. -/
def paidValues (contentAccessId : Bytes 16) (metadataUri : String)
    (payees : List { n : Nat // n < 2 ^ 160 }) (roleTypes : List UInt64)
    (amounts : List { n : Nat // n < 2 ^ 256 }) (resellerCut : Option UInt16) : List Abi.Datum :=
  [⟨.fixedBytes 16 (by decide), contentAccessId⟩, ⟨.string, metadataUri⟩,
    ⟨.array .address, payees⟩,
    ⟨.array (.uint 64 (by decide)), roleNumbers roleTypes⟩,
    ⟨.array (.uint 256 (by decide)), amounts⟩] ++
  resellerCut.toList.map fun cut => ⟨.uint 16 (by decide), ⟨cut.toNat, cut.toNat_lt⟩⟩

/-- What a purchase says: the seller, the ledger, the token, how many at which price, and the token
paid with, unless it is the chain's own. -/
def buyValues (seller ledger : { n : Nat // n < 2 ^ 160 })
    (tokenId quantity price : { n : Nat // n < 2 ^ 256 })
    (payToken : Option { n : Nat // n < 2 ^ 160 }) : List Abi.Datum :=
  [⟨.address, seller⟩, ⟨.address, ledger⟩, ⟨.uint 256 (by decide), tokenId⟩,
    ⟨.uint 256 (by decide), quantity⟩, ⟨.uint 256 (by decide), price⟩] ++
  payToken.toList.map fun token => ⟨.address, token⟩

/-! ## 4. Words -/

@[simp] theorem abiWordUsize_length (n : Nat) : (abiWordUsize n).length = 32 := by
  rw [abiWordUsize, List.length_append, List.length_replicate, beBytes_length]

theorem abiWordUsize_eq {n : Nat} (h : n < 2 ^ 64) : abiWordUsize n = Abi.word n :=
  replicate_append_beBytes (by exact h) 24

theorem abiWordU128_eq {n : Nat} (h : n < 2 ^ 128) : abiWordU128 n = Abi.word n :=
  replicate_append_beBytes (by exact h) 16

theorem abiEncodeBytes_eq {bs : List UInt8} (h : bs.length < 2 ^ 64) :
    abiEncodeBytes bs = Abi.blob bs := by
  rw [abiEncodeBytes, abiWordUsize_eq h, List.append_assoc]
  rfl

theorem abiEncodeString_eq (bs : List UInt8) : abiEncodeString bs = abiEncodeBytes bs := rfl

variable {bytes word : List UInt8}

/-- The bytes of a number, in a word. -/
theorem replicate_append_eq_word (h : bytes.length ≤ 32) :
    List.replicate (32 - bytes.length) 0 ++ bytes = Abi.word (ofBeBytes bytes) := by
  have hlength : (List.replicate (32 - bytes.length) 0 ++ bytes).length = 32 := by
    rw [List.length_append, List.length_replicate]
    omega
  rw [Abi.word, ← ofBeBytes_replicate_append (32 - bytes.length), beBytes_ofBeBytes hlength]

theorem abiWordAddress_eq_ok {address : String} (h : abiWordAddress address = .ok word) :
    ∃ n, numberOf 160 address = some n ∧ word = Abi.word n.1 := by
  simp only [abiWordAddress, Codec.bind_eq_ok, decodeHex_eq_ok, pure_eq_ok] at h
  obtain ⟨bytes, ⟨hspells, hcount⟩, rfl⟩ := h
  have hlength : bytes.length = 20 := hcount 20 rfl
  have hlt : ofBeBytes bytes < 2 ^ 160 := ofBeBytes_lt hlength
  refine ⟨⟨_, hlt⟩, ?_, ?_⟩
  · rw [numberOf, hspells.parseHexNumber, Option.bind_eq_bind, Option.bind_some, dif_pos hlt]
  · rw [← replicate_append_eq_word (by omega), hlength]

theorem abiWordHexQuantity_eq_ok {value label : String}
    (h : abiWordHexQuantity value label = .ok word) :
    ∃ n, numberOf 256 value = some n ∧ word = Abi.word n.1 := by
  simp only [abiWordHexQuantity, Codec.bind_eq_ok, failIf_eq_ok, pure_eq_ok, exists_unit] at h
  obtain ⟨-, raw, hraw, hfits, rfl⟩ := h
  have hlt : ofBeBytes raw < 2 ^ 256 :=
    Nat.lt_of_lt_of_le (ofBeBytes_lt rfl)
      (Nat.pow_le_pow_right (by decide) (Nat.not_lt.mp hfits) : 256 ^ raw.length ≤ 256 ^ 32)
  refine ⟨⟨_, hlt⟩, ?_, replicate_append_eq_word (by omega)⟩
  rw [numberOf, parseHexNumber_of_decodeHexQuantity hraw, Option.bind_eq_bind, Option.bind_some,
    dif_pos hlt]

variable {text : String}

theorem selectorOf_of_spells (h : Spells text bytes) (hlength : bytes.length = 4) :
    selectorOf text = some ⟨bytes, hlength⟩ := by
  obtain ⟨raw, hraw, hbytes⟩ := h
  rw [selectorOf, hraw, Option.bind_eq_bind, Option.bind_some, hbytes, Option.bind_eq_bind,
    Option.bind_some, dif_pos hlength]

/-- A loop that appends a word for each text appends the words of the numbers. -/
theorem words_of_mapM {encode : String → Except Fault (List UInt8)} {bits : Nat}
    (hencode : ∀ {text : String} {word : List UInt8}, encode text = .ok word →
      ∃ n, numberOf bits text = some n ∧ word = Abi.word n.1)
    {texts : List String} {words : List (List UInt8)} (h : texts.mapM encode = .ok words) :
    ∃ numbers, texts.mapM (numberOf bits) = some numbers ∧ numbers.length = texts.length ∧
      words.flatten = numbers.flatMap fun n => Abi.word n.1 := by
  induction texts generalizing words with
  | nil =>
    cases h
    exact ⟨[], rfl, rfl, rfl⟩
  | cons text texts ih =>
    rw [List.mapM_cons] at h
    simp only [Codec.bind_eq_ok, pure_eq_ok] at h
    obtain ⟨word, hword, words, hwords, rfl⟩ := h
    obtain ⟨n, hn, rfl⟩ := hencode hword
    obtain ⟨numbers, hnumbers, hlength, hflatten⟩ := ih hwords
    refine ⟨n :: numbers, ?_, congrArg (· + 1) hlength, ?_⟩
    · rw [List.mapM_cons, hn, hnumbers]
      rfl
    · rw [List.flatten_cons, hflatten, List.flatMap_cons]

/-! ## 5. The builders write the ABI's encoding -/

theorem hexText_eq_ok :
    hexText bytes = .ok text ↔ 2 + 2 * bytes.length ≤ ISIZE_MAX ∧ text = "0x" ++ hexEncode bytes := by
  simp only [hexText, Codec.bind_eq_ok, failIf_eq_ok, Nat.not_lt, exists_unit, pure_eq_ok,
    encodeHex]
  exact and_congr_right fun _ => eq_comm

theorem usizeAdd_eq {a b : Nat} (h : a + b < 2 ^ 64) : usizeAdd a b = a + b := Nat.mod_eq_of_lt h

theorem length_abiEncodeBytes (bs : List UInt8) : bs.length < (abiEncodeBytes bs).length := by
  simp only [abiEncodeBytes, abiWordUsize, List.length_append, List.length_replicate,
    beBytes_length]
  omega

/-- The layout of a mint's arguments, the offsets written out. -/
theorem encode_mintValues (tokenUri : String) (opTypeCode : UInt16) (opRaw sellRaw : List UInt8) :
    Abi.encode (mintValues tokenUri opTypeCode opRaw sellRaw) =
      Abi.word 128 ++ Abi.word opTypeCode.toNat ++
        Abi.word (128 + (Abi.blob (utf8Bytes tokenUri)).length) ++
        Abi.word (128 + (Abi.blob (utf8Bytes tokenUri)).length + (Abi.blob opRaw).length) ++
        Abi.blob (utf8Bytes tokenUri) ++ Abi.blob opRaw ++ Abi.blob sellRaw := by
  simp only [mintValues, Abi.encode, List.map_cons, List.map_nil, Abi.part, Abi.layout, Abi.heads,
    Abi.tails, List.length_cons, List.length_nil, List.append_nil, List.append_assoc]
  rfl

/-- **The mint call is the ABI encoding of its arguments**, behind the selector. -/
theorem encodeProtectedContentCreatorMintCall_eq_ok {selector tokenUri : String}
    {opTypeCode : UInt16} {opRaw sellRaw : List UInt8}
    (h : encodeProtectedContentCreatorMintCall selector tokenUri opTypeCode opRaw sellRaw = .ok
      text) :
    ∃ sel, selectorOf selector = some sel ∧
      (Abi.encode (mintValues tokenUri opTypeCode opRaw sellRaw)).length < 2 ^ 63 ∧
      text = callText sel (mintValues tokenUri opTypeCode opRaw sellRaw) := by
  simp only [encodeProtectedContentCreatorMintCall, Codec.bind_eq_ok, decodeHex_eq_ok,
    hexText_eq_ok] at h
  obtain ⟨bytes, ⟨hspells, hcount⟩, hfits, rfl⟩ := h
  have huri := length_abiEncodeBytes (utf8Bytes tokenUri)
  have hop := length_abiEncodeBytes opRaw
  have hsell := length_abiEncodeBytes sellRaw
  simp only [abiEncodeString_eq, List.length_append, ISIZE_MAX] at hfits ⊢
  have hlength : (abiEncodeBytes (utf8Bytes tokenUri)).length + (abiEncodeBytes opRaw).length +
      (abiEncodeBytes sellRaw).length < 2 ^ 62 := by omega
  -- Memory ends long before a length or an offset would wrap.
  rw [abiEncodeBytes_eq (by omega), abiEncodeBytes_eq (by omega), abiEncodeBytes_eq (by omega)]
    at hlength ⊢
  rw [usizeAdd_eq (a := 4 * 32) (by omega), usizeAdd_eq (by omega), abiWordUsize_eq (by omega),
    abiWordUsize_eq (by omega), abiWordUsize_eq (by omega),
    abiWordU128_eq (Nat.lt_trans opTypeCode.toNat_lt (by decide))]
  refine ⟨⟨bytes, hcount 4 rfl⟩, selectorOf_of_spells hspells _, ?_, ?_⟩
  · rw [encode_mintValues]
    simp only [List.length_append, Abi.word_length]
    omega
  · refine congrArg (fun bs => "0x" ++ hexEncode bs) ?_
    rw [encode_mintValues]
    simp only [List.append_assoc]
    rfl

/-- The layout of a paid mint's arguments: the cut stands last in the head. -/
theorem encode_paidValues (contentAccessId : Bytes 16) (metadataUri : String)
    (payees : List { n : Nat // n < 2 ^ 160 }) (roleTypes : List UInt64)
    (amounts : List { n : Nat // n < 2 ^ 256 }) (resellerCut : Option UInt16) :
    Abi.encode (paidValues contentAccessId metadataUri payees roleTypes amounts resellerCut) =
      let head := 160 + 32 * resellerCut.toList.length
      let uri := Abi.blob (utf8Bytes metadataUri)
      let addr := Abi.word payees.length ++ payees.flatMap fun n => Abi.word n.1
      let roles := Abi.word roleTypes.length ++ roleTypes.flatMap fun role => Abi.word role.toNat
      let amts := Abi.word amounts.length ++ amounts.flatMap fun n => Abi.word n.1
      contentAccessId.toList ++ List.replicate 16 0 ++ Abi.word head ++
        Abi.word (head + uri.length) ++ Abi.word (head + uri.length + addr.length) ++
        Abi.word (head + uri.length + addr.length + roles.length) ++
        (resellerCut.toList.flatMap fun cut => Abi.word cut.toNat) ++ uri ++ addr ++ roles ++
        amts := by
  have hid : ∃ slot : Bytes 32, Abi.part (.fixedBytes 16 (by decide)) contentAccessId =
      .inline slot ∧ slot.toList = contentAccessId.toList ++ List.replicate 16 0 := ⟨_, rfl, rfl⟩
  have huri : Abi.part .string metadataUri = .tail (Abi.blob (utf8Bytes metadataUri)) := rfl
  have haddr : Abi.part (.array .address) payees =
      .tail (Abi.word payees.length ++ payees.flatMap fun n => Abi.word n.1) :=
    Abi.part_array .address (fun n => n.1) (fun _ => rfl) payees
  have hamts : Abi.part (.array (.uint 256 (by decide))) amounts =
      .tail (Abi.word amounts.length ++ amounts.flatMap fun n => Abi.word n.1) :=
    Abi.part_array (.uint 256 _) (fun n => n.1) (fun _ => rfl) amounts
  have hroles : Abi.part (.array (.uint 64 (by decide))) (roleNumbers roleTypes) =
      .tail (Abi.word roleTypes.length ++ roleTypes.flatMap fun role => Abi.word role.toNat) := by
    have hlength : (roleNumbers roleTypes).length = roleTypes.length := List.length_map _
    have hwords : ((roleNumbers roleTypes).flatMap fun n => Abi.word n.1) =
        roleTypes.flatMap fun role => Abi.word role.toNat := List.flatMap_map _ _ _
    rw [← hlength, ← hwords]
    exact Abi.part_array (.uint 64 _) (fun n => n.1) (fun _ => rfl) (roleNumbers roleTypes)
  obtain ⟨slot, hid, hslot⟩ := hid
  cases resellerCut with
  | none =>
    simp only [paidValues, Abi.encode, Option.toList_none, List.map_nil, List.append_nil,
      List.map_cons, hid, huri, haddr, hroles, hamts, Abi.layout, Abi.heads, Abi.tails, hslot,
      List.length_cons, List.length_nil, List.append_assoc]
    rfl
  | some cut =>
    have hcut : Abi.part (.uint 16 (by decide)) ⟨cut.toNat, cut.toNat_lt⟩ =
        .inline (Abi.slotOf cut.toNat) := rfl
    simp only [paidValues, Abi.encode, Option.toList_some, List.map_nil, List.append_nil,
      List.map_cons, List.cons_append, List.nil_append, hid, huri, haddr, hroles, hamts, hcut,
      Abi.layout, Abi.heads, Abi.tails, hslot, List.length_cons, List.length_nil,
      List.append_assoc, List.flatMap_cons, List.flatMap_nil]
    rfl

theorem length_words {α : Type} (f : α → Nat) (l : List α) :
    (l.flatMap fun a => Abi.word (f a)).length = 32 * l.length := by
  induction l with
  | nil => rfl
  | cons a l ih =>
    rw [List.flatMap_cons, List.length_append, ih, Abi.word_length, List.length_cons]
    omega

theorem numHeadWords_eq (resellerCut : Option UInt16) :
    numHeadWords resellerCut * 32 = 160 + 32 * resellerCut.toList.length := by
  cases resellerCut with
  | none => rfl
  | some cut => rfl

theorem resellerCutWord_eq (resellerCut : Option UInt16) : resellerCutWord resellerCut =
    resellerCut.toList.flatMap fun cut => Abi.word cut.toNat := by
  cases resellerCut with
  | none => rfl
  | some cut =>
    have hlt : cut.toNat < 2 ^ 128 := Nat.lt_trans cut.toNat_lt (by decide)
    exact (abiWordU128_eq hlt).trans (List.append_nil _).symm

/-- **What a paid mint says is the ABI encoding of its arguments.** -/
theorem encodeProtectedContentMintOpRawPaid_eq_ok {contentAccessId : Bytes 16}
    {metadataUri : String} {addresses : List String} {roleTypes : List UInt64}
    {amounts : List String} {resellerCut : Option UInt16}
    (h : encodeProtectedContentMintOpRawPaid contentAccessId metadataUri addresses roleTypes
      amounts resellerCut = .ok bytes) :
    ∃ payees numbers, addresses.mapM (numberOf 160) = some payees ∧
      amounts.mapM (numberOf 256) = some numbers ∧ bytes.length < 2 ^ 63 ∧
      bytes = Abi.encode
        (paidValues contentAccessId metadataUri payees roleTypes numbers resellerCut) := by
  simp only [encodeProtectedContentMintOpRawPaid, allocated, abiEncodeAddressArray,
    abiEncodeUintArrayDecimal, Codec.bind_eq_ok, failIf_eq_ok, exists_unit, pure_eq_ok,
    exists_exists_and_eq_and] at h
  obtain ⟨hcounts, -, addrWords, haddr, amtWords, hamts, hfits, rfl⟩ := h
  obtain ⟨payees, hpayees, hpayeesLength, haddrFlat⟩ := words_of_mapM abiWordAddress_eq_ok haddr
  obtain ⟨numbers, hnumbers, hnumbersLength, hamtFlat⟩ :=
    words_of_mapM abiWordHexQuantity_eq_ok hamts
  have hroles : abiEncodeUintArrayU64 roleTypes =
      abiWordUsize roleTypes.length ++ roleTypes.flatMap fun role => Abi.word role.toNat := by
    rw [abiEncodeUintArrayU64]
    congr 1
    exact List.flatMap_congr fun role _ =>
      abiWordU128_eq (Nat.lt_trans role.toNat_lt (by decide))
  have huri := length_abiEncodeBytes (utf8Bytes metadataUri)
  rw [numHeadWords_eq, resellerCutWord_eq, haddrFlat, hamtFlat, hroles, ← hpayeesLength,
    ← hnumbersLength, abiEncodeString_eq] at hfits ⊢
  rw [Nat.not_lt, ISIZE_MAX] at hfits
  refine ⟨payees, numbers, hpayees, hnumbers, Nat.lt_of_le_of_lt hfits (by decide), ?_⟩
  simp only [List.length_append, length_words, abiWordUsize_length] at hfits
  have huriFits : (utf8Bytes metadataUri).length < 2 ^ 64 := by omega
  -- Memory ends long before a length or an offset would wrap.
  rw [abiEncodeBytes_eq huriFits] at hfits ⊢
  rw [encode_paidValues, abiWordBytes16]
  simp (disch := omega) only [abiWordUsize_eq, usizeAdd_eq, List.length_append, length_words,
    Abi.word_length, List.append_assoc]

/-- A token that may be left out denotes an address, if it is there. -/
theorem payTokenWord_eq_ok {payToken : Option String} (h : payTokenWord payToken = .ok word) :
    ∃ token, payToken.mapM (numberOf 160) = some token ∧
      word = token.toList.flatMap fun n => Abi.word n.1 := by
  cases payToken with
  | none =>
    cases h
    exact ⟨none, rfl, rfl⟩
  | some text =>
    obtain ⟨n, hn, rfl⟩ := abiWordAddress_eq_ok h
    refine ⟨some n, ?_, (List.append_nil _).symm⟩
    simp only [Option.mapM_some, hn]
    rfl

/-- The layout of a purchase's arguments: without arrays there are no tails. -/
theorem encode_buyValues (seller ledger : { n : Nat // n < 2 ^ 160 })
    (tokenId quantity price : { n : Nat // n < 2 ^ 256 })
    (payToken : Option { n : Nat // n < 2 ^ 160 }) :
    Abi.encode (buyValues seller ledger tokenId quantity price payToken) =
      Abi.word seller.1 ++ Abi.word ledger.1 ++ Abi.word tokenId.1 ++ Abi.word quantity.1 ++
        Abi.word price.1 ++ payToken.toList.flatMap fun n => Abi.word n.1 := by
  cases payToken with
  | none =>
    simp only [buyValues, Abi.encode, Option.toList_none, List.map_cons, List.map_nil, Abi.part,
      Abi.layout, Abi.heads, Abi.tails, List.append_nil, List.append_assoc, List.flatMap_nil]
    rfl
  | some token =>
    simp only [buyValues, Abi.encode, Option.toList_some, List.map_cons, List.map_nil,
      List.cons_append, List.nil_append, Abi.part, Abi.layout, Abi.heads, Abi.tails,
      List.append_nil, List.append_assoc, List.flatMap_cons, List.flatMap_nil]
    rfl

theorem length_encode_buyValues (seller ledger : { n : Nat // n < 2 ^ 160 })
    (tokenId quantity price : { n : Nat // n < 2 ^ 256 })
    (payToken : Option { n : Nat // n < 2 ^ 160 }) :
    (Abi.encode (buyValues seller ledger tokenId quantity price payToken)).length =
      160 + 32 * payToken.toList.length := by
  rw [encode_buyValues]
  simp only [List.length_append, Abi.word_length, length_words]

theorem length_encode_buyValues_le (seller ledger : { n : Nat // n < 2 ^ 160 })
    (tokenId quantity price : { n : Nat // n < 2 ^ 256 })
    (payToken : Option { n : Nat // n < 2 ^ 160 }) :
    (Abi.encode (buyValues seller ledger tokenId quantity price payToken)).length ≤ 192 := by
  have htoken : payToken.toList.length ≤ 1 := by
    cases payToken with
    | none => exact Nat.zero_le 1
    | some token => exact Nat.le_refl 1
  rw [length_encode_buyValues]
  omega

/-- **The call that buys access is the ABI encoding of its arguments**, behind the selector. -/
theorem encodeAuthorityGatewayBuyAccessCall_eq_ok
    {selector seller ledger tokenId quantity price : String} {payToken : Option String}
    (h : encodeAuthorityGatewayBuyAccessCall selector seller ledger tokenId quantity price
      payToken = .ok text) :
    ∃ sel sellerNumber ledgerNumber tokenNumber quantityNumber priceNumber payTokenNumber,
      selectorOf selector = some sel ∧ numberOf 160 seller = some sellerNumber ∧
      numberOf 160 ledger = some ledgerNumber ∧ numberOf 256 tokenId = some tokenNumber ∧
      numberOf 256 quantity = some quantityNumber ∧ numberOf 256 price = some priceNumber ∧
      payToken.mapM (numberOf 160) = some payTokenNumber ∧
      text = callText sel (buyValues sellerNumber ledgerNumber tokenNumber quantityNumber
        priceNumber payTokenNumber) := by
  simp only [encodeAuthorityGatewayBuyAccessCall, Codec.bind_eq_ok, decodeHex_eq_ok,
    hexText_eq_ok] at h
  obtain ⟨bytes, ⟨hspells, hcount⟩, _, hsellerWord, _, hledgerWord, _, htokenWord, _, hquantityWord,
    _, hpriceWord, _, hpayTokenWord, hfits, rfl⟩ := h
  obtain ⟨sellerNumber, hseller, rfl⟩ := abiWordAddress_eq_ok hsellerWord
  obtain ⟨ledgerNumber, hledger, rfl⟩ := abiWordAddress_eq_ok hledgerWord
  obtain ⟨tokenNumber, htokenId, rfl⟩ := abiWordHexQuantity_eq_ok htokenWord
  obtain ⟨quantityNumber, hquantity, rfl⟩ := abiWordHexQuantity_eq_ok hquantityWord
  obtain ⟨priceNumber, hprice, rfl⟩ := abiWordHexQuantity_eq_ok hpriceWord
  obtain ⟨payTokenNumber, hpayToken, rfl⟩ := payTokenWord_eq_ok hpayTokenWord
  refine ⟨⟨bytes, hcount 4 rfl⟩, _, _, _, _, _, _, selectorOf_of_spells hspells _, hseller, hledger,
    htokenId, hquantity, hprice, hpayToken, ?_⟩
  refine congrArg (fun bs => "0x" ++ hexEncode bs) ?_
  rw [encode_buyValues]
  simp only [List.append_assoc]
  rfl

/-! ## 6. Arguments with different values have different encodings -/

/-- The arguments of the mint call. -/
structure MintArgs where
  selector : String
  tokenUri : String
  opTypeCode : UInt16
  opRaw : List UInt8
  sellRaw : List UInt8
deriving DecidableEq

/-- The arguments of the operation of a paid mint. -/
structure PaidArgs where
  contentAccessId : Bytes 16
  metadataUri : String
  addresses : List String
  roleTypes : List UInt64
  amounts : List String
  resellerCut : Option UInt16
deriving DecidableEq

/-- The arguments of the call that buys access. -/
structure BuyArgs where
  selector : String
  seller : String
  ledger : String
  tokenId : String
  quantity : String
  price : String
  payToken : Option String
deriving DecidableEq

def MintArgs.call (args : MintArgs) : Except Fault String :=
  encodeProtectedContentCreatorMintCall args.selector args.tokenUri args.opTypeCode args.opRaw
    args.sellRaw

/-- The function and the values that the arguments denote. -/
def MintArgs.denoted (args : MintArgs) : Option (Bytes 4 × List Abi.Datum) := do
  let selector ← selectorOf args.selector
  some (selector, mintValues args.tokenUri args.opTypeCode args.opRaw args.sellRaw)

def PaidArgs.encoded (args : PaidArgs) : Except Fault (List UInt8) :=
  encodeProtectedContentMintOpRawPaid args.contentAccessId args.metadataUri args.addresses
    args.roleTypes args.amounts args.resellerCut

def PaidArgs.denoted (args : PaidArgs) : Option (List Abi.Datum) := do
  let payees ← args.addresses.mapM (numberOf 160)
  let amounts ← args.amounts.mapM (numberOf 256)
  some (paidValues args.contentAccessId args.metadataUri payees args.roleTypes amounts
    args.resellerCut)

def BuyArgs.call (args : BuyArgs) : Except Fault String :=
  encodeAuthorityGatewayBuyAccessCall args.selector args.seller args.ledger args.tokenId
    args.quantity args.price args.payToken

def BuyArgs.denoted (args : BuyArgs) : Option (Bytes 4 × List Abi.Datum) := do
  let selector ← selectorOf args.selector
  let seller ← numberOf 160 args.seller
  let ledger ← numberOf 160 args.ledger
  let tokenId ← numberOf 256 args.tokenId
  let quantity ← numberOf 256 args.quantity
  let price ← numberOf 256 args.price
  let payToken ← args.payToken.mapM (numberOf 160)
  some (selector, buyValues seller ledger tokenId quantity price payToken)

theorem hexEncode_injective : Function.Injective hexEncode := by
  intro bytes others h
  have hread := congrArg hexDecode h
  rwa [hexDecode_hexEncode, hexDecode_hexEncode, Option.some.injEq] at hread

theorem callText_injective {selector other : Bytes 4} {data others : List Abi.Datum}
    (h : callText selector data = callText other others) :
    selector = other ∧ Abi.encode data = Abi.encode others := by
  have hdigits : hexEncode (selector.toList ++ Abi.encode data) =
      hexEncode (other.toList ++ Abi.encode others) := by
    rw [callText, callText, ← String.toList_inj, String.toList_append, String.toList_append] at h
    exact String.toList_inj.mp (List.append_cancel_left h)
  obtain ⟨hselector, hdata⟩ := List.append_inj (hexEncode_injective hdigits)
    ((Bytes.length_toList selector).trans (Bytes.length_toList other).symm)
  exact ⟨Subtype.ext hselector, hdata⟩

theorem MintArgs.call_eq_ok {args : MintArgs} (h : args.call = .ok text) :
    ∃ selector data, args.denoted = some (selector, data) ∧ (Abi.encode data).length < 2 ^ 63 ∧
      text = callText selector data := by
  obtain ⟨selector, hselector, hlength, htext⟩ := encodeProtectedContentCreatorMintCall_eq_ok h
  refine ⟨selector, _, ?_, hlength, htext⟩
  rw [MintArgs.denoted, hselector]
  rfl

theorem PaidArgs.encoded_eq_ok {args : PaidArgs} (h : args.encoded = .ok bytes) :
    ∃ data, args.denoted = some data ∧ bytes.length < 2 ^ 63 ∧ bytes = Abi.encode data := by
  obtain ⟨payees, amounts, hpayees, hamounts, hlength, hbytes⟩ :=
    encodeProtectedContentMintOpRawPaid_eq_ok h
  refine ⟨_, ?_, hlength, hbytes⟩
  rw [PaidArgs.denoted, hpayees, Option.bind_eq_bind, Option.bind_some, hamounts]
  rfl

theorem BuyArgs.call_eq_ok {args : BuyArgs} (h : args.call = .ok text) :
    ∃ selector data, args.denoted = some (selector, data) ∧ (Abi.encode data).length < 2 ^ 63 ∧
      text = callText selector data := by
  obtain ⟨selector, seller, ledger, tokenId, quantity, price, payToken, hselector, hseller, hledger,
    htokenId, hquantity, hprice, hpayToken, htext⟩ := encodeAuthorityGatewayBuyAccessCall_eq_ok h
  refine ⟨selector, _, ?_, ?_, htext⟩
  · rw [BuyArgs.denoted, hselector, hseller, hledger, htokenId, hquantity, hprice, hpayToken]
    rfl
  · have hshort := length_encode_buyValues_le seller ledger tokenId quantity price payToken
    exact Nat.lt_of_le_of_lt hshort (by decide)

/-- An encoding that fits in memory is read back. -/
theorem decode_encode_of_lt {data : List Abi.Datum} (h : (Abi.encode data).length < 2 ^ 63) :
    Abi.decode (data.map Sigma.fst) (Abi.encode data) = some data := by
  have hlt : (Abi.encode data ++ []).length < 2 ^ 256 := by
    rw [List.append_nil]
    exact Nat.lt_trans h (by decide)
  have hread := Abi.decode_encode hlt
  rwa [List.append_nil] at hread

/-- **Mint calls that are the same text say the same.** -/
theorem MintArgs.denoted_eq {args others : MintArgs} (h : args.call = .ok text)
    (h' : others.call = .ok text) : args.denoted = others.denoted := by
  obtain ⟨selector, hselector, hlength, htext⟩ := encodeProtectedContentCreatorMintCall_eq_ok h
  obtain ⟨other, hother, -, htext'⟩ := encodeProtectedContentCreatorMintCall_eq_ok h'
  obtain ⟨rfl, hencode⟩ := callText_injective (htext.symm.trans htext')
  have htypes : (mintValues args.tokenUri args.opTypeCode args.opRaw args.sellRaw).map Sigma.fst =
      (mintValues others.tokenUri others.opTypeCode others.opRaw others.sellRaw).map Sigma.fst := rfl
  have hvalues := Abi.encode_injective (Nat.lt_trans hlength (by decide)) htypes hencode
  rw [MintArgs.denoted, MintArgs.denoted, hselector, hother, hvalues]

/-- The word of the first offset tells whether there is a cut. -/
theorem toList_length_of_encode_paidValues {contentAccessId other : Bytes 16}
    {metadataUri otherUri : String} {payees otherPayees : List { n : Nat // n < 2 ^ 160 }}
    {roleTypes otherRoles : List UInt64} {amounts otherAmounts : List { n : Nat // n < 2 ^ 256 }}
    {resellerCut otherCut : Option UInt16}
    (h : Abi.encode (paidValues contentAccessId metadataUri payees roleTypes amounts resellerCut) =
      Abi.encode (paidValues other otherUri otherPayees otherRoles otherAmounts otherCut)) :
    resellerCut.toList.length = otherCut.toList.length := by
  have hcut : ∀ cut : Option UInt16, 160 + 32 * cut.toList.length < 256 ^ 32 := by
    intro cut
    cases cut with
    | none => decide
    | some value =>
      rw [Option.toList_some, List.length_singleton]
      decide
  rw [encode_paidValues, encode_paidValues] at h
  simp only [List.append_assoc] at h
  obtain ⟨-, h⟩ := List.append_inj h
    ((Bytes.length_toList contentAccessId).trans (Bytes.length_toList other).symm)
  obtain ⟨-, h⟩ := List.append_inj h rfl
  obtain ⟨hword, -⟩ := List.append_inj h ((Abi.word_length _).trans (Abi.word_length _).symm)
  have hoffset := congrArg ofBeBytes hword
  rw [Abi.word, Abi.word, ofBeBytes_beBytes (hcut _), ofBeBytes_beBytes (hcut _)] at hoffset
  omega

/-- **Operations of paid mints that are the same bytes say the same.** -/
theorem PaidArgs.denoted_eq {args others : PaidArgs} (h : args.encoded = .ok bytes)
    (h' : others.encoded = .ok bytes) : args.denoted = others.denoted := by
  obtain ⟨payees, amounts, hpayees, hamounts, hlength, hbytes⟩ :=
    encodeProtectedContentMintOpRawPaid_eq_ok h
  obtain ⟨otherPayees, otherAmounts, hotherPayees, hotherAmounts, -, hbytes'⟩ :=
    encodeProtectedContentMintOpRawPaid_eq_ok h'
  have hencode := hbytes.symm.trans hbytes'
  have hcut := toList_length_of_encode_paidValues hencode
  have htypes : (paidValues args.contentAccessId args.metadataUri payees args.roleTypes amounts
      args.resellerCut).map Sigma.fst = (paidValues others.contentAccessId others.metadataUri
      otherPayees others.roleTypes otherAmounts others.resellerCut).map Sigma.fst := by
    cases hargs : args.resellerCut with
    | none =>
      cases hothers : others.resellerCut with
      | none => rfl
      | some cut =>
        rw [hargs, hothers] at hcut
        cases hcut
    | some cut =>
      cases hothers : others.resellerCut with
      | none =>
        rw [hargs, hothers] at hcut
        cases hcut
      | some cut => rfl
  rw [hbytes] at hlength
  have hvalues := Abi.encode_injective (Nat.lt_trans hlength (by decide)) htypes hencode
  rw [PaidArgs.denoted, PaidArgs.denoted, hpayees, hotherPayees, hamounts, hotherAmounts]
  exact congrArg some hvalues

/-- **Purchases that are the same text say the same.** -/
theorem BuyArgs.denoted_eq {args others : BuyArgs} (h : args.call = .ok text)
    (h' : others.call = .ok text) : args.denoted = others.denoted := by
  obtain ⟨selector, seller, ledger, tokenId, quantity, price, payToken, hselector, hseller, hledger,
    htokenId, hquantity, hprice, hpayToken, htext⟩ := encodeAuthorityGatewayBuyAccessCall_eq_ok h
  obtain ⟨other, seller', ledger', tokenId', quantity', price', payToken', hother, hseller',
    hledger', htokenId', hquantity', hprice', hpayToken', htext'⟩ :=
    encodeAuthorityGatewayBuyAccessCall_eq_ok h'
  obtain ⟨rfl, hencode⟩ := callText_injective (htext.symm.trans htext')
  have hlength := congrArg List.length hencode
  rw [length_encode_buyValues, length_encode_buyValues] at hlength
  have htypes : (buyValues seller ledger tokenId quantity price payToken).map Sigma.fst =
      (buyValues seller' ledger' tokenId' quantity' price' payToken').map Sigma.fst := by
    cases payToken with
    | none =>
      cases payToken' with
      | none => rfl
      | some token => cases hlength
    | some token =>
      cases payToken' with
      | none => cases hlength
      | some token => rfl
  have hshort := length_encode_buyValues_le seller ledger tokenId quantity price payToken
  have hvalues := Abi.encode_injective (Nat.lt_of_le_of_lt hshort (by decide)) htypes hencode
  rw [BuyArgs.denoted, BuyArgs.denoted, hselector, hseller, hledger, htokenId, hquantity, hprice,
    hpayToken, hother, hseller', hledger', htokenId', hquantity', hprice', hpayToken']
  exact congrArg (fun data => some (selector, data)) hvalues

end ElastosRuntime.ChainProvider
