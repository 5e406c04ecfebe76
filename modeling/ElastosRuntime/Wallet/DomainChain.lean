/-
# The chain in the domain of typed data

A document of typed data may name a chain in the member `chainId` of its domain.  It is read twice:
`parse_eip712_domain_chain_id` reads a number of 64 bits and compares it with the chain that the
signature is asked for, and `parse_json_uint256` reads the 32 bytes that are hashed, digit by digit
in the arithmetic of `mul_u256_small` and `add_u256_small`.

Both read numbers, decimal digits and hexadecimal digits, and `parseJsonUint256_of_chainId` says
that what both accept they read alike.  So the chain that is hashed is the one that was asked for
(`hashed_chain_id`).
-/
import Mathlib.Tactic.LinearCombination
import ElastosRuntime.Wallet.TransactionRlp

namespace ElastosRuntime.Wallet

open Contracts Text WalletCurve

/-! ## 1. Integers of 256 bits -/

theorem mulU256Small_cons (factor byte : UInt8) (rest : List UInt8) :
    mulU256Small factor (byte :: rest) =
      (UInt8.ofNat ((byte.toNat * factor.toNat + (mulU256Small factor rest).2) % 256) ::
        (mulU256Small factor rest).1,
      (byte.toNat * factor.toNat + (mulU256Small factor rest).2) / 256) := rfl

theorem addU256Small_cons (add : Nat) (byte : UInt8) (rest : List UInt8) :
    addU256Small add (byte :: rest) =
      (UInt8.ofNat ((byte.toNat + (addU256Small add rest).2) % 256) :: (addU256Small add rest).1,
      (byte.toNat + (addU256Small add rest).2) / 256) := rfl

theorem ofBeBytes_mulU256Small (factor : UInt8) (bytes : List UInt8) :
    256 ^ bytes.length * (mulU256Small factor bytes).2 +
      ofBeBytes (mulU256Small factor bytes).1 = factor.toNat * ofBeBytes bytes := by
  induction bytes with
  | nil => simp [mulU256Small, ofBeBytes, ofLeBytes]
  | cons byte rest ih =>
    have hlow : ∀ n, (UInt8.ofNat (n % 256)).toNat = n % 256 := by
      intro n
      rw [UInt8.toNat_ofNat']
      omega
    have hparts := Nat.div_add_mod (byte.toNat * factor.toNat + (mulU256Small factor rest).2) 256
    rw [mulU256Small_cons, ofBeBytes_cons, ofBeBytes_cons, hlow, length_mulU256Small,
      List.length_cons, Nat.pow_succ]
    generalize (byte.toNat * factor.toNat + (mulU256Small factor rest).2) / 256 = high at hparts ⊢
    generalize (byte.toNat * factor.toNat + (mulU256Small factor rest).2) % 256 = low at hparts ⊢
    linear_combination ih + 256 ^ rest.length * hparts

theorem ofBeBytes_addU256Small (add : Nat) (bytes : List UInt8) :
    256 ^ bytes.length * (addU256Small add bytes).2 +
      ofBeBytes (addU256Small add bytes).1 = ofBeBytes bytes + add := by
  induction bytes with
  | nil => simp [addU256Small, ofBeBytes, ofLeBytes]
  | cons byte rest ih =>
    have hlow : ∀ n, (UInt8.ofNat (n % 256)).toNat = n % 256 := by
      intro n
      rw [UInt8.toNat_ofNat']
      omega
    have hparts := Nat.div_add_mod (byte.toNat + (addU256Small add rest).2) 256
    rw [addU256Small_cons, ofBeBytes_cons, ofBeBytes_cons, hlow, length_addU256Small,
      List.length_cons, Nat.pow_succ]
    generalize (byte.toNat + (addU256Small add rest).2) / 256 = high at hparts ⊢
    generalize (byte.toNat + (addU256Small add rest).2) % 256 = low at hparts ⊢
    linear_combination ih + 256 ^ rest.length * hparts

/-- What does not overflow is the product. -/
theorem ofBeBytes_mulU256 {value out : Bytes 32} {factor : UInt8}
    (h : mulU256 value factor = .ok out) :
    ofBeBytes out.toList = factor.toNat * ofBeBytes value.toList := by
  simp only [mulU256, Codec.bind_eq_ok, failIf_eq_ok, exists_unit, not_not] at h
  obtain ⟨hcarry, h⟩ := h
  obtain rfl := Except.ok.inj h
  have hvalue := ofBeBytes_mulU256Small factor value.toList
  rw [hcarry, Nat.mul_zero, Nat.zero_add] at hvalue
  exact hvalue

theorem ofBeBytes_addU256 {value out : Bytes 32} {add : UInt8} (h : addU256 value add = .ok out) :
    ofBeBytes out.toList = ofBeBytes value.toList + add.toNat := by
  simp only [addU256, Codec.bind_eq_ok, failIf_eq_ok, exists_unit, not_not] at h
  obtain ⟨hcarry, h⟩ := h
  obtain rfl := Except.ok.inj h
  have hvalue := ofBeBytes_addU256Small add.toNat value.toList
  rw [hcarry, Nat.mul_zero, Nat.zero_add] at hvalue
  exact hvalue

theorem ofBeBytes_leftPad32 {bytes : List UInt8} (h : bytes.length ≤ 32) :
    ofBeBytes (leftPad32 bytes).toList = ofBeBytes bytes := by
  have hdrop : bytes.drop (bytes.length - 32) = bytes := by
    rw [Nat.sub_eq_zero_of_le h, List.drop_zero]
  have hbytes : (leftPad32 bytes).toList = List.replicate (32 - bytes.length) 0 ++ bytes := by
    rw [leftPad32]
    exact congrArg _ hdrop
  rw [hbytes, ofBeBytes_replicate_append]

/-- Digit by digit, behind any number. -/
theorem ofBeBytes_digits {chars : List Char} (hdigits : ∀ c ∈ chars, isAsciiDigit c = true) :
    ∀ {start out : Bytes 32},
    chars.foldlM (fun out digit => do
      let out ← mulU256 out 10
      addU256 out (UInt8.ofNat (digit.toNat - 0x30))) start = .ok out →
    ofBeBytes out.toList = chars.foldl (fun n c => 10 * n + (c.toNat - 0x30))
      (ofBeBytes start.toList) := by
  induction chars with
  | nil =>
    intro start out h
    rw [List.foldlM_nil, pure_eq_ok] at h
    rw [List.foldl_nil, h]
  | cons c chars ih =>
    intro start out h
    rw [List.foldlM_cons, Codec.bind_eq_ok] at h
    obtain ⟨next, hnext, hrest⟩ := h
    rw [Codec.bind_eq_ok] at hnext
    obtain ⟨product, hproduct, hsum⟩ := hnext
    have hdigit := hdigits c List.mem_cons_self
    simp only [isAsciiDigit, Bool.and_eq_true, decide_eq_true_eq] at hdigit
    have hsmall : (UInt8.ofNat (c.toNat - 0x30)).toNat = c.toNat - 0x30 := by
      rw [UInt8.toNat_ofNat']
      omega
    have hten : (10 : UInt8).toNat = 10 := rfl
    rw [ih (fun d hd => hdigits d (List.mem_cons_of_mem _ hd)) hrest, List.foldl_cons,
      ofBeBytes_addU256 hsum, ofBeBytes_mulU256 hproduct, hsmall, hten]

/-! ## 2. Two readers of one value -/

theorem mapM_decimalDigit {chars : List Char} (hdigits : ∀ c ∈ chars, isAsciiDigit c = true) :
    chars.mapM decimalDigit = some (chars.map fun c => c.toNat - 0x30) := by
  induction chars with
  | nil => rfl
  | cons c chars ih =>
    rw [List.mapM_cons, decimalDigit, if_pos (hdigits c List.mem_cons_self),
      ih fun d hd => hdigits d (List.mem_cons_of_mem _ hd)]
    rfl

variable {raw label : String}

/-- A text of digits is read as the number they denote. -/
theorem toNat_parseU64 {value : UInt64} (hdigits : ∀ c ∈ raw.toList, isAsciiDigit c = true)
    (h : parseU64 raw = some value) :
    value.toNat = raw.toList.foldl (fun n c => 10 * n + (c.toNat - 0x30)) 0 := by
  rw [parseU64] at h
  split at h
  · next rest hplus =>
    have hdigit := hdigits '+' (hplus ▸ List.mem_cons_self)
    cases hdigit
  · split at h
    · cases h
    · obtain ⟨values, hvalues, hvalue⟩ := Option.bind_eq_some_iff.mp h
      rw [mapM_decimalDigit hdigits, Option.some.injEq] at hvalues
      rw [← hvalues, List.foldl_map] at hvalue
      dsimp only at hvalue
      split at hvalue
      · next hfits =>
        rw [← Option.some.inj hvalue, UInt64.toNat_ofNat', Nat.mod_eq_of_lt hfits]
      · cases hvalue

variable {word : Bytes 32}

/-- Hexadecimal digits behind their prefix. -/
theorem parseUint256_hex (hdigits : all raw isAsciiHexdigit = true)
    (h : parseUint256 ("0x" ++ raw) label = .ok word) :
    hexDigitsValue raw.toList = some (ofBeBytes word.toList) := by
  have htrim : trim ("0x" ++ raw) = "0x" ++ raw := by
    refine trim_eq_self fun c hc => ?_
    rw [String.toList_append] at hc
    rcases List.mem_append.mp hc with hc | hc
    · exact isWhitespace_of_any_eq_false (by decide : "0x".toList.any isWhitespace = false) c hc
    · exact isWhitespace_of_isAsciiHexdigit (List.all_eq_true.mp hdigits c hc)
  have hstrip : stripPrefix ("0x" ++ raw) "0x" = some raw := stripPrefix_eq_some_iff.mpr rfl
  simp only [parseUint256, htrim, hstrip, Codec.bind_eq_ok, failIf_eq_ok, exists_unit,
    okOr_eq_ok, not_or, not_lt] at h
  obtain ⟨-, ⟨-, hshort, -⟩, bytes, hdecode, h⟩ := h
  obtain rfl := Except.ok.inj h
  obtain ⟨hvalue, hlen⟩ := hexDigitsValue_padded hdecode
  have hraw := length_toList_le raw
  rw [ofBeBytes_leftPad32 (by omega), hvalue]

/-- Decimal digits. -/
theorem parseUint256_decimal (hdigits : all raw isAsciiDigit = true)
    (h : parseUint256 raw label = .ok word) :
    ofBeBytes word.toList = raw.toList.foldl (fun n c => 10 * n + (c.toNat - 0x30)) 0 := by
  have hdigit : ∀ c ∈ raw.toList, isAsciiDigit c = true := List.all_eq_true.mp hdigits
  have htrim : trim raw = raw := by
    refine trim_eq_self fun c hc => isWhitespace_of_isAsciiHexdigit ?_
    rw [isAsciiHexdigit, isAsciiLowerHex, hdigit c hc]
    rfl
  have hstrip : stripPrefix raw "0x" = none := by
    rw [Option.eq_none_iff_forall_ne_some]
    intro rest hrest
    rw [stripPrefix_eq_some_iff.mp hrest, String.toList_append] at hdigit
    have hx := hdigit 'x' (List.mem_append_left _ (by decide))
    cases hx
  simp only [parseUint256, htrim, hstrip, Codec.bind_eq_ok, failIf_eq_ok, exists_unit] at h
  rw [ofBeBytes_digits hdigit h.2.2]
  rfl

/-- **What both readers accept they read alike.** -/
theorem parseJsonUint256_of_chainId {value : Json} {chainId : UInt64}
    (hchainId : parseEip712DomainChainId value = .ok chainId)
    (hword : parseJsonUint256 value label = .ok word) : word.toList = beBytes 32 chainId.toNat := by
  have hnumber : ofBeBytes word.toList = chainId.toNat → word.toList = beBytes 32 chainId.toNat :=
    fun h => h ▸ (beBytes_ofBeBytes word.length_toList).symm
  refine hnumber ?_
  rw [parseEip712DomainChainId] at hchainId
  rw [parseJsonUint256] at hword
  cases hu64 : value.asU64 with
  | some number =>
    have hstr : value.asStr = none := by
      cases value <;> first | rfl | cases hu64
    rw [hu64] at hchainId
    rw [hu64, hstr] at hword
    obtain rfl : number = chainId := Except.ok.inj hchainId
    obtain rfl := Except.ok.inj hword
    rw [ofBeBytes_leftPad32 (by rw [beBytes_length]; decide), ofBeBytes_beBytes number.toNat_lt]
  | none =>
    rw [hu64] at hchainId
    cases hstr : value.asStr with
    | none =>
      rw [hstr] at hchainId
      cases hchainId
    | some raw =>
      rw [hstr] at hchainId hword
      dsimp only at hchainId hword
      split at hchainId
      · next hex hprefixed =>
        simp only [Codec.bind_eq_ok, failIf_eq_ok, exists_unit, okOr_eq_ok, not_or, not_not,
          not_le] at hchainId
        obtain ⟨⟨-, hlower⟩, n, hn, hfits, hchainId⟩ := hchainId
        obtain rfl := Except.ok.inj hchainId
        have hdigits : all hex isAsciiHexdigit = true := by
          rw [all, List.all_eq_true] at hlower ⊢
          intro c hc
          rw [isAsciiHexdigit, hlower c hc]
          rfl
        rw [stripPrefix_eq_some_iff.mp hprefixed] at hword
        rw [parseUint256_hex hdigits hword, Option.some.injEq] at hn
        rw [hn, UInt64.toNat_ofNat', Nat.mod_eq_of_lt hfits]
      · simp only [Codec.bind_eq_ok, failIf_eq_ok, exists_unit, okOr_eq_ok, not_or, not_not]
          at hchainId
        obtain ⟨⟨-, hdigits⟩, hparsed⟩ := hchainId
        rw [parseUint256_decimal hdigits hword,
          toNat_parseU64 (List.all_eq_true.mp hdigits) hparsed]

/-- The member that the check looks at is the one that is hashed. -/
theorem get_chainId {typedData : Json} {members : List (String × Json)}
    (hdomain : typedData.getOrNull "domain" = .object members) :
    (typedData.get "domain" >>= fun domain => domain.get "chainId") = members.lookup "chainId" := by
  rw [Json.getOrNull] at hdomain
  cases hget : typedData.get "domain" with
  | none =>
    rw [hget] at hdomain
    cases hdomain
  | some domain =>
    rw [hget, Option.getD_some] at hdomain
    rw [hdomain]
    rfl

/-- What the check accepts is no object. -/
theorem asObject_of_chainId {value : Json} {chainId : UInt64}
    (h : parseEip712DomainChainId value = .ok chainId) : value.asObject = none := by
  cases value with
  | object members => cases h
  | _ => rfl

/-! ## 3. The hashed domain -/

section

variable [WalletCurve]

/-- A field that the chain id is declared in. -/
def IsChainIdField (field : Json) : Prop :=
  field.getStr "name" = some "chainId" ∧ field.getStr "type" = some "uint256"

/-- The domain separator of a document: what is hashed are these words behind the hash of the type,
one for each declared field. -/
structure HashedDomain (types : TypeMap) (fields : List Json) (domain : List (String × Json))
    (encodedType : String) (words : List (Bytes 32)) (separator : Bytes 32) : Prop where
  declared : eip712Fields "EIP712Domain" types = .ok fields
  typed : eip712EncodeType "EIP712Domain" types = .ok encodedType
  encoded : List.Forall₂ (fun field word => ∃ fieldName fieldType,
    field.getStr "name" = some fieldName ∧ field.getStr "type" = some fieldType ∧
      eip712EncodeValue types fieldType ((domain.lookup fieldName).getD .null) = .ok word)
    fields words
  hashed : separator = keccak256 ((keccak256 (utf8Bytes encodedType)).toList ++
    words.flatMap fun word => word.toList)

variable {types : TypeMap}

theorem hashedDomain_of_eip712HashStruct {domain : Json} {separator : Bytes 32}
    (h : eip712HashStruct types "EIP712Domain" domain = .ok separator) :
    ∃ members fields encodedType words, domain = .object members ∧
      HashedDomain types fields members encodedType words separator := by
  rw [eip712HashStruct, Codec.bind_eq_ok] at h
  obtain ⟨fields, hfields, h⟩ := h
  cases domain with
  | object members =>
    simp only [Codec.bind_eq_ok, pure_eq_ok] at h
    obtain ⟨encodedType, htype, words, hwords, rfl⟩ := h
    refine ⟨members, fields, encodedType, words, rfl, hfields, htype, ?_, rfl⟩
    refine (Codec.mapM_eq_ok.mp hwords).imp fun field word h => ?_
    simp only [Codec.bind_eq_ok, eip712FieldName, eip712FieldType, okOr_eq_ok] at h
    obtain ⟨fieldName, hname, fieldType, htype, hword⟩ := h
    exact ⟨fieldName, fieldType, hname, htype, hword⟩
  | null => cases h
  | bool => cases h
  | number => cases h
  | string => cases h
  | array => cases h

/-- A number or a text is encoded under the name of no struct. -/
theorem encodeValue_uint256 {value : Json} {word : Bytes 32} (hvalue : value.asObject = none)
    (h : eip712EncodeValue types "uint256" value = .ok word) :
    parseJsonUint256 value "typed data uint" = .ok word := by
  have hbase : eip712BaseType "uint256" = "uint256" := by decide
  have harray : eip712IsArray "uint256" = false := by decide
  unfold eip712EncodeValue at h
  dsimp only at h
  rw [hbase, if_neg (by rw [harray]; exact Bool.false_ne_true)] at h
  split at h
  · rw [eip712HashStruct, Codec.bind_eq_ok] at h
    obtain ⟨fields, -, h⟩ := h
    cases value with
    | object members => cases hvalue
    | _ => cases h
  · exact h

/-- The digest of a document is made from its hashed domain. -/
theorem hashedDomain_of_eip712HashTypedData {typedData : Json} {fields : List Json}
    {digest : Bytes 32} (htypes : typedData.get "types" >>= Json.asObject = some types)
    (hfields : eip712Fields "EIP712Domain" types = .ok fields)
    (h : eip712HashTypedData typedData = .ok digest) :
    ∃ (members : List (String × Json)) (encodedType : String) (words : List (Bytes 32))
      (separator messageHash : Bytes 32), typedData.getOrNull "domain" = .object members ∧
      HashedDomain types fields members encodedType words separator ∧
      digest = keccak256 ([0x19, 0x01] ++ separator.toList ++ messageHash.toList) := by
  simp only [eip712HashTypedData, Codec.bind_eq_ok, okOr_eq_ok, pure_eq_ok] at h
  obtain ⟨types', htypes', -, -, separator, hseparator, messageHash, -, rfl⟩ := h
  obtain rfl : types' = types := Option.some.inj (htypes'.symm.trans htypes)
  obtain ⟨members, fields', encodedType, words, hdomain, hhashed⟩ :=
    hashedDomain_of_eip712HashStruct hseparator
  obtain rfl : fields' = fields := Except.ok.inj (hhashed.declared.symm.trans hfields)
  exact ⟨members, encodedType, words, separator, messageHash, hdomain, hhashed, rfl⟩

section

variable {types : TypeMap} {fields : List Json} {members : List (String × Json)}
  {encodedType : String} {words : List (Bytes 32)} {separator : Bytes 32} {field : Json}

/-- The word of the chain id is the encoded member, or `null`. -/
theorem HashedDomain.getElem?_chainId
    (h : HashedDomain types fields members encodedType words separator) {i : Nat}
    (hfield : fields[i]? = some field) (hchain : IsChainIdField field) :
    ∃ word, words[i]? = some word ∧
      eip712EncodeValue types "uint256" ((members.lookup "chainId").getD .null) = .ok word := by
  have hlen := h.encoded.length_eq
  have hi : i < words.length := by
    rw [← hlen]
    exact (List.getElem?_eq_some_iff.mp hfield).1
  obtain ⟨fieldName, fieldType, hname, htype, hword⟩ :=
    h.encoded.get (hlen ▸ hi) hi
  obtain ⟨hi', hget⟩ := List.getElem?_eq_some_iff.mp hfield
  rw [List.get_eq_getElem, hget] at hname htype
  obtain rfl := Option.some.inj (hname.symm.trans hchain.1)
  obtain rfl := Option.some.inj (htype.symm.trans hchain.2)
  exact ⟨words[i], List.getElem?_eq_getElem hi, hword⟩

/-- There is a value for the chain id: `null` is no number. -/
theorem HashedDomain.exists_chainId
    (h : HashedDomain types fields members encodedType words separator)
    (hdeclares : ∃ field ∈ fields, IsChainIdField field) :
    ∃ value, members.lookup "chainId" = some value := by
  obtain ⟨field, hfield, hchain⟩ := hdeclares
  obtain ⟨i, hi⟩ := List.mem_iff_getElem?.mp hfield
  obtain ⟨word, -, hword⟩ := h.getElem?_chainId hi hchain
  cases hlookup : members.lookup "chainId" with
  | some value => exact ⟨value, rfl⟩
  | none =>
    rw [hlookup, Option.getD_none] at hword
    cases encodeValue_uint256 rfl hword

end

/-- **The chain that is hashed is the one that was asked for.**  Where the domain declares
`chainId`, a document that passes the check and is hashed has the chain of the request, in 32 bytes,
as every word for that field, and a document without a value for it is not hashed. -/
theorem hashed_chain_id {typedData : Json} {types : TypeMap} {fields : List Json}
    (htypes : typedData.get "types" >>= Json.asObject = some types)
    (hfields : eip712Fields "EIP712Domain" types = .ok fields)
    (hdeclares : ∃ field ∈ fields, IsChainIdField field) :
    (∀ chainNamespace digest, validateEip712DomainChainId typedData chainNamespace = .ok () →
      eip712HashTypedData typedData = .ok digest →
      ∃ (chainId : UInt64) (members : List (String × Json)) (encodedType : String)
        (words : List (Bytes 32)) (separator messageHash : Bytes 32),
        eip155ChainId chainNamespace = .ok chainId ∧
        typedData.getOrNull "domain" = .object members ∧
        HashedDomain types fields members encodedType words separator ∧
        digest = keccak256 ([0x19, 0x01] ++ separator.toList ++ messageHash.toList) ∧
        ∀ (i : Nat) (field : Json), fields[i]? = some field → IsChainIdField field →
          (words[i]?).map (fun word : Bytes 32 => word.toList) = some (beBytes 32 chainId.toNat)) ∧
    (typedData.get "domain" >>= (fun domain => domain.get "chainId") = none →
      ∀ digest, eip712HashTypedData typedData ≠ .ok digest) := by
  constructor
  · intro chainNamespace digest hvalid hhash
    obtain ⟨members, encodedType, words, separator, messageHash, hdomain, hhashed, hdigest⟩ :=
      hashedDomain_of_eip712HashTypedData htypes hfields hhash
    obtain ⟨value, hvalue⟩ := hhashed.exists_chainId hdeclares
    simp only [validateEip712DomainChainId, Codec.bind_eq_ok] at hvalid
    obtain ⟨chainId, hchainId, hvalid⟩ := hvalid
    rw [get_chainId hdomain, hvalue] at hvalid
    simp only [Codec.bind_eq_ok, failIf_eq_ok, not_not] at hvalid
    obtain ⟨named, hnamed, rfl⟩ := hvalid
    refine ⟨named, members, encodedType, words, separator, messageHash, hchainId, hdomain,
      hhashed, hdigest, fun i field hfield hchain => ?_⟩
    obtain ⟨word, hword, hencoded⟩ := hhashed.getElem?_chainId hfield hchain
    rw [hvalue, Option.getD_some] at hencoded
    have hparsed := encodeValue_uint256 (asObject_of_chainId hnamed) hencoded
    rw [hword, Option.map_some, parseJsonUint256_of_chainId hnamed hparsed]
  · intro hmissing digest hhash
    obtain ⟨members, encodedType, words, separator, messageHash, hdomain, hhashed, -⟩ :=
      hashedDomain_of_eip712HashTypedData htypes hfields hhash
    obtain ⟨value, hvalue⟩ := hhashed.exists_chainId hdeclares
    rw [get_chainId hdomain, hvalue] at hmissing
    cases hmissing

end

/-! ## 4. A document for the fifth chain -/

def sampleTypes : TypeMap :=
  [("EIP712Domain", .array [.object [("name", .string "chainId"), ("type", .string "uint256")]]),
    ("Empty", .array [])]

def sampleTypedData : Json :=
  .object [("domain", .object [("chainId", .string "0x05")]), ("message", .object []),
    ("primaryType", .string "Empty"), ("types", .object sampleTypes)]

section

attribute [local instance] constantWallet

theorem sampleTypedData_hashed : eip712HashTypedData sampleTypedData = .ok (Bytes.zero 32) := by
  have hword : eip712EncodeValue sampleTypes "uint256" (.string "0x05") =
      .ok (leftPad32 [5]) := by
    unfold eip712EncodeValue
    decide +kernel
  have hdomain : eip712HashStruct sampleTypes "EIP712Domain"
      (.object [("chainId", .string "0x05")]) = .ok (Bytes.zero 32) := by
    rw [eip712HashStruct]
    refine Codec.bind_eq_ok.mpr ⟨_, rfl, Codec.bind_eq_ok.mpr ⟨"EIP712Domain(uint256 chainId)",
      by decide +kernel, Codec.bind_eq_ok.mpr ⟨[leftPad32 [5]], ?_, rfl⟩⟩⟩
    exact Codec.mapM_eq_ok.mpr (.cons hword .nil)
  have hmessage : eip712HashStruct sampleTypes "Empty" (.object []) = .ok (Bytes.zero 32) := by
    rw [eip712HashStruct]
    exact Codec.bind_eq_ok.mpr ⟨_, rfl, Codec.bind_eq_ok.mpr ⟨"Empty()", by decide +kernel,
      Codec.bind_eq_ok.mpr ⟨[], rfl, rfl⟩⟩⟩
  exact Codec.bind_eq_ok.mpr ⟨sampleTypes, rfl, Codec.bind_eq_ok.mpr ⟨"Empty", rfl,
    Codec.bind_eq_ok.mpr ⟨_, hdomain, Codec.bind_eq_ok.mpr ⟨_, hmessage, rfl⟩⟩⟩⟩

theorem hashed_chain_id_sample :
    ∃ (chainId : UInt64) (words : List (Bytes 32)), eip155ChainId "eip155:5" = .ok chainId ∧
      (words[0]?).map (fun word : Bytes 32 => word.toList) = some (beBytes 32 chainId.toNat) := by
  have hdeclares : ∃ field ∈ [Json.object [("name", .string "chainId"),
      ("type", .string "uint256")]], IsChainIdField field :=
    ⟨_, List.mem_singleton.mpr rfl, rfl, rfl⟩
  obtain ⟨chainId, -, -, words, -, -, hchainId, -, -, -, hwords⟩ :=
    (@hashed_chain_id _ sampleTypedData sampleTypes _ rfl rfl hdeclares).1 "eip155:5"
      (Bytes.zero 32) (by decide +kernel) sampleTypedData_hashed
  exact ⟨chainId, words, hchainId, hwords 0 _ rfl ⟨rfl, rfl⟩⟩

end

end ElastosRuntime.Wallet
