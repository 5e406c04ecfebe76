/-
# EIP-712 typed data

`crypto/evm/typed_data.rs` and `payload.rs`: the digest a wallet signs for a document of typed data,
and the readers of hexadecimal members that it shares with transactions.

The encoder of a struct and that of a value call each other.  A struct's fields are members of the
value it encodes, and a member that is missing is `null`, which is no struct, so the size of the
value bounds the recursion.
-/
import ElastosRuntime.Lib.Rlp
import ElastosRuntime.Wallet.Signatures

namespace ElastosRuntime.Wallet

open Contracts Text WalletCurve

/-! ## 1. Members in hexadecimal -/

def hexPrefixedBytes (value : String) (expectedBytes : Option Nat) (field : String) :
    Except String (List UInt8) := do
  let raw ← okOr (stripPrefix value "0x") s!"{field} must start with 0x"
  failIf (byteLength raw % 2 ≠ 0 ∨ ¬all raw isAsciiHexdigit) s!"{field} must be even-length hex"
  expectedBytes.forM fun expected =>
    failIf (byteLength raw ≠ expected * 2) (field ++ " must be " ++ toString expected ++ " bytes")
  okOr (hexDecode raw) "invalid hex"

def hexQuantityBytes (value field : String) : Except String (List UInt8) := do
  let raw ← okOr (stripPrefix value "0x") s!"{field} must start with 0x"
  failIf (raw = "" ∨ ¬all raw isAsciiHexdigit) s!"{field} must be a hex quantity"
  if raw = "0" then pure []
  else
    failIf (1 < byteLength raw ∧ startsWith raw "0") s!"{field} must be a canonical hex quantity"
    let padded := if byteLength raw % 2 = 0 then raw else "0" ++ raw
    let bytes ← okOr (hexDecode padded) "invalid hex"
    pure (Rlp.trimmed bytes)

def payloadStr (payload : Json) (field : String) : Except String String :=
  okOr (payload.getStr field) s!"transaction intent missing {field}"

def payloadU64 (payload : Json) (field : String) : Except String UInt64 :=
  okOr (payload.getU64 field) s!"transaction intent missing numeric {field}"

def payloadEvmAddressBytes (payload : Json) (field : String) : Except String (List UInt8) := do
  let value ← payloadStr payload field
  validateEvmAddress value
  hexPrefixedBytes value (some 20) field

def payloadHexBytes (payload : Json) (field : String) : Except String (List UInt8) := do
  let value ← payloadStr payload field
  hexPrefixedBytes value none field

def payloadQuantityBytes (payload : Json) (field : String) : Except String (List UInt8) := do
  let value ← payloadStr payload field
  hexQuantityBytes value field

/-- The last 32 bytes, behind zeros where there are fewer. -/
def leftPad32 (bytes : List UInt8) : Bytes 32 :=
  ⟨List.replicate (32 - bytes.length) 0 ++ bytes.drop (bytes.length - 32), by
    rw [List.length_append, List.length_replicate, List.length_drop]
    omega⟩

/-! ## 2. Types -/

abbrev TypeMap := List (String × Json)

def eip712Fields (typeName : String) (types : TypeMap) : Except String (List Json) :=
  okOr (types.lookup typeName >>= Json.asArray) s!"typed data type {typeName} is not declared"

def eip712FieldName (field : Json) : Except String String :=
  okOr (field.getStr "name") "typed data field missing name"

def eip712FieldType (field : Json) : Except String String :=
  okOr (field.getStr "type") "typed data field missing type"

/-- What stands before the first bracket. -/
def eip712BaseType (fieldType : String) : String :=
  String.ofList (fieldType.toList.takeWhile (· != '['))

def eip712IsArray (fieldType : String) : Bool :=
  contains fieldType "[" && endsWith fieldType "]"

def declares (types : TypeMap) (typeName : String) : Bool := (types.lookup typeName).isSome

/-- `collect_eip712_deps`: every round of the recursion adds a name of the map that was missing, so
as many rounds as the map has names are enough. -/
def collectEip712Deps (types : TypeMap) : Nat → String → List String → Except String (List String)
  | 0, _, deps => pure deps
  | fuel + 1, typeName, deps => do
    let fields ← eip712Fields typeName types
    fields.foldlM (fun deps field => do
      let fieldType ← eip712FieldType field
      let base := eip712BaseType fieldType
      if base ≠ typeName ∧ declares types base ∧ base ∉ deps then
        collectEip712Deps types fuel base (deps ++ [base])
      else pure deps) deps

def eip712TypeDeclaration (typeName : String) (types : TypeMap) : Except String String := do
  let fields ← eip712Fields typeName types
  let encodedFields ← fields.mapM fun field => do
    let fieldType ← eip712FieldType field
    let fieldName ← eip712FieldName field
    pure (fieldType ++ " " ++ fieldName)
  pure (typeName ++ "(" ++ String.intercalate "," encodedFields ++ ")")

/-- `Vec<String>::sort`, by the bytes of the names. -/
def sortNames (names : List String) : List String :=
  names.insertionSort fun a b => utf8Bytes a ≤ utf8Bytes b

def eip712EncodeType (primaryType : String) (types : TypeMap) : Except String String := do
  let deps ← collectEip712Deps types (types.length + 1) primaryType []
  let deps := (sortNames (deps.filter (· ≠ primaryType))).dedup
  let declarations ← (primaryType :: deps).mapM fun typeName => eip712TypeDeclaration typeName types
  pure (String.join declarations)

/-! ## 3. Integers of 256 bits -/

/-- The loop over the bytes from the last, which carries what does not fit. -/
def mulU256Small (factor : UInt8) : List UInt8 → List UInt8 × Nat
  | [] => ([], 0)
  | byte :: rest =>
    let (low, carry) := mulU256Small factor rest
    let next := byte.toNat * factor.toNat + carry
    (UInt8.ofNat (next % 256) :: low, next / 256)

def addU256Small (add : Nat) : List UInt8 → List UInt8 × Nat
  | [] => ([], add)
  | byte :: rest =>
    let (low, carry) := addU256Small add rest
    let next := byte.toNat + carry
    (UInt8.ofNat (next % 256) :: low, next / 256)

theorem length_mulU256Small (factor : UInt8) (bytes : List UInt8) :
    (mulU256Small factor bytes).1.length = bytes.length := by
  induction bytes with
  | nil => rfl
  | cons byte rest ih => exact congrArg (· + 1) ih

theorem length_addU256Small (add : Nat) (bytes : List UInt8) :
    (addU256Small add bytes).1.length = bytes.length := by
  induction bytes with
  | nil => rfl
  | cons byte rest ih => exact congrArg (· + 1) ih

def mulU256 (value : Bytes 32) (factor : UInt8) : Except String (Bytes 32) := do
  let result := mulU256Small factor value.toList
  failIf (result.2 ≠ 0) "uint256 value overflow"
  pure ⟨result.1, (length_mulU256Small factor value.toList).trans value.2⟩

def addU256 (value : Bytes 32) (add : UInt8) : Except String (Bytes 32) := do
  let result := addU256Small add.toNat value.toList
  failIf (result.2 ≠ 0) "uint256 value overflow"
  pure ⟨result.1, (length_addU256Small add.toNat value.toList).trans value.2⟩

def twosComplement256 (value : Bytes 32) : Except String (Bytes 32) :=
  addU256 (value.map fun byte => ~~~byte) 1

def parseUint256 (value label : String) : Except String (Bytes 32) := do
  let value := trim value
  failIf (value = "") s!"{label} value is empty"
  match stripPrefix value "0x" with
  | some raw => do
    failIf (raw = "" ∨ 64 < byteLength raw ∨ ¬all raw isAsciiHexdigit)
      s!"{label} hex value is invalid"
    let padded := if byteLength raw % 2 = 0 then raw else "0" ++ raw
    let bytes ← okOr (hexDecode padded) "invalid hex"
    pure (leftPad32 bytes)
  | none => do
    failIf (¬all value isAsciiDigit) s!"{label} decimal value is invalid"
    value.toList.foldlM (fun out digit => do
      let out ← mulU256 out 10
      addU256 out (UInt8.ofNat (digit.toNat - 0x30))) (Bytes.zero 32)

def parseJsonUint256 (value : Json) (label : String) : Except String (Bytes 32) :=
  match value.asStr, value.asU64 with
  | some raw, _ => parseUint256 raw label
  | none, some raw => .ok (leftPad32 (beBytes 8 raw.toNat))
  | none, none => .error s!"{label} value must be a string or unsigned integer"

/-- `Value::as_i64` -/
def asI64 : Json → Option Int
  | .number (.posInt value) => if value.toNat < 2 ^ 63 then some value.toNat else none
  | .number (.negInt value) => some value.toInt
  | _ => none

def parseJsonInt256 (value : Json) (label : String) : Except String (Bytes 32) :=
  match asI64 value, value.asStr with
  | some raw, _ =>
    if raw < 0 then do
      let positive ← parseUint256 (toString raw.natAbs) "typed data int"
      twosComplement256 positive
    else .ok (leftPad32 (beBytes 8 raw.toNat))
  | none, some raw =>
    match stripPrefix raw "-" with
    | some abs => do
      let positive ← parseUint256 abs label
      twosComplement256 positive
    | none => parseUint256 raw label
  | none, none => .error s!"{label} value must be a string or integer"

/-! ## 4. The digest -/

theorem sizeOf_lookup_lt {name : String} {value : Json} :
    ∀ {members : List (String × Json)}, members.lookup name = some value →
      sizeOf value < sizeOf members
  | [], h => absurd h (Option.some_ne_none value ∘ Eq.symm)
  | (key, first) :: rest, h => by
    rw [List.lookup_cons] at h
    split at h
    · cases h
      simp only [List.cons.sizeOf_spec, Prod.mk.sizeOf_spec]
      omega
    · have hrest := sizeOf_lookup_lt h
      simp only [List.cons.sizeOf_spec, Prod.mk.sizeOf_spec]
      omega

/-- The member a field is encoded from is smaller than the object it is a member of. -/
theorem sizeOf_member_lt (name : String) (members : List (String × Json)) :
    sizeOf ((members.lookup name).getD .null) < 1 + sizeOf members := by
  cases hlookup : members.lookup name with
  | none =>
    rw [Option.getD_none, Json.null.sizeOf_spec]
    cases members with
    | nil => exact Nat.lt_succ_self 1
    | cons first rest =>
      rw [List.cons.sizeOf_spec]
      omega
  | some value =>
    have hlt := sizeOf_lookup_lt hlookup
    rw [Option.getD_some]
    omega

section

variable [WalletCurve]

/-- `base_type[5..].parse::<usize>()` of a type `bytesN`. -/
def fixedBytesSize (baseType : String) : Except String Nat := do
  let size ← okOr (parseU64 (String.ofList (baseType.toList.drop 5)))
    "typed data fixed bytes size is invalid"
  failIf (¬(1 ≤ size.toNat ∧ size.toNat ≤ 32)) "typed data fixed bytes size is invalid"
  pure size.toNat

/-- A value of a type that is neither an array nor a struct. -/
def eip712EncodeAtom (fieldType baseType : String) (value : Json) : Except String (Bytes 32) := do
  if baseType = "string" then
    let text ← okOr value.asStr "typed data string value must be a string"
    pure (keccak256 (utf8Bytes text))
  else if baseType = "bytes" then
    let text ← okOr value.asStr "typed data bytes value must be hex"
    let bytes ← hexPrefixedBytes text none "typed data bytes"
    pure (keccak256 bytes)
  else if baseType = "bool" then
    let flag ← okOr value.asBool "typed data bool value must be boolean"
    pure (leftPad32 [if flag then 1 else 0])
  else if baseType = "address" then
    let address ← okOr value.asStr "typed data address value must be a string"
    validateEvmAddress address
    let bytes ← hexPrefixedBytes address (some 20) "typed data address"
    pure (leftPad32 bytes)
  else if startsWith baseType "uint" then parseJsonUint256 value "typed data uint"
  else if startsWith baseType "int" then parseJsonInt256 value "typed data int"
  else if startsWith baseType "bytes" then
    let size ← fixedBytesSize baseType
    let text ← okOr value.asStr "typed data fixed bytes value must be hex"
    let bytes ← hexPrefixedBytes text (some size) "typed data fixed bytes"
    pure ⟨(bytes ++ List.replicate 32 0).take 32, length_take_padded bytes⟩
  else throw s!"unsupported EIP-712 field type {fieldType}"

mutual

def eip712HashStruct (types : TypeMap) (typeName : String) (value : Json) :
    Except String (Bytes 32) := do
  let fields ← eip712Fields typeName types
  match value with
  | .object members => do
    let encodedType ← eip712EncodeType typeName types
    let encoded ← fields.mapM fun field => do
      let fieldName ← eip712FieldName field
      let fieldType ← eip712FieldType field
      have _hmember := sizeOf_member_lt fieldName members
      eip712EncodeValue types fieldType ((members.lookup fieldName).getD .null)
    pure (keccak256 ((keccak256 (utf8Bytes encodedType)).toList ++
      encoded.flatMap fun word => word.toList))
  | _ => throw s!"typed data {typeName} value must be an object"
termination_by (sizeOf value, 0)

def eip712EncodeValue (types : TypeMap) (fieldType : String) (value : Json) :
    Except String (Bytes 32) := do
  let baseType := eip712BaseType fieldType
  if eip712IsArray fieldType then
    match value with
    | .array elements => do
      let encoded ← elements.attach.mapM fun item => do
        have _hitem := List.sizeOf_lt_of_mem item.2
        eip712EncodeValue types baseType item.1
      pure (keccak256 (encoded.flatMap fun word => word.toList))
    | _ => throw s!"typed data {fieldType} value must be an array"
  else if declares types baseType then eip712HashStruct types baseType value
  else eip712EncodeAtom fieldType baseType value
termination_by (sizeOf value, 1)

end

def validateEip712TypedDataShape (typedData : Json) : Except String Unit := do
  let types ← okOr (typedData.get "types" >>= Json.asObject) "typed data missing types"
  let primaryType ← okOr (typedData.getStr "primaryType") "typed data missing primaryType"
  failIf (declares types primaryType = false) "typed data primaryType is not declared"
  failIf (typedData.get "domain" >>= Json.asObject).isNone "typed data missing domain"
  failIf (typedData.get "message" >>= Json.asObject).isNone "typed data missing message"

def eip712HashTypedData (typedData : Json) : Except String (Bytes 32) := do
  let types ← okOr (typedData.get "types" >>= Json.asObject) "typed data missing types"
  let primaryType ← okOr (typedData.getStr "primaryType") "typed data missing primaryType"
  let domainHash ← eip712HashStruct types "EIP712Domain" (typedData.getOrNull "domain")
  let messageHash ← eip712HashStruct types primaryType (typedData.getOrNull "message")
  pure (keccak256 ([0x19, 0x01] ++ domainHash.toList ++ messageHash.toList))

variable [SerdeJson]

def typedDataFromPayload (payload : Json) : Except String Json :=
  match payload.getStr "typed_data_canonical" with
  | some canonical => (SerdeJson.fromStr canonical).mapError fun _ => "invalid typed data"
  | none => okOr (payload.get "typed_data") "Browser typed-data payload missing typed_data"

def eip712PayloadHash (payload : Json) : Except String (Bytes 32) := do
  let typedData ← typedDataFromPayload payload
  validateEip712TypedDataShape typedData
  eip712HashTypedData typedData

end

end ElastosRuntime.Wallet
