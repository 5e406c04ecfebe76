/-
# Texts as a program checks them

The operations on strings that checks of identifiers, addresses and quantities are made of, as
Rust's `str` has them: characters are Unicode scalar values, lengths count bytes of UTF-8, and a
prefix is a prefix of characters.
-/
import Mathlib.Tactic.Ring
import ElastosRuntime.Lib.Bytes

namespace Text

/-! ## 1. Characters -/

/-- `char::is_whitespace`: Unicode `White_Space`. -/
def isWhitespace (c : Char) : Bool :=
  (0x09 ≤ c.toNat && c.toNat ≤ 0x0d) || c.toNat == 0x20 || c.toNat == 0x85 || c.toNat == 0xa0 ||
    c.toNat == 0x1680 || (0x2000 ≤ c.toNat && c.toNat ≤ 0x200a) || c.toNat == 0x2028 ||
    c.toNat == 0x2029 || c.toNat == 0x202f || c.toNat == 0x205f || c.toNat == 0x3000

/-- `char::is_control`: the category `Cc`. -/
def isControl (c : Char) : Bool := c.toNat < 0x20 || (0x7f ≤ c.toNat && c.toNat ≤ 0x9f)

/-- `char::is_ascii_whitespace` -/
def isAsciiWhitespace (c : Char) : Bool :=
  c.toNat == 0x20 || c.toNat == 0x09 || c.toNat == 0x0a || c.toNat == 0x0c || c.toNat == 0x0d

/-- `char::is_ascii_control` -/
def isAsciiControl (c : Char) : Bool := c.toNat < 0x20 || c.toNat == 0x7f

def isAsciiDigit (c : Char) : Bool := 0x30 ≤ c.toNat && c.toNat ≤ 0x39

def isAsciiLowerHex (c : Char) : Bool :=
  isAsciiDigit c || (0x61 ≤ c.toNat && c.toNat ≤ 0x66)

def isAsciiHexdigit (c : Char) : Bool :=
  isAsciiLowerHex c || (0x41 ≤ c.toNat && c.toNat ≤ 0x46)

def isAsciiAlphanumeric (c : Char) : Bool :=
  isAsciiDigit c || (0x41 ≤ c.toNat && c.toNat ≤ 0x5a) || (0x61 ≤ c.toNat && c.toNat ≤ 0x7a)

def toAsciiLowercase (c : Char) : Char :=
  if 0x41 ≤ c.toNat ∧ c.toNat ≤ 0x5a then Char.ofNat (c.toNat + 0x20) else c

/-! ## 2. Strings -/

def byteLength (s : String) : Nat := (utf8Bytes s).length

def any (s : String) (p : Char → Bool) : Bool := s.toList.any p

def all (s : String) (p : Char → Bool) : Bool := s.toList.all p

def trim (s : String) : String :=
  String.ofList ((s.toList.dropWhile isWhitespace).reverse.dropWhile isWhitespace).reverse

def startsWith (s pre : String) : Bool := pre.toList.isPrefixOf s.toList

def endsWith (s suffix : String) : Bool := suffix.toList.isSuffixOf s.toList

def stripPrefix (s pre : String) : Option String :=
  if startsWith s pre then some (String.ofList (s.toList.drop pre.toList.length)) else none

def contains (s part : String) : Bool :=
  s.toList.tails.any fun rest => part.toList.isPrefixOf rest

def lowercase (s : String) : String := String.ofList (s.toList.map toAsciiLowercase)

/-- `str::eq_ignore_ascii_case` -/
def eqIgnoreAsciiCase (s t : String) : Bool := lowercase s == lowercase t

/-- The characters between two line feeds, and what stands behind the last. -/
def splitLines : List Char → List (List Char)
  | [] => [[]]
  | c :: rest =>
    if c = '\n' then [] :: splitLines rest
    else
      match splitLines rest with
      | line :: lines => (c :: line) :: lines
      | [] => [[c]]

/-- `str::lines`: a carriage return before the line feed is part of the ending, and nothing behind
the last line feed is no line. -/
def lines (s : String) : List String :=
  let parts := splitLines s.toList
  let ended := parts.dropLast.map fun line =>
    if line.getLast? = some '\r' then line.dropLast else line
  let last := (parts.getLast?.getD [])
  (ended ++ (if last = [] then [] else [last])).map String.ofList

/-! ## 3. Numbers -/

def decimalDigit (c : Char) : Option Nat :=
  if isAsciiDigit c then some (c.toNat - 0x30) else none

/-- `str::parse::<u64>`: digits behind at most one plus sign, without an overflow. -/
def parseU64 (s : String) : Option UInt64 := do
  let digits := match s.toList with
    | '+' :: rest => rest
    | chars => chars
  if digits = [] then none
  else
    let values ← digits.mapM decimalDigit
    let value := values.foldl (fun n digit => 10 * n + digit) 0
    if value < 2 ^ 64 then some (UInt64.ofNat value) else none

def hexValue (c : Char) : Option UInt8 :=
  if isAsciiDigit c then some (UInt8.ofNat (c.toNat - 0x30))
  else if 0x61 ≤ c.toNat ∧ c.toNat ≤ 0x66 then some (UInt8.ofNat (c.toNat - 0x57))
  else if 0x41 ≤ c.toNat ∧ c.toNat ≤ 0x46 then some (UInt8.ofNat (c.toNat - 0x37))
  else none

def hexPairs : List Char → Option (List UInt8)
  | [] => some []
  | [_] => none
  | high :: low :: rest => do
    let high ← hexValue high
    let low ← hexValue low
    let bytes ← hexPairs rest
    some ((high <<< 4 ||| low) :: bytes)

/-- `hex::decode` -/
def hexDecode (s : String) : Option (List UInt8) := hexPairs s.toList

def hexChar (value : UInt8) : Char :=
  Char.ofNat (if value < 10 then 0x30 + value.toNat else 0x57 + value.toNat)

/-- `hex::encode` -/
def hexEncode (bytes : List UInt8) : String :=
  String.ofList <| bytes.flatMap fun byte : UInt8 =>
    [hexChar (byte >>> 4), hexChar (byte &&& 0x0f)]

/-- `format!("0x{n:x}")` without the prefix. -/
def hexNumber (value : UInt64) : String :=
  let digits := (hexEncode (beBytes 8 value.toNat)).toList.dropWhile (· == '0')
  String.ofList (if digits = [] then ['0'] else digits)

/-- The number that hexadecimal digits denote. -/
def hexDigitsValue (digits : List Char) : Option Nat :=
  digits.foldlM (fun n digit => (hexValue digit).map fun value => 16 * n + value.toNat) 0

/-- What `0x` and hexadecimal digits denote. -/
def parseHexNumber (s : String) : Option Nat := do
  let digits ← stripPrefix s "0x"
  hexDigitsValue digits.toList

/-! ## 4. Bytes survive being written in hexadecimal -/

theorem hexValue_hexChar : ∀ value : UInt8, value < 16 → hexValue (hexChar value) = some value := by
  intro value hlt
  have hvalues : ∀ n < 16, hexValue (hexChar (UInt8.ofNat n)) = some (UInt8.ofNat n) := by decide
  have h := hvalues value.toNat (UInt8.lt_iff_toNat_lt.mp hlt)
  rwa [UInt8.ofNat_toNat] at h

theorem hexChar_parts (byte : UInt8) : byte >>> 4 < 16 ∧ byte &&& 0x0f < 16 ∧
    ((byte >>> 4) <<< 4 ||| (byte &&& 0x0f)) = byte := by
  revert byte
  have hall : ∀ n < 256, UInt8.ofNat n >>> 4 < 16 ∧ UInt8.ofNat n &&& 0x0f < 16 ∧
      ((UInt8.ofNat n >>> 4) <<< 4 ||| (UInt8.ofNat n &&& 0x0f)) = UInt8.ofNat n := by
    decide +kernel
  intro byte
  have h := hall byte.toNat byte.toNat_lt
  rwa [UInt8.ofNat_toNat] at h

theorem hexDecode_hexEncode (bytes : List UInt8) : hexDecode (hexEncode bytes) = some bytes := by
  rw [hexDecode, hexEncode, String.toList_ofList]
  induction bytes with
  | nil => rfl
  | cons byte bytes ih =>
    obtain ⟨hhigh, hlow, hbyte⟩ := hexChar_parts byte
    rw [List.flatMap_cons, List.cons_append, List.cons_append, List.nil_append, hexPairs,
      hexValue_hexChar _ hhigh, hexValue_hexChar _ hlow, ih]
    simp only [Option.bind_eq_bind, Option.bind_some, hbyte]

/-! ## 5. A number survives being written in hexadecimal -/

theorem ofBeBytes_cons (byte : UInt8) (bytes : List UInt8) :
    ofBeBytes (byte :: bytes) = byte.toNat * 256 ^ bytes.length + ofBeBytes bytes := by
  rw [ofBeBytes, List.reverse_cons, ofLeBytes_append, List.length_reverse, ofBeBytes,
    ofLeBytes, ofLeBytes]
  ring

variable {c : Char}

theorem hexValue_lt {value : UInt8} (h : hexValue c = some value) : value.toNat < 16 := by
  rw [hexValue] at h
  split at h
  · next hdigit =>
    simp only [isAsciiDigit, Bool.and_eq_true, decide_eq_true_eq] at hdigit
    rw [Option.some.injEq] at h
    rw [← h, UInt8.toNat_ofNat']
    omega
  · split at h
    · rw [Option.some.injEq] at h
      rw [← h, UInt8.toNat_ofNat']
      omega
    · split at h
      · rw [Option.some.injEq] at h
        rw [← h, UInt8.toNat_ofNat']
        omega
      · cases h

/-- A byte is the number of its two digits. -/
theorem toNat_hexByte {high low : UInt8} (hhigh : high.toNat < 16) (hlow : low.toNat < 16) :
    (high <<< 4 ||| low).toNat = 16 * high.toNat + low.toNat := by
  have hall : ∀ h < 16, ∀ l < 16,
      (UInt8.ofNat h <<< 4 ||| UInt8.ofNat l).toNat = 16 * h + l := by decide +kernel
  have hvalue := hall high.toNat hhigh low.toNat hlow
  rwa [UInt8.ofNat_toNat, UInt8.ofNat_toNat] at hvalue

/-- **Digits denote the number that their bytes do**, behind any number. -/
theorem foldlM_of_hexPairs : ∀ {chars : List Char} {bytes : List UInt8},
    hexPairs chars = some bytes → ∀ n : Nat,
    chars.foldlM (fun n digit => (hexValue digit).map fun value => 16 * n + value.toNat) n =
      some (256 ^ bytes.length * n + ofBeBytes bytes)
  | [], _, h, n => by
    rw [hexPairs, Option.some.injEq] at h
    rw [← h, List.length_nil, Nat.pow_zero, Nat.one_mul]
    rfl
  | [_], _, h, _ => by cases h
  | _ :: _ :: _, _, h, n => by
    simp only [hexPairs, Option.bind_eq_bind, Option.bind_eq_some_iff, Option.some.injEq] at h
    obtain ⟨high, hhigh, low, hlow, bytes, hbytes, rfl⟩ := h
    have ih := foldlM_of_hexPairs hbytes (256 * n + (16 * high.toNat + low.toNat))
    have hparts : 16 * (16 * n + high.toNat) + low.toNat =
        256 * n + (16 * high.toNat + low.toNat) := by omega
    rw [List.foldlM_cons, hhigh, Option.map_some, Option.bind_eq_bind, Option.bind_some,
      List.foldlM_cons, hlow, Option.map_some, Option.bind_eq_bind, Option.bind_some, hparts, ih,
      ofBeBytes_cons, toNat_hexByte (hexValue_lt hhigh) (hexValue_lt hlow), List.length_cons,
      Nat.pow_succ]
    congr 1
    ring

variable {chars : List Char} {bytes : List UInt8}

theorem hexDigitsValue_of_hexPairs (h : hexPairs chars = some bytes) :
    hexDigitsValue chars = some (ofBeBytes bytes) := by
  rw [hexDigitsValue, foldlM_of_hexPairs h, Nat.mul_zero, Nat.zero_add]

/-- Zeros in front do not count. -/
theorem hexDigitsValue_dropWhile (digits : List Char) :
    hexDigitsValue (digits.dropWhile (· == '0')) = hexDigitsValue digits := by
  induction digits with
  | nil => rfl
  | cons digit digits ih =>
    rw [List.dropWhile_cons]
    split
    · rename_i hzero
      rw [ih, beq_iff_eq.mp hzero]
      rfl
    · rfl

/-- **The number is read back.** -/
theorem parseHexNumber_hexNumber (value : UInt64) :
    parseHexNumber ("0x" ++ hexNumber value) = some value.toNat := by
  have hstrip : stripPrefix ("0x" ++ hexNumber value) "0x" = some (hexNumber value) := by
    rw [stripPrefix, startsWith, String.toList_append]
    have hpre : "0x".toList.isPrefixOf ("0x".toList ++ (hexNumber value).toList) = true :=
      List.isPrefixOf_iff_prefix.mpr (List.prefix_append _ _)
    rw [if_pos hpre, List.drop_left, String.ofList_toList]
  have hdigits : hexDigitsValue (hexEncode (beBytes 8 value.toNat)).toList =
      some value.toNat := by
    rw [hexDigitsValue_of_hexPairs (hexDecode_hexEncode _), ofBeBytes_beBytes value.toNat_lt]
  rw [parseHexNumber, hstrip, Option.bind_eq_bind, Option.bind_some, hexNumber,
    String.toList_ofList]
  split
  · rename_i hnil
    rw [← hexDigitsValue_dropWhile, hnil] at hdigits
    rw [← hdigits]
    rfl
  · rw [hexDigitsValue_dropWhile, hdigits]

/-! ## 6. Lengths -/

theorem length_le_size_utf8Encode (chars : List Char) :
    chars.length ≤ chars.utf8Encode.size := by
  induction chars with
  | nil => exact Nat.zero_le _
  | cons c rest ih =>
    have hpos := c.utf8Size_pos
    have hsplit : (c :: rest).utf8Encode = [c].utf8Encode ++ rest.utf8Encode := by
      rw [← List.utf8Encode_append, List.singleton_append]
    rw [hsplit, ByteArray.size_append, List.utf8Encode_singleton]
    simp only [List.length_cons, List.size_toByteArray, String.length_utf8EncodeChar]
    omega

/-- A character takes at least a byte. -/
theorem length_toList_le (s : String) : s.toList.length ≤ byteLength s := by
  have h := length_le_size_utf8Encode s.toList
  have hbytes : s.toList.utf8Encode = s.toByteArray := by
    rw [← String.toByteArray_ofList, String.ofList_toList]
  rw [hbytes] at h
  exact h

variable {s : String}

theorem length_of_stripPrefix {pre rest : String} (h : stripPrefix s pre = some rest) :
    rest.toList.length ≤ s.toList.length := by
  rw [stripPrefix] at h
  split at h
  · rw [Option.some.injEq] at h
    rw [← h, String.toList_ofList, List.length_drop]
    exact Nat.sub_le _ _
  · cases h

theorem length_eq_of_hexPairs : ∀ {chars : List Char} {bytes : List UInt8},
    hexPairs chars = some bytes → chars.length = 2 * bytes.length
  | [], _, h => by
    rw [hexPairs, Option.some.injEq] at h
    rw [← h]
    rfl
  | [_], _, h => by cases h
  | _ :: _ :: _, _, h => by
    simp only [hexPairs, Option.bind_eq_bind, Option.bind_eq_some_iff, Option.some.injEq] at h
    obtain ⟨_, -, _, -, tail, htail, rfl⟩ := h
    have ih := length_eq_of_hexPairs htail
    simp only [List.length_cons]
    omega

theorem length_of_hexPairs (h : hexPairs chars = some bytes) : bytes.length ≤ chars.length := by
  have hlen := length_eq_of_hexPairs h
  omega

theorem stripPrefix_eq_some_iff {pre rest : String} :
    stripPrefix s pre = some rest ↔ s = pre ++ rest := by
  constructor
  · intro h
    rw [stripPrefix] at h
    split at h
    · next hstart =>
      obtain ⟨tail, htail⟩ := List.isPrefixOf_iff_prefix.mp hstart
      rw [← htail, List.drop_left, Option.some.injEq] at h
      rw [← String.toList_inj, String.toList_append, ← h, String.toList_ofList, htail]
    · cases h
  · rintro rfl
    have hstart : startsWith (pre ++ rest) pre = true := by
      rw [startsWith, String.toList_append]
      exact List.isPrefixOf_iff_prefix.mpr (List.prefix_append _ _)
    rw [stripPrefix, if_pos hstart, String.toList_append, List.drop_left, String.ofList_toList]

/-! ## 7. Lower case and blanks -/

theorem toNat_toAsciiLowercase (c : Char) : (toAsciiLowercase c).toNat =
    if 0x41 ≤ c.toNat ∧ c.toNat ≤ 0x5a then c.toNat + 0x20 else c.toNat := by
  have hletters : ∀ n < 0x5b, (Char.ofNat (n + 0x20)).toNat = n + 0x20 := by decide
  rw [toAsciiLowercase]
  split
  · next h => exact hletters c.toNat (by omega)
  · rfl

@[simp] theorem toAsciiLowercase_idem (c : Char) :
    toAsciiLowercase (toAsciiLowercase c) = toAsciiLowercase c := by
  have hnat := toNat_toAsciiLowercase c
  have hlower : ¬(0x41 ≤ (toAsciiLowercase c).toNat ∧ (toAsciiLowercase c).toNat ≤ 0x5a) := by
    rw [hnat]
    split <;> omega
  rw [toAsciiLowercase, if_neg hlower]

theorem isAsciiHexdigit_toAsciiLowercase (h : isAsciiHexdigit c = true) :
    isAsciiHexdigit (toAsciiLowercase c) = true := by
  have hnat := toNat_toAsciiLowercase c
  simp only [isAsciiHexdigit, isAsciiLowerHex, isAsciiDigit, Bool.or_eq_true, Bool.and_eq_true,
    decide_eq_true_eq] at h ⊢
  rw [hnat]
  split <;> omega

/-- Characters without a blank among them, looked through from the first to the last. -/
theorem isWhitespace_of_any_eq_false (h : chars.any isWhitespace = false) :
    ∀ c ∈ chars, isWhitespace c = false := by
  intro c hc
  exact Bool.eq_false_iff.mpr (List.any_eq_false.mp h c hc)

theorem isWhitespace_of_isAsciiHexdigit (h : isAsciiHexdigit c = true) :
    isWhitespace c = false := by
  simp only [isAsciiHexdigit, isAsciiLowerHex, isAsciiDigit, Bool.or_eq_true, Bool.and_eq_true,
    decide_eq_true_eq] at h
  simp only [isWhitespace, Bool.or_eq_false_iff, Bool.and_eq_false_iff, decide_eq_false_iff_not,
    beq_eq_false_iff_ne]
  omega

theorem utf8Size_toAsciiLowercase (c : Char) : (toAsciiLowercase c).utf8Size = c.utf8Size := by
  have hnat := toNat_toAsciiLowercase c
  by_cases h : 0x41 ≤ c.toNat ∧ c.toNat ≤ 0x5a
  · rw [if_pos h] at hnat
    have hsmall : ∀ d : Char, d.toNat ≤ 127 → d.utf8Size = 1 :=
      fun d hd => Char.utf8Size_eq_one_iff.mpr hd
    rw [hsmall c (by omega), hsmall _ (by omega)]
  · rw [toAsciiLowercase, if_neg h]

@[simp] theorem lowercase_idem (s : String) : lowercase (lowercase s) = lowercase s := by
  rw [lowercase, lowercase, String.toList_ofList, List.map_map]
  congr 1
  exact List.map_congr_left fun c _ => toAsciiLowercase_idem c

theorem lowercase_append (s t : String) : lowercase (s ++ t) = lowercase s ++ lowercase t := by
  rw [← String.toList_inj, lowercase, String.toList_ofList, String.toList_append, List.map_append,
    String.toList_append, lowercase, lowercase, String.toList_ofList, String.toList_ofList]

theorem byteLength_lowercase (s : String) : byteLength (lowercase s) = byteLength s := by
  have hsize : ∀ chars : List Char,
      (chars.map toAsciiLowercase).utf8Encode.size = chars.utf8Encode.size := by
    intro chars
    induction chars with
    | nil => rfl
    | cons c rest ih =>
      have hsplit : ∀ (d : Char) (ds : List Char),
          (d :: ds).utf8Encode.size = d.utf8Size + ds.utf8Encode.size := by
        intro d ds
        rw [← List.singleton_append, List.utf8Encode_append, ByteArray.size_append,
          List.utf8Encode_singleton, List.size_toByteArray, String.length_utf8EncodeChar]
      rw [List.map_cons, hsplit, hsplit, ih, utf8Size_toAsciiLowercase]
  have h := hsize s.toList
  rw [← String.toByteArray_ofList, ← String.toByteArray_ofList, String.ofList_toList] at h
  exact h

theorem utf8Bytes_eq_flatMap (s : String) :
    utf8Bytes s = s.toList.flatMap String.utf8EncodeChar := by
  rw [utf8Bytes, ← String.utf8Encode_toList, List.utf8Encode, List.data_toByteArray]

theorem utf8Bytes_append (s t : String) : utf8Bytes (s ++ t) = utf8Bytes s ++ utf8Bytes t := by
  simp [utf8Bytes]

theorem byteLength_append (s t : String) : byteLength (s ++ t) = byteLength s + byteLength t := by
  rw [byteLength, utf8Bytes_append, List.length_append, byteLength, byteLength]

/-- A text of ASCII has a byte for each character. -/
theorem utf8Bytes_of_ascii (h : ∀ c ∈ s.toList, c.toNat < 0x80) :
    utf8Bytes s = s.toList.map fun c => c.toNat.toUInt8 := by
  have hchar : ∀ c : Char, c.toNat < 0x80 → String.utf8EncodeChar c = [c.toNat.toUInt8] := by
    intro c hc
    have hone : c.utf8Size = 1 := Char.utf8Size_eq_one_iff.mpr
      (UInt32.le_iff_toNat_le.mpr (Nat.le_of_lt_succ hc))
    rw [String.utf8EncodeChar_eq_singleton hone]
    rfl
  rw [utf8Bytes_eq_flatMap]
  generalize s.toList = chars at h
  induction chars with
  | nil => rfl
  | cons c rest ih =>
    rw [List.flatMap_cons, hchar c (h c List.mem_cons_self),
      ih fun d hd => h d (List.mem_cons_of_mem _ hd), List.map_cons, List.singleton_append]

theorem byteLength_of_ascii (h : ∀ c ∈ s.toList, c.toNat < 0x80) :
    byteLength s = s.toList.length := by
  rw [byteLength, utf8Bytes_of_ascii h, List.length_map]

/-- Nothing is taken off a text without blanks. -/
theorem trim_eq_self (h : ∀ c ∈ s.toList, isWhitespace c = false) : trim s = s := by
  have hnone : ∀ chars : List Char, (∀ c ∈ chars, isWhitespace c = false) →
      chars.dropWhile isWhitespace = chars := by
    intro chars hchars
    cases chars with
    | nil => rfl
    | cons c rest => exact List.dropWhile_cons_of_neg (by simp [hchars c List.mem_cons_self])
  rw [trim, hnone _ h, hnone _ fun c hc => h c (List.mem_reverse.mp hc), List.reverse_reverse,
    String.ofList_toList]

theorem isAsciiLowerHex_of_mem_hexEncode (h : c ∈ (hexEncode bytes).toList) :
    isAsciiLowerHex c = true := by
  have hdigits : ∀ n < 16, isAsciiLowerHex (hexChar (UInt8.ofNat n)) = true := by decide
  have hdigit : ∀ value : UInt8, value < 16 → isAsciiLowerHex (hexChar value) = true := by
    intro value hlt
    have h := hdigits value.toNat (UInt8.lt_iff_toNat_lt.mp hlt)
    rwa [UInt8.ofNat_toNat] at h
  rw [hexEncode, String.toList_ofList] at h
  obtain ⟨byte, -, hc⟩ := List.mem_flatMap.mp h
  obtain ⟨hhigh, hlow, -⟩ := hexChar_parts byte
  rcases List.mem_cons.mp hc with rfl | hc
  · exact hdigit _ hhigh
  · rw [List.mem_singleton.mp hc]
    exact hdigit _ hlow

theorem isAsciiHexdigit_of_mem_hexEncode (h : c ∈ (hexEncode bytes).toList) :
    isAsciiHexdigit c = true := by
  rw [isAsciiHexdigit, isAsciiLowerHex_of_mem_hexEncode h, Bool.true_or]

theorem length_toList_hexEncode (bytes : List UInt8) :
    (hexEncode bytes).toList.length = 2 * bytes.length := by
  rw [hexEncode, String.toList_ofList]
  induction bytes with
  | nil => rfl
  | cons byte bytes ih =>
    rw [List.flatMap_cons, List.length_append, ih, List.length_cons]
    simp only [List.length_cons, List.length_nil]
    omega

/-! ## 8. Digits -/

theorem exists_hexValue (h : isAsciiHexdigit c = true) : ∃ value, hexValue c = some value := by
  simp only [isAsciiHexdigit, isAsciiLowerHex, Bool.or_eq_true, Bool.and_eq_true,
    decide_eq_true_eq] at h
  rw [hexValue]
  by_cases hdigit : isAsciiDigit c = true
  · exact ⟨_, if_pos hdigit⟩
  · rw [if_neg hdigit]
    by_cases hlower : 0x61 ≤ c.toNat ∧ c.toNat ≤ 0x66
    · exact ⟨_, if_pos hlower⟩
    · rw [if_neg hlower]
      exact ⟨_, if_pos ((h.resolve_left fun h => h.elim hdigit hlower))⟩

theorem isAsciiHexdigit_of_hexValue {value : UInt8} (h : hexValue c = some value) :
    isAsciiHexdigit c = true := by
  simp only [isAsciiHexdigit, isAsciiLowerHex, Bool.or_eq_true, Bool.and_eq_true,
    decide_eq_true_eq]
  rw [hexValue] at h
  split at h
  · next hdigit => exact .inl (.inl hdigit)
  · split at h
    · next hlower => exact .inl (.inr hlower)
    · split at h
      · next hupper => exact .inr hupper
      · cases h

/-- Pairs of digits are what they are called. -/
theorem exists_hexPairs_iff : ∀ {chars : List Char},
    (∃ bytes, hexPairs chars = some bytes) ↔ chars.length % 2 = 0 ∧ chars.all isAsciiHexdigit
  | [] => by simp [hexPairs]
  | [_] => by simp [hexPairs]
  | high :: low :: rest => by
    have ih : (∃ bytes, hexPairs rest = some bytes) ↔
        rest.length % 2 = 0 ∧ rest.all isAsciiHexdigit := exists_hexPairs_iff
    simp only [hexPairs, Option.bind_eq_bind, Option.bind_eq_some_iff, Option.some.injEq,
      List.length_cons, List.all_cons, Bool.and_eq_true]
    constructor
    · rintro ⟨_, _, hhigh, _, hlow, bytes, hbytes, -⟩
      obtain ⟨heven, hall⟩ := ih.mp ⟨bytes, hbytes⟩
      exact ⟨by omega, isAsciiHexdigit_of_hexValue hhigh, isAsciiHexdigit_of_hexValue hlow, hall⟩
    · rintro ⟨heven, hhigh, hlow, hall⟩
      obtain ⟨_, hhigh⟩ := exists_hexValue hhigh
      obtain ⟨_, hlow⟩ := exists_hexValue hlow
      obtain ⟨bytes, hbytes⟩ := ih.mpr ⟨by omega, hall⟩
      exact ⟨_, _, hhigh, _, hlow, bytes, hbytes, rfl⟩

theorem toNat_lt_of_isAsciiHexdigit (h : isAsciiHexdigit c = true) : c.toNat < 0x80 := by
  simp only [isAsciiHexdigit, isAsciiLowerHex, isAsciiDigit, Bool.or_eq_true, Bool.and_eq_true,
    decide_eq_true_eq] at h
  omega

theorem byteLength_of_all_isAsciiHexdigit {raw : String} (h : all raw isAsciiHexdigit = true) :
    byteLength raw = raw.toList.length :=
  byteLength_of_ascii fun c hc => toNat_lt_of_isAsciiHexdigit (List.all_eq_true.mp h c hc)

/-! ## 9. Numerals -/

/-- `format!("{n:x}")` -/
def hexNumeral (n : Nat) : String := String.ofList (Nat.toDigits 16 n)

/-- The two digits of every byte. -/
def nibbles (bytes : List UInt8) : List UInt8 :=
  bytes.flatMap fun byte : UInt8 => [byte >>> 4, byte &&& 0x0f]

theorem nibbles_lt : ∀ digit ∈ nibbles bytes, digit < 16 := by
  intro digit hdigit
  obtain ⟨byte, -, hdigit⟩ := List.mem_flatMap.mp hdigit
  obtain ⟨hhigh, hlow, -⟩ := hexChar_parts byte
  rcases List.mem_cons.mp hdigit with rfl | hdigit
  · exact hhigh
  · rw [List.mem_singleton.mp hdigit]
    exact hlow

theorem toList_hexEncode (bytes : List UInt8) :
    (hexEncode bytes).toList = (nibbles bytes).map hexChar := by
  rw [hexEncode, String.toList_ofList, nibbles, List.map_flatMap]
  rfl

theorem foldl_nibbles (bytes : List UInt8) (n : Nat) :
    (nibbles bytes).foldl (fun n digit => 16 * n + digit.toNat) n =
      256 ^ bytes.length * n + ofBeBytes bytes := by
  have hdecode := foldlM_of_hexPairs (hexDecode_hexEncode bytes) n
  rw [toList_hexEncode] at hdecode
  have hfold : ∀ digits : List UInt8, (∀ digit ∈ digits, digit < 16) → ∀ n : Nat,
      (digits.map hexChar).foldlM
        (fun n digit => (hexValue digit).map fun value => 16 * n + value.toNat) n =
        some (digits.foldl (fun n digit => 16 * n + digit.toNat) n) := by
    intro digits
    induction digits with
    | nil => exact fun _ _ => rfl
    | cons digit digits ih =>
      intro hdigits n
      rw [List.map_cons, List.foldlM_cons, hexValue_hexChar _ (hdigits _ List.mem_cons_self),
        Option.map_some, Option.bind_eq_bind, Option.bind_some, List.foldl_cons]
      exact ih (fun other hother => hdigits other (List.mem_cons_of_mem _ hother)) _
  rwa [hfold _ nibbles_lt, Option.some.injEq] at hdecode

theorem toDigits_hexChar : ∀ value : UInt8, value < 16 →
    Nat.toDigits 16 value.toNat = [hexChar value] := by
  intro value hlt
  have hvalues : ∀ n < 16, Nat.toDigits 16 (UInt8.ofNat n).toNat = [hexChar (UInt8.ofNat n)] := by
    decide
  have h := hvalues value.toNat (UInt8.lt_iff_toNat_lt.mp hlt)
  rwa [UInt8.ofNat_toNat] at h

/-- Digits behind a number that is not zero go on with its numeral. -/
theorem toDigits_append_hexChars {digits : List UInt8} (hdigits : ∀ digit ∈ digits, digit < 16)
    {n : Nat} (hn : 0 < n) : Nat.toDigits 16 n ++ digits.map hexChar =
      Nat.toDigits 16 (digits.foldl (fun n digit => 16 * n + digit.toNat) n) := by
  induction digits generalizing n with
  | nil => rw [List.map_nil, List.append_nil, List.foldl_nil]
  | cons digit digits ih =>
    have hdigit := hdigits digit List.mem_cons_self
    have hlt : digit.toNat < 16 := UInt8.lt_iff_toNat_lt.mp hdigit
    have hhead : Nat.toDigits 16 n ++ [hexChar digit] = Nat.toDigits 16 (16 * n + digit.toNat) := by
      rw [← toDigits_hexChar digit hdigit, Nat.toDigits_append_toDigits (by decide) hn hlt]
    rw [List.map_cons, ← List.singleton_append, ← List.append_assoc, hhead, List.foldl_cons]
    exact ih (fun other hother => hdigits other (List.mem_cons_of_mem _ hother)) (by omega)

/-- Without the zeros in front, digits are the numeral of their number. -/
theorem dropWhile_hexChars {digits : List UInt8} (hdigits : ∀ digit ∈ digits, digit < 16)
    (hne : digits.foldl (fun n digit => 16 * n + digit.toNat) 0 ≠ 0) :
    (digits.map hexChar).dropWhile (· == '0') =
      Nat.toDigits 16 (digits.foldl (fun n digit => 16 * n + digit.toNat) 0) := by
  have hzero : ∀ n < 16, (hexChar (UInt8.ofNat n) == '0') = (UInt8.ofNat n == 0) := by decide
  induction digits with
  | nil => exact absurd rfl hne
  | cons digit digits ih =>
    have hdigit := hdigits digit List.mem_cons_self
    have hrest : ∀ other ∈ digits, other < 16 := fun other hother =>
      hdigits other (List.mem_cons_of_mem _ hother)
    have hfirst := hzero digit.toNat (UInt8.lt_iff_toNat_lt.mp hdigit)
    rw [UInt8.ofNat_toNat] at hfirst
    rw [List.foldl_cons, Nat.mul_zero, Nat.zero_add] at hne ⊢
    rw [List.map_cons, List.dropWhile_cons, hfirst]
    split
    · next h =>
      rw [beq_iff_eq.mp h] at hne ⊢
      exact ih hrest hne
    · next h =>
      have hpos : 0 < digit.toNat := by
        refine Nat.pos_of_ne_zero fun hnil => h (beq_iff_eq.mpr ?_)
        exact UInt8.toNat_inj.mp hnil
      rw [← List.singleton_append, ← toDigits_hexChar digit hdigit]
      exact toDigits_append_hexChars hrest hpos

/-- Without the zeros in front, the digits of bytes are the numeral of their number. -/
theorem dropWhile_hexEncode (h : ofBeBytes bytes ≠ 0) :
    String.ofList ((hexEncode bytes).toList.dropWhile (· == '0')) =
      hexNumeral (ofBeBytes bytes) := by
  have hvalue := foldl_nibbles bytes 0
  rw [Nat.mul_zero, Nat.zero_add] at hvalue
  rw [toList_hexEncode, hexNumeral, dropWhile_hexChars nibbles_lt (by rwa [hvalue]), hvalue]

end Text
