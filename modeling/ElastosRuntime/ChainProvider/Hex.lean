/-
# Hexadecimal texts of the chain provider

`validation.rs` and `abi.rs`: what is accepted as hexadecimal bytes, which come in pairs of digits
and may be asked for in a fixed number, and as a quantity, of which any number of digits denotes a
number.  A quantity is written back without zeros in front.

A step that would end the call without an answer is a `Fault` of its own: a slice outside of the
bytes it is taken from, and a vector longer than memory can hold.
-/
import ElastosRuntime.Contracts.Verification
import ElastosRuntime.Lib.Text

namespace ElastosRuntime.ChainProvider

open Contracts (failIf okOr failIf_eq_ok okOr_eq_ok pure_eq_ok exists_unit)
open Text

/-- Why a call has no result. -/
inductive Fault where
  | refused (message : String)
  | outOfBounds
  | capacityOverflow
deriving DecidableEq

/-- `isize::MAX`, the most bytes that a vector, a string or a slice has. -/
def ISIZE_MAX : Nat := 2 ^ 63 - 1

/-! ## 1. The functions -/

def validateHex (value : String) (bytes : Option Nat) (label : String) : Except Fault Unit := do
  let raw ← okOr (stripPrefix value "0x") (.refused (label ++ " must start with 0x"))
  failIf (byteLength raw % 2 ≠ 0 ∨ ¬all raw isAsciiHexdigit)
    (.refused (label ++ " must be even-length hex"))
  match bytes with
  | some bytes =>
    failIf (byteLength raw ≠ bytes * 2)
      (.refused (label ++ " must be " ++ toString bytes ++ " bytes"))
  | none => pure ()

def validateHexQuantity (value label : String) : Except Fault Unit := do
  let raw ← okOr (stripPrefix value "0x") (.refused (label ++ " must start with 0x"))
  failIf (raw = "" ∨ ¬all raw isAsciiHexdigit) (.refused (label ++ " must be a hex quantity"))

/-- `trim_start_matches("0x")` -/
def trimStart0x : List Char → List Char
  | '0' :: 'x' :: rest => trimStart0x rest
  | chars => chars

/-- The loop over pairs of digits; a digit that is left over at the end is not looked at. -/
def decodeHexChunks (label : String) : List Char → Except Fault (List UInt8)
  | high :: low :: rest => do
    let high ← okOr (hexValue high) (.refused (label ++ " must be hex"))
    let low ← okOr (hexValue low) (.refused (label ++ " must be hex"))
    let decoded ← decodeHexChunks label rest
    pure ((high <<< 4 ||| low) :: decoded)
  | _ => pure []

def decodeHex (value : String) (bytes : Option Nat) (label : String) :
    Except Fault (List UInt8) := do
  validateHex value bytes label
  decodeHexChunks label (trimStart0x value.toList)

def decodeHexQuantity (value label : String) : Except Fault (List UInt8) := do
  validateHexQuantity value label
  let raw ← okOr (stripPrefix value "0x") (.refused (label ++ " must start with 0x"))
  let padded := if byteLength raw % 2 = 0 then raw else "0" ++ raw
  decodeHexChunks label padded.toList

def encodeHex (bytes : List UInt8) : String := hexEncode bytes

def normalizeHexQuantityBytes (bytes : List UInt8) : String :=
  match bytes.findIdx? (· ≠ 0) with
  | some index =>
    let hex := encodeHex (bytes.drop index)
    let hex := if hex = "" then "0" else hex
    if startsWith hex "0" ∧ 1 < byteLength hex then
      "0x" ++ String.ofList (hex.toList.dropWhile (· == '0'))
    else "0x" ++ hex
  | none => "0x0"

/-! ## 2. What is read -/

variable {label value : String}

/-- A loop over pairs reads what pairs of digits spell. -/
theorem decodeHexChunks_eq_ok {chars : List Char} {bytes : List UInt8}
    (heven : chars.length % 2 = 0) :
    decodeHexChunks label chars = .ok bytes ↔ hexPairs chars = some bytes := by
  induction chars using hexPairs.induct generalizing bytes with
  | case1 =>
    rw [decodeHexChunks, hexPairs, pure_eq_ok, Option.some.injEq]
    simp
  | case2 => cases heven
  | case3 high low rest ih =>
    have hrest : rest.length % 2 = 0 := by
      rw [List.length_cons, List.length_cons] at heven
      omega
    simp only [decodeHexChunks, hexPairs, Codec.bind_eq_ok, okOr_eq_ok, pure_eq_ok,
      ih hrest, Option.bind_eq_bind, Option.bind_eq_some_iff, Option.some.injEq]

/-- Behind the prefix of an accepted text there is no second one. -/
theorem trimStart0x_of_stripPrefix {raw : String} (h : stripPrefix value "0x" = some raw)
    (hdigits : all raw isAsciiHexdigit = true) : trimStart0x value.toList = raw.toList := by
  have htrim : ∀ chars : List Char, chars.all isAsciiHexdigit = true →
      trimStart0x chars = chars := by
    intro chars hchars
    unfold trimStart0x
    split
    · have hx : isAsciiHexdigit 'x' = false := by decide
      simp only [List.all_cons, hx, Bool.false_and, Bool.and_false, Bool.false_eq_true] at hchars
    · rfl
  rw [stripPrefix_eq_some_iff.mp h, String.toList_append]
  exact htrim raw.toList hdigits

/-- `0x` and the digits of these bytes. -/
def Spells (value : String) (bytes : List UInt8) : Prop :=
  ∃ raw, stripPrefix value "0x" = some raw ∧ hexDecode raw = some bytes

variable {bytes : List UInt8}

/-- **Hexadecimal bytes are read as they are spelled**, and only these are accepted. -/
theorem decodeHex_eq_ok {count : Option Nat} :
    decodeHex value count label = .ok bytes ↔
      Spells value bytes ∧ ∀ n ∈ count, bytes.length = n := by
  simp only [decodeHex, validateHex, Codec.bind_eq_ok, okOr_eq_ok, failIf_eq_ok, not_or, not_not,
    exists_unit, Spells]
  constructor
  · rintro ⟨⟨raw, hraw, ⟨heven, hdigits⟩, hcount⟩, hdecode⟩
    have hlength := byteLength_of_all_isAsciiHexdigit hdigits
    rw [trimStart0x_of_stripPrefix hraw hdigits, decodeHexChunks_eq_ok (by rwa [← hlength])]
      at hdecode
    refine ⟨⟨raw, hraw, hdecode⟩, ?_⟩
    rintro n ⟨⟩
    have hpairs := length_eq_of_hexPairs hdecode
    have hsize : byteLength raw = n * 2 := not_not.mp (failIf_eq_ok.mp hcount)
    omega
  · rintro ⟨⟨raw, hraw, hdecode⟩, hcount⟩
    obtain ⟨heven, hdigits⟩ := exists_hexPairs_iff.mp ⟨bytes, hdecode⟩
    have hlength := byteLength_of_all_isAsciiHexdigit hdigits
    refine ⟨⟨raw, hraw, ⟨by rwa [hlength], hdigits⟩, ?_⟩, ?_⟩
    · cases count with
      | none => rfl
      | some n =>
        have hpairs := length_eq_of_hexPairs hdecode
        refine failIf_eq_ok.mpr (not_not.mpr ?_)
        rw [hlength, hpairs, hcount n rfl, Nat.mul_comm]
    · rw [trimStart0x_of_stripPrefix hraw hdigits]
      exact (decodeHexChunks_eq_ok heven).mpr hdecode

/-- **A quantity is the number its digits denote.** -/
theorem parseHexNumber_of_decodeHexQuantity (h : decodeHexQuantity value label = .ok bytes) :
    parseHexNumber value = some (ofBeBytes bytes) := by
  simp only [decodeHexQuantity, validateHexQuantity, Codec.bind_eq_ok, okOr_eq_ok, failIf_eq_ok,
    not_or, not_not] at h
  obtain ⟨_, ⟨raw, hraw, -, hdigits⟩, raw', hraw', hdecode⟩ := h
  cases hraw.symm.trans hraw'
  have hlength := byteLength_of_all_isAsciiHexdigit hdigits
  rw [parseHexNumber, hraw, Option.bind_eq_bind, Option.bind_some]
  split at hdecode
  · next heven =>
    exact hexDigitsValue_of_hexPairs ((decodeHexChunks_eq_ok (by rwa [← hlength])).mp hdecode)
  · next hodd =>
    -- A zero in front makes the number of digits even and does not count.
    have hpairs : hexPairs ('0' :: raw.toList) = some bytes := by
      rw [String.toList_append] at hdecode
      refine (decodeHexChunks_eq_ok ?_).mp hdecode
      rw [List.length_cons, ← hlength]
      omega
    rw [← hexDigitsValue_of_hexPairs hpairs]
    rfl

theorem Spells.parseHexNumber (h : Spells value bytes) :
    parseHexNumber value = some (ofBeBytes bytes) := by
  obtain ⟨raw, hraw, hbytes⟩ := h
  rw [Text.parseHexNumber, hraw]
  exact hexDigitsValue_of_hexPairs hbytes

theorem ofBeBytes_drop_findIdx {index : Nat} (h : bytes.findIdx? (· ≠ 0) = some index) :
    ofBeBytes bytes = ofBeBytes (bytes.drop index) ∧ ofBeBytes bytes ≠ 0 := by
  induction bytes generalizing index with
  | nil => cases h
  | cons byte bytes ih =>
    rw [List.findIdx?_cons] at h
    split at h
    · next hne =>
      rw [Option.some.injEq] at h
      rw [← h, List.drop_zero]
      refine ⟨rfl, fun hzero => of_decide_eq_true hne ?_⟩
      rw [ofBeBytes_cons] at hzero
      have hpos : 0 < 256 ^ bytes.length := Nat.pow_pos (by decide)
      have hbyte : byte.toNat = 0 := by
        rcases Nat.mul_eq_zero.mp (Nat.add_eq_zero_iff.mp hzero).1 with h | h
        · exact h
        · omega
      exact UInt8.toNat_inj.mp hbyte
    · next hzero =>
      obtain ⟨index, hindex, rfl⟩ := Option.map_eq_some_iff.mp h
      have hbyte : byte = 0 := not_not.mp fun hne => hzero (decide_eq_true hne)
      obtain ⟨hdrop, hne⟩ := ih hindex
      have hcons : ofBeBytes (byte :: bytes) = ofBeBytes bytes := by
        rw [ofBeBytes_cons, hbyte, UInt8.toNat_zero, Nat.zero_mul, Nat.zero_add]
      rw [hcons, List.drop_succ_cons]
      exact ⟨hdrop, hne⟩

theorem ofBeBytes_of_findIdx_eq_none (h : bytes.findIdx? (· ≠ 0) = none) : ofBeBytes bytes = 0 := by
  induction bytes with
  | nil => rfl
  | cons byte bytes ih =>
    rw [List.findIdx?_eq_none_iff] at h
    have hbyte : byte = 0 := by
      simpa using h byte List.mem_cons_self
    rw [ofBeBytes_cons, hbyte, UInt8.toNat_zero, Nat.zero_mul, Nat.zero_add]
    exact ih (List.findIdx?_eq_none_iff.mpr fun other hother =>
      h other (List.mem_cons_of_mem _ hother))

theorem dropWhile_of_not_startsWith {hex : String} (h : ¬startsWith hex "0") :
    String.ofList (hex.toList.dropWhile (· == '0')) = hex := by
  rw [startsWith] at h
  rw [← String.toList_inj, String.toList_ofList]
  cases hchars : hex.toList with
  | nil => rfl
  | cons c rest =>
    rw [hchars] at h
    refine List.dropWhile_cons_of_neg fun hzero => h ?_
    rw [beq_iff_eq.mp hzero]
    rfl

/-- **A number is written without zeros in front.** -/
theorem normalizeHexQuantityBytes_eq (bytes : List UInt8) :
    normalizeHexQuantityBytes bytes = "0x" ++ hexNumeral (ofBeBytes bytes) := by
  rw [normalizeHexQuantityBytes]
  split
  · next index hindex =>
    obtain ⟨hdrop, hne⟩ := ofBeBytes_drop_findIdx hindex
    have hrest : ofBeBytes (bytes.drop index) ≠ 0 := by rwa [← hdrop]
    have hnumeral := dropWhile_hexEncode hrest
    have hlength : 1 < byteLength (encodeHex (bytes.drop index)) := by
      rw [encodeHex, byteLength_of_ascii fun c hc =>
        toNat_lt_of_isAsciiHexdigit (isAsciiHexdigit_of_mem_hexEncode hc), length_toList_hexEncode]
      cases hbytes : bytes.drop index with
      | nil =>
        rw [hdrop, hbytes] at hne
        exact absurd rfl hne
      | cons byte rest =>
        rw [List.length_cons]
        omega
    have hnonempty : encodeHex (bytes.drop index) ≠ "" := by
      intro hempty
      rw [hempty] at hlength
      exact absurd hlength (by decide)
    simp only [if_neg hnonempty]
    rw [hdrop, ← hnumeral]
    split
    · rfl
    · next hfirst =>
      have hfirst : ¬startsWith (encodeHex (bytes.drop index)) "0" := fun h => hfirst ⟨h, hlength⟩
      exact congrArg _ (dropWhile_of_not_startsWith hfirst).symm
  · next hnone =>
    rw [ofBeBytes_of_findIdx_eq_none hnone]
    rfl

end ElastosRuntime.ChainProvider
