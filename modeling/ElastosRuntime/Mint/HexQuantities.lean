/-
# Hex quantities of a mint

`normalize_intent_hex_quantity` reads `0x` and hex digits byte by byte and spells the number again
without leading zeros; `validate_canonical_intent_hex_quantity` accepts a text that is its own
spelling.  Zeros are padded by the digit and counted by the byte, so what the functions do is said
here in digits: `normalizeIntentHexQuantity_eq_ok`.

The limit is one on the digits (64, leading zeros included), not on the number.
-/
import Mathlib.Data.List.DropRight
import ElastosRuntime.Lib.Text
import ElastosRuntime.Mint.CreatorJson

namespace ElastosRuntime.MintJournal

open Codec Contracts

/-! ## 1. Numerals -/

/-- The number that hex digits stand for, the most significant first. -/
def numeral (digits : List Nat) : Nat := Nat.ofDigits 16 digits.reverse

@[simp] theorem numeral_cons_zero (digits : List Nat) : numeral (0 :: digits) = numeral digits := by
  rw [numeral, List.reverse_cons, Nat.ofDigits_append, Nat.ofDigits_singleton, Nat.mul_zero,
    Nat.add_zero, numeral]

theorem numeral_dropWhile (digits : List Nat) :
    numeral (digits.dropWhile (· == 0)) = numeral digits := by
  induction digits with
  | nil => rfl
  | cons digit digits ih =>
    by_cases hzero : digit = 0
    · rw [hzero, List.dropWhile_cons_of_pos (by rfl), numeral_cons_zero, ih]
    · rw [List.dropWhile_cons_of_neg (by simpa using hzero)]

variable {digits : List Nat}

theorem numeral_lt (h : ∀ digit ∈ digits, digit < 16) : numeral digits < 16 ^ digits.length := by
  rw [numeral, ← List.length_reverse]
  exact Nat.ofDigits_lt_base_pow_length (by decide) fun digit hdigit =>
    h digit (List.mem_reverse.mp hdigit)

/-- The digits of a numeral are what is left of it without leading zeros. -/
theorem digits_numeral (h : ∀ digit ∈ digits, digit < 16) :
    (Nat.digits 16 (numeral digits)).reverse = digits.dropWhile (· == 0) := by
  rw [← numeral_dropWhile, numeral, Nat.digits_ofDigits 16 (by decide), List.reverse_reverse]
  · intro digit hdigit
    exact h digit ((List.dropWhile_sublist _).subset (List.mem_reverse.mp hdigit))
  · intro hne
    rw [List.getLast_reverse]
    have hhead := List.head_dropWhile_not (· == 0) (l := digits) (by simpa using hne)
    simpa using hhead

theorem numeral_digits (number : Nat) : numeral (Nat.digits 16 number).reverse = number := by
  rw [numeral, List.reverse_reverse, Nat.ofDigits_digits]

/-! ## 2. Digits -/

/-- The values of hex digits, if all are. -/
def hexValues (raw : List UInt8) : Option (List Nat) :=
  raw.mapM fun byte => (intentHexValue byte).map UInt8.toNat

/-- The lower-case spelling of a digit. -/
def spellDigit (digit : Nat) : UInt8 := hexDigit (UInt8.ofNat digit)

/-- The two digits of every byte. -/
def nibbles (bytes : List UInt8) : List Nat :=
  bytes.flatMap fun byte : UInt8 => [(byte >>> 4).toNat, (byte &&& 0x0f).toNat]

theorem toNat_of_intentHexValue {byte value : UInt8} (h : intentHexValue byte = some value) :
    value.toNat < 16 ∧ 0x21 ≤ byte ∧ byte ≤ 0x7e := by
  have hletter : ∀ first : UInt8, first ≤ byte → byte ≤ first + 5 → first.toNat ≤ 250 →
      (byte - first + 10).toNat < 16 := by
    intro first hfirst hlast hsmall
    rw [UInt8.le_iff_toNat_le, UInt8.toNat_add, show (5 : UInt8).toNat = 5 from rfl] at hlast
    rw [UInt8.toNat_add, UInt8.toNat_sub_of_le _ _ hfirst, show (10 : UInt8).toNat = 10 from rfl]
    omega
  unfold intentHexValue at h
  split at h
  · next hdigit =>
    cases h
    refine ⟨?_, UInt8.le_trans (by decide) hdigit.1, UInt8.le_trans hdigit.2 (by decide)⟩
    have hlast := UInt8.le_iff_toNat_le.mp hdigit.2
    rw [UInt8.toNat_sub_of_le _ _ hdigit.1]
    exact Nat.lt_of_le_of_lt (Nat.sub_le_sub_right hlast _) (by decide)
  · split at h
    · next hlower =>
      cases h
      exact ⟨hletter 0x61 hlower.1 hlower.2 (by decide), UInt8.le_trans (by decide) hlower.1,
        UInt8.le_trans hlower.2 (by decide)⟩
    · split at h
      · next hupper =>
        cases h
        exact ⟨hletter 0x41 hupper.1 hupper.2 (by decide), UInt8.le_trans (by decide) hupper.1,
          UInt8.le_trans hupper.2 (by decide)⟩
      · cases h

theorem spellDigit_spec : ∀ digit < 16,
    (intentHexValue (spellDigit digit)).map UInt8.toNat = some digit ∧
      (spellDigit digit == 0x30) = (digit == 0) ∧
        (0x30 ≤ spellDigit digit ∧ spellDigit digit ≤ 0x39 ∨
          0x61 ≤ spellDigit digit ∧ spellDigit digit ≤ 0x66) := by
  decide

theorem join_nibbles {high low : UInt8} (hhigh : high.toNat < 16) (hlow : low.toNat < 16) :
    ((high <<< 4 ||| low) >>> 4).toNat = high.toNat ∧
      ((high <<< 4 ||| low) &&& 0x0f).toNat = low.toNat := by
  have hall : ∀ high < 16, ∀ low < 16,
      ((UInt8.ofNat high <<< 4 ||| UInt8.ofNat low) >>> 4).toNat = high ∧
        ((UInt8.ofNat high <<< 4 ||| UInt8.ofNat low) &&& 0x0f).toNat = low := by
    decide
  have h := hall _ hhigh _ hlow
  rwa [UInt8.ofNat_toNat, UInt8.ofNat_toNat] at h

variable {raw : List UInt8}

theorem hexValues_cons {byte : UInt8} {values : List Nat} :
    hexValues (byte :: raw) = some values ↔ ∃ value rest, intentHexValue byte = some value ∧
      hexValues raw = some rest ∧ values = value.toNat :: rest := by
  rw [hexValues, List.mapM_cons]
  simp only [Option.bind_eq_bind, Option.bind_eq_some_iff, Option.map_eq_some_iff, Option.pure_def,
    Option.some_inj]
  constructor
  · rintro ⟨_, ⟨value, hvalue, rfl⟩, rest, hrest, rfl⟩
    exact ⟨value, rest, hvalue, hrest, rfl⟩
  · rintro ⟨value, rest, hvalue, hrest, rfl⟩
    exact ⟨_, ⟨value, hvalue, rfl⟩, rest, hrest, rfl⟩

theorem length_hexValues : ∀ {raw : List UInt8} {values : List Nat}, hexValues raw = some values →
    values.length = raw.length
  | [], values, h => by
    cases h
    rfl
  | byte :: raw, values, h => by
    obtain ⟨value, rest, -, hrest, rfl⟩ := hexValues_cons.mp h
    rw [List.length_cons, List.length_cons, length_hexValues hrest]

theorem lt_of_mem_hexValues : ∀ {values : List Nat},
    hexValues raw = some values → ∀ value ∈ values, value < 16 := by
  induction raw with
  | nil =>
    intro values h value hvalue
    cases h
    cases hvalue
  | cons byte raw ih =>
    intro values h value hvalue
    obtain ⟨first, rest, hfirst, hrest, rfl⟩ := hexValues_cons.mp h
    rcases List.mem_cons.mp hvalue with rfl | hvalue
    · exact (toNat_of_intentHexValue hfirst).1
    · exact ih hrest value hvalue

theorem printable_of_hexValues : ∀ {values : List Nat},
    hexValues raw = some values → ∀ byte ∈ raw, 0x21 ≤ byte ∧ byte ≤ 0x7e := by
  induction raw with
  | nil =>
    intro values h byte hbyte
    cases hbyte
  | cons first raw ih =>
    intro values h byte hbyte
    obtain ⟨value, rest, hvalue, hrest, -⟩ := hexValues_cons.mp h
    rcases List.mem_cons.mp hbyte with rfl | hbyte
    · exact (toNat_of_intentHexValue hvalue).2
    · exact ih hrest byte hbyte

/-- Reading a spelling gives the digits that were spelled. -/
theorem hexValues_spell : ∀ {digits : List Nat}, (∀ digit ∈ digits, digit < 16) →
    hexValues (digits.map spellDigit) = some digits
  | [], _ => rfl
  | digit :: digits, h => by
    obtain ⟨value, hvalue, hdigit⟩ := Option.map_eq_some_iff.mp
      (spellDigit_spec digit (h digit List.mem_cons_self)).1
    rw [List.map_cons, hexValues_cons]
    exact ⟨value, digits, hvalue, hexValues_spell fun other hother =>
      h other (List.mem_cons_of_mem _ hother), by rw [hdigit]⟩

/-- Without the leading zeros of a spelling, what is spelled has lost its leading zeros. -/
theorem dropWhile_spell (h : ∀ digit ∈ digits, digit < 16) :
    (digits.map spellDigit).dropWhile (· == 0x30) =
      (digits.dropWhile (· == 0)).map spellDigit := by
  induction digits with
  | nil => rfl
  | cons digit digits ih =>
    have hzero := (spellDigit_spec digit (h digit List.mem_cons_self)).2.1
    have hrest := ih fun other hother => h other (List.mem_cons_of_mem _ hother)
    rw [List.map_cons, List.dropWhile_cons, List.dropWhile_cons, hzero]
    split
    · exact hrest
    · rfl

/-! ## 3. Bytes -/

theorem nibbles_lt (bytes : List UInt8) : ∀ digit ∈ nibbles bytes, digit < 16 := by
  intro digit hdigit
  obtain ⟨byte, -, hdigit⟩ := List.mem_flatMap.mp hdigit
  obtain ⟨hhigh, hlow, -⟩ := Text.hexChar_parts byte
  rcases List.mem_cons.mp hdigit with rfl | hdigit
  · exact UInt8.lt_iff_toNat_lt.mp hhigh
  · rw [List.mem_singleton.mp hdigit]
    exact UInt8.lt_iff_toNat_lt.mp hlow

/-- **The loop over the bytes reads the digits**, two at a time. -/
theorem hexValues_of_decodeIntentHex : ∀ {raw decoded : List UInt8}, raw.length % 2 = 0 →
    decodeIntentHex raw = some decoded → hexValues raw = some (nibbles decoded)
  | [], decoded, _, h => by
    cases h
    rfl
  | [_], _, heven, _ => by cases heven
  | high :: low :: rest, decoded, heven, h => by
    have hrest : rest.length % 2 = 0 := by
      rw [List.length_cons, List.length_cons] at heven
      omega
    rw [decodeIntentHex] at h
    simp only [Option.bind_eq_bind, Option.bind_eq_some_iff, Option.some_inj] at h
    obtain ⟨first, hfirst, second, hsecond, tail, htail, rfl⟩ := h
    have hjoin := join_nibbles (toNat_of_intentHexValue hfirst).1 (toNat_of_intentHexValue hsecond).1
    refine hexValues_cons.mpr ⟨first, _, hfirst, hexValues_cons.mpr ⟨second, _, hsecond,
      hexValues_of_decodeIntentHex hrest htail, rfl⟩, ?_⟩
    rw [nibbles, List.flatMap_cons, hjoin.1, hjoin.2]
    rfl

theorem exists_decodeIntentHex : ∀ {raw : List UInt8} {values : List Nat}, raw.length % 2 = 0 →
    hexValues raw = some values → ∃ decoded, decodeIntentHex raw = some decoded
  | [], _, _, _ => ⟨[], rfl⟩
  | [_], _, heven, _ => by cases heven
  | high :: low :: rest, _, heven, h => by
    have hrest : rest.length % 2 = 0 := by
      rw [List.length_cons, List.length_cons] at heven
      omega
    obtain ⟨first, _, hfirst, h, -⟩ := hexValues_cons.mp h
    obtain ⟨second, values, hsecond, hvalues, -⟩ := hexValues_cons.mp h
    obtain ⟨tail, htail⟩ := exists_decodeIntentHex hrest hvalues
    exact ⟨_, by rw [decodeIntentHex, hfirst, hsecond, htail]; rfl⟩

theorem dropWhile_nibbles (bytes : List UInt8) :
    (nibbles (bytes.dropWhile (· == 0))).dropWhile (· == 0) =
      (nibbles bytes).dropWhile (· == 0) := by
  induction bytes with
  | nil => rfl
  | cons byte bytes ih =>
    by_cases hzero : byte = 0
    · rw [hzero, List.dropWhile_cons_of_pos (by rfl), ih]
      rfl
    · rw [List.dropWhile_cons_of_neg (by simpa using hzero)]

/-- The canonical spelling of a number. -/
def quantityText (number : Nat) : List UInt8 :=
  utf8Bytes "0x" ++ (Nat.digits 16 number).reverse.map spellDigit

theorem normalizeIntentHexQuantityBytes_eq (bytes : List UInt8) :
    normalizeIntentHexQuantityBytes bytes =
      if numeral (nibbles bytes) = 0 then utf8Bytes "0x0" else quantityText (numeral (nibbles bytes))
        := by
  have hdigits := digits_numeral (nibbles_lt bytes)
  rw [← dropWhile_nibbles] at hdigits
  rw [normalizeIntentHexQuantityBytes, quantityText, hdigits]
  cases hsignificant : bytes.dropWhile (· == 0) with
  | nil =>
    have hnil : (nibbles []).dropWhile (· == 0) = [] := rfl
    rw [hsignificant, hnil] at hdigits
    have hzero : Nat.digits 16 (numeral (nibbles bytes)) = [] := List.reverse_eq_nil_iff.mp hdigits
    rw [if_pos (Nat.digits_eq_nil_iff_eq_zero.mp hzero)]
  | cons byte significant =>
    have hbyte : byte ≠ 0 := by
      have hhead := List.head?_dropWhile_not (· == 0) bytes
      rw [hsignificant] at hhead
      simpa using hhead
    have hspell : (byte :: significant).flatMap (fun byte : UInt8 =>
        [hexDigit (byte >>> 4), hexDigit (byte &&& 0x0f)]) =
          (nibbles (byte :: significant)).map spellDigit := by
      rw [nibbles, List.map_flatMap]
      refine List.flatMap_congr fun b _ => ?_
      simp only [List.map_cons, List.map_nil, spellDigit, UInt8.ofNat_toNat]
    have hne : numeral (nibbles bytes) ≠ 0 := by
      intro hzero
      rw [hzero, hsignificant, Nat.digits_zero, List.reverse_nil, eq_comm,
        List.dropWhile_eq_nil_iff] at hdigits
      have hhigh := hdigits (byte >>> 4).toNat (by simp [nibbles])
      have hlow := hdigits (byte &&& 0x0f).toNat (by simp [nibbles])
      rw [beq_iff_eq] at hhigh hlow
      have hparts := (Text.hexChar_parts byte).2.2
      rw [UInt8.toNat_inj.mp (hhigh.trans UInt8.toNat_zero.symm),
        UInt8.toNat_inj.mp (hlow.trans UInt8.toNat_zero.symm)] at hparts
      exact hbyte (hparts.symm.trans (by decide))
    dsimp only
    rw [if_neg hne, hspell, dropWhile_spell (nibbles_lt _)]

/-! ## 4. Quantities -/

/-- A text is `0x` and so many hex digits, which stand for the number. -/
def HexQuantity (text : List UInt8) (count number : Nat) : Prop :=
  ∃ raw digits, text = utf8Bytes "0x" ++ raw ∧ hexValues raw = some digits ∧
    digits.length = count ∧ numeral digits = number

section

variable {text : List UInt8} {count number count' number' : Nat}

theorem HexQuantity.unique (h : HexQuantity text count number)
    (h' : HexQuantity text count' number') : count = count' ∧ number = number' := by
  obtain ⟨raw, digits, rfl, hdigits, rfl, rfl⟩ := h
  obtain ⟨raw', digits', htext, hdigits', rfl, rfl⟩ := h'
  obtain rfl := List.append_cancel_left htext
  obtain rfl := Option.some_inj.mp (hdigits.symm.trans hdigits')
  exact ⟨rfl, rfl⟩

theorem hexQuantity_quantityText (number : Nat) :
    HexQuantity (quantityText number) (Nat.digits 16 number).length number := by
  have hdigits : ∀ digit ∈ (Nat.digits 16 number).reverse, digit < 16 := fun digit hdigit =>
    Nat.digits_lt_base (by decide) (List.mem_reverse.mp hdigit)
  exact ⟨_, _, rfl, hexValues_spell hdigits, List.length_reverse, numeral_digits number⟩

theorem quantityText_inj : quantityText number = quantityText number' ↔ number = number' := by
  constructor
  · intro h
    have hnumber := hexQuantity_quantityText number
    rw [h] at hnumber
    exact (hnumber.unique (hexQuantity_quantityText number')).2
  · rintro rfl
    rfl

/-- The spelling of a number other than zero: lower case, and no zero in front. -/
theorem quantityText_spelling (hne : number ≠ 0) : ∃ first rest,
    quantityText number = utf8Bytes "0x" ++ first :: rest ∧ first ≠ 0x30 ∧
      ∀ byte ∈ first :: rest, 0x30 ≤ byte ∧ byte ≤ 0x39 ∨ 0x61 ≤ byte ∧ byte ≤ 0x66 := by
  have hlt : ∀ digit ∈ (Nat.digits 16 number).reverse, digit < 16 := fun digit hdigit =>
    Nat.digits_lt_base (by decide) (List.mem_reverse.mp hdigit)
  have hpos : Nat.digits 16 number ≠ [] := Nat.digits_ne_nil_iff_ne_zero.mpr hne
  have hlast := Nat.getLast_digit_ne_zero 16 hne
  cases hdigits : (Nat.digits 16 number).reverse with
  | nil => exact absurd (List.reverse_eq_nil_iff.mp hdigits) hpos
  | cons first rest =>
    rw [hdigits] at hlt
    have hfirst : first ≠ 0 := by
      have hhead : (Nat.digits 16 number).getLast hpos = first := by
        simp [← List.head_reverse, hdigits]
      rwa [hhead] at hlast
    refine ⟨spellDigit first, rest.map spellDigit, by rw [quantityText, hdigits, List.map_cons],
      fun hzero => ?_, fun byte hbyte => ?_⟩
    · have hspell := (spellDigit_spec first (hlt first List.mem_cons_self)).2.1
      rw [hzero] at hspell
      exact hfirst (by simpa using hspell.symm)
    · rw [← List.map_cons] at hbyte
      obtain ⟨digit, hdigit, rfl⟩ := List.mem_map.mp hbyte
      exact (spellDigit_spec digit (hlt digit hdigit)).2.2

end

/-! ## 5. What the two functions do -/

theorem stripHexPrefix_eq_some {bytes : List UInt8} :
    stripHexPrefix bytes = some raw ↔ bytes = utf8Bytes "0x" ++ raw := by
  have hfront : utf8Bytes "0x" = [0x30, 0x78] := by decide
  rw [hfront, stripHexPrefix.eq_def]
  split
  · rw [Option.some_inj, List.cons_append, List.cons_append, List.nil_append, List.cons_inj_right,
      List.cons_inj_right]
  · rename_i hother
    constructor
    · intro h
      cases h
    · intro h
      exact absurd h (hother raw)

variable {value : String}

theorem validateIntentText_eq_ok : validateIntentText value = .ok () ↔
    utf8Bytes value ≠ [] ∧ (utf8Bytes value).length ≤ MAX_AVAILABILITY_TEXT_BYTES ∧
      ∀ byte ∈ utf8Bytes value, 0x21 ≤ byte ∧ byte ≤ 0x7e := by
  rw [validateIntentText, validateAvailabilityText, failIf_eq_ok]
  simp only [not_or, not_not, not_lt, List.all_eq_true, Bool.and_eq_true, decide_eq_true_eq, ne_eq]

/-- The text with a zero in front of an odd number of digits. -/
def padded (raw : List UInt8) : List UInt8 := if raw.length % 2 = 0 then raw else 0x30 :: raw

theorem length_padded (raw : List UInt8) : (padded raw).length = raw.length + raw.length % 2 := by
  rw [padded]
  split
  · omega
  · rw [List.length_cons]
    omega

theorem hexValues_padded {number : Nat} :
    (∃ values, hexValues (padded raw) = some values ∧ numeral values = number) ↔
      ∃ values, hexValues raw = some values ∧ numeral values = number := by
  rw [padded]
  split
  · exact Iff.rfl
  · constructor
    · rintro ⟨values, hvalues, rfl⟩
      obtain ⟨zero, rest, hzero, hrest, rfl⟩ := hexValues_cons.mp hvalues
      cases hzero
      exact ⟨rest, hrest, (numeral_cons_zero rest).symm⟩
    · rintro ⟨values, hvalues, rfl⟩
      exact ⟨0 :: values, hexValues_cons.mpr ⟨0, values, rfl, hvalues, rfl⟩,
        numeral_cons_zero values⟩

/-- **When a quantity is accepted**, and as what. -/
theorem normalizeIntentHexQuantity_eq_ok {normalized : List UInt8} :
    normalizeIntentHexQuantity value = .ok normalized ↔ ∃ count number,
      HexQuantity (utf8Bytes value) count number ∧ 1 ≤ count ∧ count ≤ 64 ∧ number ≠ 0 ∧
        normalized = quantityText number := by
  have hfold : normalizeIntentHexQuantity value = (do
      validateIntentText value
      let raw ← okOr (stripHexPrefix (utf8Bytes value)) .invalidSelection
      failIf (raw = []) RuntimeMintJournalError.invalidSelection
      let decoded ← okOr (decodeIntentHex (padded raw)) .invalidSelection
      failIf (32 < decoded.length) RuntimeMintJournalError.invalidSelection
      let normalized := normalizeIntentHexQuantityBytes decoded
      failIf (normalized = utf8Bytes "0x0") RuntimeMintJournalError.invalidSelection
      pure normalized) := rfl
  have hspelled : ∀ bytes, normalizeIntentHexQuantityBytes bytes = utf8Bytes "0x0" ↔
      numeral (nibbles bytes) = 0 := by
    intro bytes
    rw [normalizeIntentHexQuantityBytes_eq]
    split
    · rename_i hzero
      exact ⟨fun _ => hzero, fun _ => rfl⟩
    · rename_i hne
      refine ⟨fun hsame => absurd hsame ?_, fun hzero => absurd hzero hne⟩
      obtain ⟨first, rest, hfirst, hnonzero, -⟩ := quantityText_spelling hne
      have hcut : utf8Bytes "0x0" = utf8Bytes "0x" ++ [0x30] := by decide
      rw [hfirst, hcut]
      intro hsame
      exact hnonzero (List.cons.inj (List.append_cancel_left hsame)).1
  rw [hfold]
  simp only [bind_eq_ok, exists_unit, validateIntentText_eq_ok, okOr_eq_ok, failIf_eq_ok,
    pure_eq_ok, stripHexPrefix_eq_some, hspelled]
  constructor
  · rintro ⟨-, raw, hraw, hne, decoded, hdecoded, hshort, hnonzero, rfl⟩
    have heven : (padded raw).length % 2 = 0 := by
      rw [length_padded]
      omega
    have hlen := length_decodeIntentHex hdecoded
    rw [length_padded] at hlen
    obtain ⟨values, hvalues, hnumber⟩ := hexValues_padded.mp
      ⟨_, hexValues_of_decodeIntentHex heven hdecoded, rfl⟩
    have hpos := List.length_pos_iff.mpr hne
    refine ⟨raw.length, numeral (nibbles decoded), ⟨raw, values, hraw, hvalues,
      length_hexValues hvalues, hnumber⟩, hpos, by omega, hnonzero, ?_⟩
    rw [normalizeIntentHexQuantityBytes_eq, if_neg hnonzero]
  · rintro ⟨count, number, ⟨raw, values, hraw, hvalues, rfl, hnumber⟩, hpos, hshort, hnonzero, rfl⟩
    rw [length_hexValues hvalues] at hpos hshort
    have heven : (padded raw).length % 2 = 0 := by
      rw [length_padded]
      omega
    obtain ⟨spread, hspread, hsame⟩ := hexValues_padded.mpr ⟨values, hvalues, hnumber⟩
    obtain ⟨decoded, hdecoded⟩ := exists_decodeIntentHex heven hspread
    have hdigits := hexValues_of_decodeIntentHex heven hdecoded
    rw [hspread, Option.some_inj] at hdigits
    have hlen := length_decodeIntentHex hdecoded
    rw [length_padded] at hlen
    have hfront : utf8Bytes "0x" = [0x30, 0x78] := by decide
    refine ⟨⟨?_, ?_, ?_⟩, raw, hraw, List.length_pos_iff.mp hpos, decoded, hdecoded, by omega, ?_, ?_⟩
    · rw [hraw, hfront]
      exact List.cons_ne_nil _ _
    · rw [hraw, hfront, List.length_append, MAX_AVAILABILITY_TEXT_BYTES]
      exact Nat.le_trans (Nat.add_le_add_left hshort 2) (by decide)
    · intro byte hbyte
      rw [hraw, hfront] at hbyte
      rcases List.mem_append.mp hbyte with hbyte | hbyte
      · rcases List.mem_pair.mp hbyte with rfl | rfl
        · exact ⟨by decide, by decide⟩
        · exact ⟨by decide, by decide⟩
      · exact printable_of_hexValues hvalues byte hbyte
    · rwa [← hdigits, hsame]
    · rw [normalizeIntentHexQuantityBytes_eq, ← hdigits, hsame, if_neg hnonzero]

theorem validateCanonicalIntentHexQuantity_eq_ok :
    validateCanonicalIntentHexQuantity value = .ok () ↔
      normalizeIntentHexQuantity value = .ok (utf8Bytes value) := by
  rw [validateCanonicalIntentHexQuantity]
  simp only [bind_eq_ok, failIf_eq_ok, not_not]
  constructor
  · rintro ⟨normalized, h, rfl⟩
    exact h
  · intro h
    exact ⟨_, h, rfl⟩

/-- The spelling of a number is as short as any text for it. -/
theorem length_digits_le {text : List UInt8} {count number : Nat}
    (h : HexQuantity text count number) : (Nat.digits 16 number).length ≤ count := by
  obtain ⟨raw, digits, -, hdigits, rfl, rfl⟩ := h
  rw [Nat.digits_length_le_iff (by decide)]
  exact numeral_lt (lt_of_mem_hexValues hdigits)

/-- A result is its own spelling. -/
theorem normalize_result {result : String}
    (h : normalizeIntentHexQuantity value = .ok (utf8Bytes result)) :
    normalizeIntentHexQuantity result = .ok (utf8Bytes result) := by
  obtain ⟨count, number, hvalue, -, hshort, hne, hresult⟩ := normalizeIntentHexQuantity_eq_ok.mp h
  have hdigits : 1 ≤ (Nat.digits 16 number).length :=
    List.length_pos_iff.mpr (Nat.digits_ne_nil_iff_ne_zero.mpr hne)
  have hspelled := hexQuantity_quantityText number
  rw [← hresult] at hspelled
  exact normalizeIntentHexQuantity_eq_ok.mpr ⟨_, number, hspelled, hdigits,
    Nat.le_trans (length_digits_le hvalue) hshort, hne, hresult⟩

/-! ## 6. The canonical spelling of a quantity -/

/-- **Quantities are accepted by their digits and spelled by their number.** -/
theorem hex_quantities :
    (∀ value, (∃ normalized, normalizeIntentHexQuantity value = .ok normalized) ↔
      ∃ count number, HexQuantity (utf8Bytes value) count number ∧ 1 ≤ count ∧ count ≤ 64 ∧
        1 ≤ number ∧ number ≤ 2 ^ 256 - 1) ∧
    (∀ value normalized count number, normalizeIntentHexQuantity value = .ok normalized →
      HexQuantity (utf8Bytes value) count number →
        (∃ count', HexQuantity normalized count' number) ∧
        ∃ first rest, normalized = utf8Bytes "0x" ++ first :: rest ∧ first ≠ 0x30 ∧
          ∀ byte ∈ first :: rest, 0x30 ≤ byte ∧ byte ≤ 0x39 ∨ 0x61 ≤ byte ∧ byte ≤ 0x66) ∧
    (∀ v w normalized normalized', normalizeIntentHexQuantity v = .ok normalized →
      normalizeIntentHexQuantity w = .ok normalized' →
        (normalized = normalized' ↔ ∃ number, (∃ count, HexQuantity (utf8Bytes v) count number) ∧
          ∃ count, HexQuantity (utf8Bytes w) count number)) ∧
    ∀ value, validateCanonicalIntentHexQuantity value = .ok () ↔
      ∃ w, normalizeIntentHexQuantity w = .ok (utf8Bytes value) := by
  refine ⟨fun value => ⟨?_, ?_⟩, ?_, ?_, fun value => ⟨?_, ?_⟩⟩
  · rintro ⟨normalized, h⟩
    obtain ⟨count, number, hvalue, hpos, hshort, hne, -⟩ := normalizeIntentHexQuantity_eq_ok.mp h
    have hnumber : number < 2 ^ 256 := by
      have hle : 16 ^ count ≤ 16 ^ 64 := Nat.pow_le_pow_right (by decide) hshort
      have hpow : 16 ^ 64 = 2 ^ 256 := by decide
      obtain ⟨raw, digits, -, hdigits, rfl, rfl⟩ := hvalue
      exact hpow ▸ Nat.lt_of_lt_of_le (numeral_lt (lt_of_mem_hexValues hdigits)) hle
    exact ⟨count, number, hvalue, hpos, hshort, Nat.one_le_iff_ne_zero.mpr hne,
      Nat.le_sub_one_of_lt hnumber⟩
  · rintro ⟨count, number, hvalue, hpos, hshort, hone, -⟩
    exact ⟨_, normalizeIntentHexQuantity_eq_ok.mpr ⟨count, number, hvalue, hpos, hshort,
      Nat.one_le_iff_ne_zero.mp hone, rfl⟩⟩
  · intro value normalized count number h hvalue
    obtain ⟨_, _, hvalue', -, -, hne, rfl⟩ := normalizeIntentHexQuantity_eq_ok.mp h
    obtain ⟨rfl, rfl⟩ := hvalue.unique hvalue'
    exact ⟨⟨_, hexQuantity_quantityText number⟩, quantityText_spelling hne⟩
  · intro v w normalized normalized' hv hw
    obtain ⟨_, number, hnumber, -, -, -, rfl⟩ := normalizeIntentHexQuantity_eq_ok.mp hv
    obtain ⟨_, number', hnumber', -, -, -, rfl⟩ := normalizeIntentHexQuantity_eq_ok.mp hw
    rw [quantityText_inj]
    constructor
    · rintro rfl
      exact ⟨number, ⟨_, hnumber⟩, ⟨_, hnumber'⟩⟩
    · rintro ⟨_, ⟨_, hboth⟩, ⟨_, hboth'⟩⟩
      exact (hnumber.unique hboth).2.trans (hboth'.unique hnumber').2
  · intro h
    exact ⟨value, validateCanonicalIntentHexQuantity_eq_ok.mp h⟩
  · rintro ⟨w, hw⟩
    exact validateCanonicalIntentHexQuantity_eq_ok.mpr (normalize_result hw)

theorem hex_quantities_ten : normalizeIntentHexQuantity "0x000A" = .ok (utf8Bytes "0xa") ∧
    validateCanonicalIntentHexQuantity "0xa" = .ok () := by
  have hnormalized : normalizeIntentHexQuantity "0x000A" = .ok (utf8Bytes "0xa") := by
    decide
  exact ⟨hnormalized, (hex_quantities.2.2.2 "0xa").mpr ⟨"0x000A", hnormalized⟩⟩

/-- The number one behind 64 zeros is refused, for the length of its text alone. -/
theorem long_quantity_refused :
    ¬∀ value, (∃ normalized, normalizeIntentHexQuantity value = .ok normalized) ↔
      ∃ count number, HexQuantity (utf8Bytes value) count number ∧ 1 ≤ count ∧
        (utf8Bytes value).length ≤ MAX_AVAILABILITY_TEXT_BYTES ∧
          1 ≤ number ∧ number ≤ 2 ^ 256 - 1 := by
  intro hall
  let value := "0x00000000000000000000000000000000000000000000000000000000000000001"
  let digits := List.replicate 64 0 ++ [1]
  have hrefused : normalizeIntentHexQuantity value = .error .invalidSelection := by decide
  have hquantity : HexQuantity (utf8Bytes value) 65 1 :=
    ⟨digits.map spellDigit, digits, by decide, by decide, rfl, by decide⟩
  obtain ⟨normalized, h⟩ := (hall value).mpr
    ⟨65, 1, hquantity, by decide, by decide, by decide, by decide⟩
  rw [hrefused] at h
  cases h

end ElastosRuntime.MintJournal
