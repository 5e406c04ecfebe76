/-
# Base 58

A byte string as text in the alphabet that leaves out `0`, `O`, `I` and `l`: the digits of the
number the bytes denote, and a `1` in front for every zero byte the string starts with.  What is
written is read back (`decode_encode`), and the leading digits of a long number are those of its
leading part (`digits_eq_append`).
-/
import ElastosRuntime.Lib.Bytes
import Mathlib.Data.List.TakeWhile
import Mathlib.Data.Nat.Digits.Lemmas

namespace Base58

/-! ## 1. Writing and reading -/

def alphabet : List Char :=
  ['1', '2', '3', '4', '5', '6', '7', '8', '9', 'A', 'B', 'C', 'D', 'E', 'F', 'G', 'H', 'J', 'K',
    'L', 'M', 'N', 'P', 'Q', 'R', 'S', 'T', 'U', 'V', 'W', 'X', 'Y', 'Z', 'a', 'b', 'c', 'd', 'e',
    'f', 'g', 'h', 'i', 'j', 'k', 'm', 'n', 'o', 'p', 'q', 'r', 's', 't', 'u', 'v', 'w', 'x', 'y',
    'z']

def digitChar (digit : Nat) : Char := alphabet.getD digit '1'

def digitValue (c : Char) : Option Nat := alphabet.findIdx? (· == c)

def encode (bytes : List UInt8) : List Char :=
  (List.replicate (bytes.takeWhile (· == 0)).length 0 ++
    (Nat.digits 58 (ofBeBytes bytes)).reverse).map digitChar

def decode (chars : List Char) : Option (List UInt8) := do
  let digits ← chars.mapM digitValue
  some (List.replicate (digits.takeWhile (· == 0)).length 0 ++
    (Nat.digits 256 (Nat.ofDigits 58 digits.reverse)).reverse.map UInt8.ofNat)

/-! ## 2. What is written is read back -/

theorem digitValue_digitChar {digit : Nat} (h : digit < 58) :
    digitValue (digitChar digit) = some digit := by
  revert digit
  decide

theorem digitChar_mem_alphabet (digit : Nat) : digitChar digit ∈ alphabet := by
  rw [digitChar, List.getD_eq_getElem?_getD]
  cases h : alphabet[digit]? with
  | none => decide
  | some c => exact List.mem_of_getElem? h

theorem mapM_digitValue {digits : List Nat} (h : ∀ digit ∈ digits, digit < 58) :
    (digits.map digitChar).mapM digitValue = some digits := by
  induction digits with
  | nil => rfl
  | cons digit digits ih =>
    rw [List.map_cons, List.mapM_cons, digitValue_digitChar (h digit List.mem_cons_self),
      ih fun d hd => h d (List.mem_cons_of_mem _ hd)]
    rfl

/-- A list is the zeros in front of it and what stands behind them. -/
theorem eq_replicate_append {α : Type} [BEq α] [LawfulBEq α] (zero : α) (l : List α) :
    l = List.replicate (l.takeWhile (· == zero)).length zero ++ l.dropWhile (· == zero) := by
  have hzeros : l.takeWhile (· == zero) =
      List.replicate (l.takeWhile (· == zero)).length zero :=
    List.eq_replicate_iff.mpr ⟨rfl, fun a ha =>
      eq_of_beq (List.mem_takeWhile_imp (p := (· == zero)) ha)⟩
  calc l = l.takeWhile (· == zero) ++ l.dropWhile (· == zero) :=
        List.takeWhile_append_dropWhile.symm
    _ = _ := congrArg (· ++ l.dropWhile (· == zero)) hzeros

theorem ofLeBytes_eq_ofDigits (bytes : List UInt8) :
    ofLeBytes bytes = Nat.ofDigits 256 (bytes.map UInt8.toNat) := by
  induction bytes with
  | nil => rfl
  | cons b bytes ih => rw [ofLeBytes, List.map_cons, Nat.ofDigits_cons, ih]

/-- The number of a byte string that starts with no zero has the bytes as its digits. -/
theorem digits_ofBeBytes {bytes : List UInt8} (h : bytes.head? ≠ some 0) :
    (Nat.digits 256 (ofBeBytes bytes)).reverse.map UInt8.ofNat = bytes := by
  rw [ofBeBytes, ofLeBytes_eq_ofDigits, Nat.digits_ofDigits 256 (by decide)]
  · rw [← List.map_reverse, List.reverse_reverse, List.map_map]
    exact (List.map_congr_left fun b _ => UInt8.ofNat_toNat).trans (List.map_id bytes)
  · intro digit hdigit
    obtain ⟨b, -, rfl⟩ := List.mem_map.mp hdigit
    exact b.toNat_lt
  · intro hne hlast
    cases bytes with
    | nil => exact hne rfl
    | cons b bytes =>
      refine h (congrArg some ?_)
      rw [List.getLast_map, List.getLast_reverse] at hlast
      exact UInt8.toNat_inj.mp hlast

/-- **What is written is read back.** -/
theorem decode_encode (bytes : List UInt8) : decode (encode bytes) = some bytes := by
  set zeros := (bytes.takeWhile (· == 0)).length with hzeros
  set rest := bytes.dropWhile (· == 0) with hrest
  have hbytes : bytes = List.replicate zeros 0 ++ rest := eq_replicate_append 0 bytes
  have hnumber : ofBeBytes bytes = ofBeBytes rest := by
    rw [hbytes, ofBeBytes_replicate_append]
  have hhead : rest.head? ≠ some 0 := by
    intro h
    have hnot := List.head?_dropWhile_not (fun b : UInt8 => b == 0) bytes
    rw [← hrest, h] at hnot
    cases hnot
  have hdigits : ((Nat.digits 58 (ofBeBytes rest)).reverse.takeWhile (· == 0)) = [] := by
    rcases Nat.eq_zero_or_pos (ofBeBytes rest) with hzero | hpos
    · rw [hzero, Nat.digits_zero]
      rfl
    · have hlast := Nat.getLast_digit_ne_zero 58 hpos.ne'
      have hne := Nat.digits_ne_nil_iff_ne_zero (b := 58).mpr hpos.ne'
      rw [List.takeWhile_eq_nil_iff]
      intro h
      rw [List.get_eq_getElem, List.getElem_zero, List.head_reverse]
      simpa using hlast
  have hlt : ∀ digit ∈ List.replicate zeros 0 ++ (Nat.digits 58 (ofBeBytes rest)).reverse,
      digit < 58 := by
    intro digit hdigit
    rcases List.mem_append.mp hdigit with hdigit | hdigit
    · rw [List.eq_of_mem_replicate hdigit]
      decide
    · exact Nat.digits_lt_base (by decide) (List.mem_reverse.mp hdigit)
  rw [decode, encode, ← hzeros, hnumber, mapM_digitValue hlt]
  change some _ = _
  rw [List.takeWhile_append_of_pos (fun d hd => by rw [List.eq_of_mem_replicate hd]; rfl), hdigits,
    List.append_nil, List.length_replicate, List.reverse_append, List.reverse_reverse,
    List.reverse_replicate, Nat.ofDigits_append_replicate_zero, Nat.ofDigits_digits,
    digits_ofBeBytes hhead, ← hbytes]

/-! ## 3. Leading digits -/

/-- The digits of a number are its last `k` digits and those of what is left without them. -/
theorem digits_eq_append {b : Nat} (hb : 1 < b) : ∀ {k n : Nat}, n / b ^ k ≠ 0 →
    ∃ low, low.length = k ∧ (∀ digit ∈ low, digit < b) ∧
      Nat.digits b n = low ++ Nat.digits b (n / b ^ k)
  | 0, n, _ => ⟨[], rfl, by simp, by rw [pow_zero, Nat.div_one, List.nil_append]⟩
  | k + 1, n, h => by
    have hdiv : n / b ^ (k + 1) = n / b / b ^ k := by rw [pow_succ', Nat.div_div_eq_div_mul]
    rw [hdiv] at h ⊢
    obtain ⟨low, hlength, hlow, hdigits⟩ := digits_eq_append hb h
    have hpos : 0 < n := Nat.pos_of_ne_zero fun hn => h (by rw [hn, Nat.zero_div, Nat.zero_div])
    refine ⟨n % b :: low, by rw [List.length_cons, hlength], ?_, ?_⟩
    · intro digit hdigit
      rcases List.mem_cons.mp hdigit with rfl | hdigit
      · exact Nat.mod_lt n (by omega)
      · exact hlow digit hdigit
    · rw [Nat.digits_def' hb hpos, hdigits, List.cons_append]

end Base58
