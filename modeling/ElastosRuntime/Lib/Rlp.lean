/-
# Recursive length prefixes

A byte string is written behind its length, a byte below 0x80 as itself, and a list of strings
behind the length of what its items come to.  A length below 56 is part of the tag; a longer one
stands behind the tag in as few bytes as it takes.

The reader accepts nothing else: a length that is longer than it need be, or a prefix before a
byte that needs none, is refused.  `decodeList_encodeList` reads a list back item by item, and
`eq_encodeList_of_decodeList` says that what is read is what would be written.
-/
import Mathlib.Data.Nat.Digits.Lemmas
import ElastosRuntime.Lib.Bytes

namespace Rlp

/-! ## 1. Integers without leading zeros -/

def trimmed (bytes : List UInt8) : List UInt8 := bytes.dropWhile (· == 0)

/-- Leading zeros do not count. -/
theorem ofBeBytes_trimmed (bs : List UInt8) : ofBeBytes (trimmed bs) = ofBeBytes bs := by
  induction bs with
  | nil => rfl
  | cons b bs ih =>
    rw [trimmed, List.dropWhile_cons]
    split
    · rename_i hb
      rw [beq_iff_eq.mp hb, ofBeBytes_cons_zero]
      exact ih
    · rfl

theorem head_trimmed (bs : List UInt8) : (trimmed bs).head? ≠ some 0 := by
  induction bs with
  | nil => exact Option.some_ne_none 0 ∘ Eq.symm
  | cons b bs ih =>
    rw [trimmed, List.dropWhile_cons]
    split
    · exact ih
    · rename_i hb
      intro hhead
      rw [List.head?_cons, Option.some.injEq] at hhead
      exact hb (beq_iff_eq.mpr hhead)

theorem length_trimmed_le (bs : List UInt8) : (trimmed bs).length ≤ bs.length :=
  (List.dropWhile_suffix _).length_le

/-- A number in as few bytes as it takes, eight at most. -/
def integer (n : Nat) : List UInt8 := trimmed (beBytes 8 n)

variable {n : Nat}

theorem ofBeBytes_integer (h : n < 2 ^ 64) : ofBeBytes (integer n) = n := by
  rw [integer, ofBeBytes_trimmed, ofBeBytes_beBytes h]

theorem length_integer_le (n : Nat) : (integer n).length ≤ 8 := by
  have hle := length_trimmed_le (beBytes 8 n)
  rwa [beBytes_length] at hle

theorem length_integer_pos (hpos : 0 < n) (h : n < 2 ^ 64) : 0 < (integer n).length := by
  rw [List.length_pos_iff]
  intro hnil
  have hzero := ofBeBytes_integer h
  rw [hnil] at hzero
  exact hpos.ne hzero

/-- A number in as few bytes as it takes. -/
def natBytes (n : Nat) : List UInt8 := (Nat.digits 256 n).reverse.map UInt8.ofNat

theorem ofLeBytes_map_ofNat {digits : List Nat} (h : ∀ d ∈ digits, d < 256) :
    ofLeBytes (digits.map UInt8.ofNat) = Nat.ofDigits 256 digits := by
  induction digits with
  | nil => rfl
  | cons d digits ih =>
    have hd : (UInt8.ofNat d).toNat = d := by
      rw [UInt8.toNat_ofNat']
      exact Nat.mod_eq_of_lt (h d List.mem_cons_self)
    rw [List.map_cons, ofLeBytes, ih fun e he => h e (List.mem_cons_of_mem _ he),
      Nat.ofDigits_cons, hd]

theorem ofBeBytes_natBytes (n : Nat) : ofBeBytes (natBytes n) = n := by
  rw [natBytes, ofBeBytes, ← List.map_reverse, List.reverse_reverse,
    ofLeBytes_map_ofNat fun _ hd => Nat.digits_lt_base (by decide) hd, Nat.ofDigits_digits]

theorem head_natBytes (n : Nat) : (natBytes n).head? ≠ some 0 := by
  intro hhead
  rw [natBytes, List.head?_map, List.head?_reverse, Option.map_eq_some_iff] at hhead
  obtain ⟨d, hlast, hzero⟩ := hhead
  have hne : Nat.digits 256 n ≠ [] := by
    intro hnil
    rw [hnil] at hlast
    cases hlast
  have hn : n ≠ 0 := Nat.digits_ne_nil_iff_ne_zero.mp hne
  rw [List.getLast?_eq_some_getLast hne, Option.some.injEq] at hlast
  have hlt : d < 256 := Nat.digits_lt_base (by decide) (hlast ▸ List.getLast_mem hne)
  have hpos : d ≠ 0 := hlast ▸ Nat.getLast_digit_ne_zero 256 hn
  have hvalue := congrArg UInt8.toNat hzero
  rw [UInt8.toNat_ofNat', Nat.mod_eq_of_lt hlt] at hvalue
  exact hpos hvalue

/-! ## 2. Writing -/

/-- What announces `n` bytes. -/
def lengthPrefix (n : Nat) (offset : UInt8) : List UInt8 :=
  if n < 56 then [offset + UInt8.ofNat n]
  else (offset + 55 + UInt8.ofNat (integer n).length) :: integer n

def encodeString (bytes : List UInt8) : List UInt8 :=
  match bytes with
  | [b] => if b < 0x80 then [b] else lengthPrefix 1 0x80 ++ [b]
  | _ => lengthPrefix bytes.length 0x80 ++ bytes

def encodeItems (items : List (List UInt8)) : List UInt8 := items.flatMap encodeString

def encodeList (items : List (List UInt8)) : List UInt8 :=
  lengthPrefix (encodeItems items).length 0xc0 ++ encodeItems items

/-! ## 3. Reading -/

/-- The first `n` bytes and the rest. -/
def splitAt? (n : Nat) (bytes : List UInt8) : Option (List UInt8 × List UInt8) :=
  if n ≤ bytes.length then some (bytes.take n, bytes.drop n) else none

variable {bytes rest : List UInt8}

theorem splitAt?_append : splitAt? bytes.length (bytes ++ rest) = some (bytes, rest) := by
  have hle : bytes.length ≤ (bytes ++ rest).length := by
    rw [List.length_append]
    omega
  rw [splitAt?, if_pos hle, List.take_left, List.drop_left]

/-- What the tag announces, of the kind that starts at the offset. -/
def decodePayload (offset : UInt8) : List UInt8 → Option (List UInt8 × List UInt8)
  | [] => none
  | tag :: rest =>
    if tag.toNat < offset.toNat then none
    else if tag.toNat ≤ offset.toNat + 55 then splitAt? (tag.toNat - offset.toNat) rest
    else if tag.toNat ≤ offset.toNat + 63 then do
      let (length, rest) ← splitAt? (tag.toNat - offset.toNat - 55) rest
      if length.head? = some 0 ∨ ofBeBytes length < 56 then none
      else splitAt? (ofBeBytes length) rest
    else none

def decodeString : List UInt8 → Option (List UInt8 × List UInt8)
  | [] => none
  | tag :: rest =>
    if tag < 0x80 then some ([tag], rest)
    else
      match decodePayload 0x80 (tag :: rest) with
      | some ([b], rest) => if b < 0x80 then none else some ([b], rest)
      | decoded => decoded

/-- Strings until nothing is left; every one takes a byte at least, so the number of bytes bounds
the number of rounds. -/
def decodeStrings : Nat → List UInt8 → Option (List (List UInt8))
  | _, [] => some []
  | 0, _ :: _ => none
  | fuel + 1, bytes => do
    let (item, rest) ← decodeString bytes
    let items ← decodeStrings fuel rest
    some (item :: items)

def decodeList (bytes : List UInt8) : Option (List (List UInt8)) :=
  match decodePayload 0xc0 bytes with
  | some (payload, []) => decodeStrings payload.length payload
  | _ => none

/-! ## 4. What was written is read back -/

/-- **The announced bytes are found behind the prefix**, in either of its forms. -/
theorem decodePayload_lengthPrefix (rest : List UInt8) {offset : UInt8}
    (hoffset : offset.toNat ≤ 0xc0) (hlen : bytes.length < 2 ^ 64) :
    decodePayload offset (lengthPrefix bytes.length offset ++ bytes ++ rest) =
      some (bytes, rest) := by
  rw [lengthPrefix]
  split
  · rename_i hshort
    have htag : (offset + UInt8.ofNat bytes.length).toNat = offset.toNat + bytes.length := by
      rw [UInt8.toNat_add, UInt8.toNat_ofNat']
      omega
    rw [List.append_assoc, List.singleton_append, decodePayload, htag, if_neg (by omega),
      if_pos (by omega), Nat.add_sub_cancel_left]
    exact splitAt?_append
  · rename_i hlong
    have hpos := length_integer_pos (by omega) hlen
    have hle := length_integer_le bytes.length
    have htag : (offset + 55 + UInt8.ofNat (integer bytes.length).length).toNat =
        offset.toNat + 55 + (integer bytes.length).length := by
      rw [UInt8.toNat_add, UInt8.toNat_add, UInt8.toNat_ofNat']
      have h55 : (55 : UInt8).toNat = 55 := rfl
      omega
    have hcanonical : ¬((integer bytes.length).head? = some 0 ∨
        ofBeBytes (integer bytes.length) < 56) := by
      rw [not_or, ofBeBytes_integer hlen]
      exact ⟨head_trimmed _, hlong⟩
    rw [List.append_assoc, List.cons_append, decodePayload, htag, if_neg (by omega),
      if_neg (by omega), if_pos (by omega)]
    have hwidth : offset.toNat + 55 + (integer bytes.length).length - offset.toNat - 55 =
        (integer bytes.length).length := by omega
    rw [hwidth, splitAt?_append, Option.bind_eq_bind, Option.bind_some]
    refine (if_neg hcanonical).trans ?_
    rw [ofBeBytes_integer hlen]
    exact splitAt?_append

theorem head_lengthPrefix {offset : UInt8} (hoffset : offset.toNat ≤ 0xc0) :
    ∃ tag rest, lengthPrefix n offset = tag :: rest ∧ offset.toNat ≤ tag.toNat := by
  rw [lengthPrefix]
  split
  · refine ⟨_, [], rfl, ?_⟩
    rw [UInt8.toNat_add, UInt8.toNat_ofNat']
    omega
  · have hle := length_integer_le n
    refine ⟨_, _, rfl, ?_⟩
    rw [UInt8.toNat_add, UInt8.toNat_add, UInt8.toNat_ofNat']
    have h55 : (55 : UInt8).toNat = 55 := rfl
    omega

/-- A string that does not stand for itself. -/
theorem decodeString_lengthPrefix (hlen : bytes.length < 2 ^ 64)
    (hlong : ∀ b, bytes = [b] → ¬b < 0x80) :
    decodeString (lengthPrefix bytes.length 0x80 ++ bytes ++ rest) = some (bytes, rest) := by
  obtain ⟨tag, tail, htag, hle⟩ := @head_lengthPrefix bytes.length 0x80 (by decide)
  have hpayload := @decodePayload_lengthPrefix bytes rest 0x80 (by decide) hlen
  have hnot : ¬tag < 0x80 := by
    rw [UInt8.lt_iff_toNat_lt]
    exact Nat.not_lt.mpr hle
  rw [htag, List.append_assoc, List.cons_append] at hpayload ⊢
  rw [decodeString, if_neg hnot, hpayload]
  split
  · rename_i b rest' heq
    rw [Option.some.injEq, Prod.mk.injEq] at heq
    rw [if_neg (hlong b heq.1), heq.1, heq.2]
  · rfl

theorem decodeString_encodeString (rest : List UInt8) (hlen : bytes.length < 2 ^ 64) :
    decodeString (encodeString bytes ++ rest) = some (bytes, rest) := by
  unfold encodeString
  split
  · rename_i b
    split
    · rename_i hb
      rw [List.singleton_append, decodeString, if_pos hb]
    · rename_i hb
      refine @decodeString_lengthPrefix [b] _ hlen ?_
      rintro c ⟨⟩
      exact hb
  · rename_i hne
    exact decodeString_lengthPrefix hlen fun b hb => absurd hb (hne b)

theorem encodeString_ne_nil (bytes : List UInt8) : encodeString bytes ≠ [] := by
  have hlead : ∀ n : Nat, lengthPrefix n 0x80 ≠ [] := by
    intro n
    rw [lengthPrefix]
    split <;> exact List.cons_ne_nil _ _
  unfold encodeString
  split
  · split
    · exact List.cons_ne_nil _ _
    · exact List.append_ne_nil_of_left_ne_nil (hlead 1) _
  · exact List.append_ne_nil_of_left_ne_nil (hlead _) _

variable {items : List (List UInt8)}

/-- By induction on the items: each round reads one of them. -/
theorem decodeStrings_encodeItems (hlen : ∀ item ∈ items, item.length < 2 ^ 64) (fuel : Nat)
    (hfuel : (encodeItems items).length ≤ fuel) :
    decodeStrings fuel (encodeItems items) = some items := by
  induction items generalizing fuel with
  | nil =>
    cases fuel <;> rfl
  | cons item items ih =>
    have hitems : encodeItems (item :: items) = encodeString item ++ encodeItems items :=
      List.flatMap_cons
    have hpos : 0 < (encodeString item).length :=
      List.length_pos_iff.mpr (encodeString_ne_nil item)
    rw [hitems] at hfuel ⊢
    rw [List.length_append] at hfuel
    obtain ⟨n, rfl⟩ : ∃ n, fuel = n + 1 := ⟨fuel - 1, by omega⟩
    obtain ⟨first, tail, hfirst⟩ :=
      List.exists_cons_of_ne_nil (encodeString_ne_nil item)
    have hread := decodeString_encodeString (encodeItems items)
      (hlen item List.mem_cons_self)
    have hrest := ih (fun i hi => hlen i (List.mem_cons_of_mem _ hi)) n (by omega)
    rw [hfirst, List.cons_append] at hread ⊢
    rw [decodeStrings, hread, Option.bind_eq_bind, Option.bind_some]
    · exact Option.bind_eq_some_iff.mpr ⟨items, hrest, rfl⟩
    · exact List.cons_ne_nil _ _

/-- **A list is read back item by item.** -/
theorem decodeList_encodeList (hlen : (encodeItems items).length < 2 ^ 64) :
    decodeList (encodeList items) = some items := by
  have hpayload := @decodePayload_lengthPrefix (encodeItems items) [] 0xc0 (by decide) hlen
  rw [List.append_nil] at hpayload
  rw [decodeList, encodeList, hpayload]
  refine decodeStrings_encodeItems (fun item hitem => ?_) _ (Nat.le_refl _)
  refine lt_of_le_of_lt ?_ hlen
  have hitem_le : item.length ≤ (encodeString item).length := by
    unfold encodeString
    split
    · split
      · exact Nat.le_refl _
      · rw [List.length_append]
        omega
    · rw [List.length_append]
      omega
  refine hitem_le.trans ?_
  obtain ⟨before, after, rfl⟩ := List.append_of_mem hitem
  rw [encodeItems, List.flatMap_append, List.flatMap_cons, List.length_append,
    List.length_append]
  omega

/-! ## 5. Nothing else is read -/

/-- Bytes that do not start with a zero are the ones their number takes. -/
theorem trimmed_eq_self (h : bytes.head? ≠ some 0) : trimmed bytes = bytes := by
  cases bytes with
  | nil => rfl
  | cons b bytes =>
    have hb : (b == 0) = false := by
      rw [beq_eq_false_iff_ne]
      rintro rfl
      exact h rfl
    rw [trimmed, List.dropWhile_cons, hb]
    rfl

theorem trimmed_replicate_append (n : Nat) (bytes : List UInt8) :
    trimmed (List.replicate n 0 ++ bytes) = trimmed bytes := by
  induction n with
  | zero => rfl
  | succ n ih =>
    rw [List.replicate_succ, List.cons_append, trimmed, List.dropWhile_cons, if_pos (by rfl)]
    exact ih

/-- **A number has one spelling without leading zeros.** -/
theorem eq_of_ofBeBytes_eq {others : List UInt8} (hbytes : bytes.head? ≠ some 0)
    (hothers : others.head? ≠ some 0)
    (h : ofBeBytes bytes = ofBeBytes others) : bytes = others := by
  -- both are padded to one width, where a number has one spelling
  have hlen : (List.replicate (others.length - bytes.length) 0 ++ bytes).length =
      (List.replicate (bytes.length - others.length) 0 ++ others).length := by
    rw [List.length_append, List.length_append, List.length_replicate, List.length_replicate]
    omega
  have hvalue : ofBeBytes (List.replicate (others.length - bytes.length) 0 ++ bytes) =
      ofBeBytes (List.replicate (bytes.length - others.length) 0 ++ others) := by
    rw [ofBeBytes_replicate_append, ofBeBytes_replicate_append, h]
  have hpadded := (beBytes_ofBeBytes hlen).symm.trans
    ((congrArg _ hvalue).trans (beBytes_ofBeBytes rfl))
  have htrimmed := congrArg trimmed hpadded
  rwa [trimmed_replicate_append, trimmed_replicate_append, trimmed_eq_self hbytes,
    trimmed_eq_self hothers] at htrimmed

theorem trimmed_eq_natBytes (bytes : List UInt8) :
    trimmed bytes = natBytes (ofBeBytes bytes) :=
  eq_of_ofBeBytes_eq (head_trimmed _) (head_natBytes _)
    ((ofBeBytes_trimmed _).trans (ofBeBytes_natBytes _).symm)

theorem integer_eq_natBytes (h : n < 2 ^ 64) : integer n = natBytes n := by
  rw [integer, trimmed_eq_natBytes, ofBeBytes_beBytes h]

/-- What stands for a number of at most eight bytes is what would be written for it. -/
theorem integer_ofBeBytes (hlen : bytes.length ≤ 8) (hhead : bytes.head? ≠ some 0) :
    integer (ofBeBytes bytes) = bytes := by
  refine eq_of_ofBeBytes_eq (head_trimmed _) hhead (ofBeBytes_integer ?_)
  refine (ofBeBytes_lt rfl).trans_le ?_
  have h256 : (2 : Nat) ^ 64 = 256 ^ 8 := by decide
  rw [h256]
  exact Nat.pow_le_pow_right (by decide) hlen

theorem splitAt?_eq_some {first : List UInt8} (h : splitAt? n bytes = some (first, rest)) :
    bytes = first ++ rest ∧ first.length = n := by
  rw [splitAt?] at h
  split at h
  · next hle =>
    rw [Option.some.injEq, Prod.mk.injEq] at h
    obtain ⟨rfl, rfl⟩ := h
    exact ⟨(List.take_append_drop n bytes).symm, List.length_take_of_le hle⟩
  · cases h

/-- The prefix of what is read is the one its length has. -/
theorem eq_of_decodePayload {offset : UInt8} {payload : List UInt8} (hoffset : offset.toNat ≤ 0xc0)
    (h : decodePayload offset bytes = some (payload, rest)) :
    bytes = lengthPrefix payload.length offset ++ payload ++ rest := by
  cases bytes with
  | nil => cases h
  | cons tag tail =>
    rw [decodePayload] at h
    split at h
    · cases h
    · next hle =>
      split at h
      · next hshort =>
        obtain ⟨rfl, hlen⟩ := splitAt?_eq_some h
        have htag : tag = offset + UInt8.ofNat payload.length := by
          rw [← UInt8.toNat_inj, UInt8.toNat_add, UInt8.toNat_ofNat']
          omega
        rw [lengthPrefix, if_pos (by omega), htag]
        rfl
      · next hlong =>
        split at h
        · next hwide =>
          obtain ⟨⟨length, tail'⟩, hlength, hread⟩ := Option.bind_eq_some_iff.mp h
          obtain ⟨rfl, hwidth⟩ := splitAt?_eq_some hlength
          dsimp only at hread
          split at hread
          · cases hread
          · next hcanonical =>
            rw [not_or] at hcanonical
            obtain ⟨rfl, hlen⟩ := splitAt?_eq_some hread
            have hinteger : integer payload.length = length := by
              rw [hlen]
              exact integer_ofBeBytes (by omega) hcanonical.1
            have htag : tag = offset + 55 + UInt8.ofNat length.length := by
              have h55 : (55 : UInt8).toNat = 55 := rfl
              rw [← UInt8.toNat_inj, UInt8.toNat_add, UInt8.toNat_add, UInt8.toNat_ofNat']
              omega
            rw [lengthPrefix, if_neg (by omega), hinteger, htag, List.append_assoc,
              List.cons_append]
        · cases h

theorem eq_of_decodeString {item : List UInt8} (h : decodeString bytes = some (item, rest)) :
    bytes = encodeString item ++ rest := by
  cases bytes with
  | nil => cases h
  | cons tag tail =>
    rw [decodeString] at h
    split at h
    · next htag =>
      rw [Option.some.injEq, Prod.mk.injEq] at h
      obtain ⟨rfl, rfl⟩ := h
      rw [encodeString, if_pos htag]
      rfl
    · split at h
      · next b rest' hpayload =>
        split at h
        · cases h
        · next hb =>
          rw [Option.some.injEq, Prod.mk.injEq] at h
          obtain ⟨rfl, rfl⟩ := h
          rw [encodeString, if_neg hb]
          exact eq_of_decodePayload (by decide) hpayload
      · next hno =>
        have hpayload := eq_of_decodePayload (by decide) h
        rw [hpayload]
        unfold encodeString
        split
        · next b => exact absurd h (hno b rest)
        · rfl

/-- By induction on the rounds: what one of them reads is one written item. -/
theorem eq_of_decodeStrings {fuel : Nat} (h : decodeStrings fuel bytes = some items) :
    bytes = encodeItems items := by
  induction fuel generalizing bytes items with
  | zero =>
    cases bytes with
    | nil =>
      rw [decodeStrings, Option.some.injEq] at h
      rw [← h]
      rfl
    | cons tag tail => cases h
  | succ fuel ih =>
    cases bytes with
    | nil =>
      rw [decodeStrings, Option.some.injEq] at h
      rw [← h]
      rfl
    | cons tag tail =>
      obtain ⟨⟨item, rest⟩, hitem, h⟩ := Option.bind_eq_some_iff.mp h
      obtain ⟨items', hitems, h⟩ := Option.bind_eq_some_iff.mp h
      rw [Option.some.injEq] at h
      rw [← h, eq_of_decodeString hitem, ih hitems]
      exact List.flatMap_cons.symm

/-- **What is read is what would be written**: a list has one spelling. -/
theorem eq_encodeList_of_decodeList (h : decodeList bytes = some items) :
    bytes = encodeList items := by
  rw [decodeList] at h
  split at h
  · next payload hpayload =>
    have hbytes := eq_of_decodePayload (by decide) hpayload
    have hitems := eq_of_decodeStrings h
    rw [hbytes, List.append_nil, hitems]
    rfl
  · cases h

end Rlp
