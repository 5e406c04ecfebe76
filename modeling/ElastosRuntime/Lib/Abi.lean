/-
# The contract ABI's heads and tails

How a list of values is laid out in the data of a contract call: each value has a slot of one word
in the head, which holds the value itself if its type is static, and otherwise the offset of its
encoding among the tails behind the head.  Offsets count from the beginning of the list they stand
in, so an array's elements are a list of their own.

The values of a type are all in its range.  The decoder follows offsets wherever they lead, as a
contract does, and does not ask that the tails be in order; what it reads from an encoding is what
was encoded, so two lists of values of the same types never have the same encoding.
-/
import ElastosRuntime.Lib.Bytes

namespace Abi

/-! ## 1. Types and values -/

inductive Ty where
  | uint (bits : Nat) (h : bits ≤ 256)
  | address
  | fixedBytes (size : Nat) (h : size ≤ 32)
  | bytes
  | string
  | array (element : Ty)
deriving DecidableEq

/-- The values of a type. -/
def Ty.Val : Ty → Type
  | uint bits _ => { n : Nat // n < 2 ^ bits }
  | address => { n : Nat // n < 2 ^ 160 }
  | fixedBytes size _ => Bytes size
  | bytes => List UInt8
  | string => String
  | array element => List element.Val

/-- A value with its type. -/
abbrev Datum := Σ T : Ty, T.Val

/-! ## 2. The encoding -/

def word (n : Nat) : List UInt8 := beBytes 32 n

/-- Zeros behind the bytes, up to a whole number of words. -/
def padded (bs : List UInt8) : List UInt8 := bs ++ List.replicate ((32 - bs.length % 32) % 32) 0

/-- A length and that many bytes. -/
def blob (bs : List UInt8) : List UInt8 := word bs.length ++ padded bs

/-- One entry of a list: what stands in its slot, or behind the head. -/
inductive Part where
  | inline (slot : Bytes 32)
  | tail (bs : List UInt8)

/-- The slots, the first tail beginning at `offset`. -/
def heads : Nat → List Part → List UInt8
  | _, [] => []
  | offset, .inline slot :: parts => slot.toList ++ heads offset parts
  | offset, .tail bs :: parts => word offset ++ heads (offset + bs.length) parts

def tails : List Part → List UInt8
  | [] => []
  | .inline _ :: parts => tails parts
  | .tail bs :: parts => bs ++ tails parts

def layout (parts : List Part) : List UInt8 := heads (32 * parts.length) parts ++ tails parts

def slotOf (n : Nat) : Bytes 32 := ⟨word n, beBytes_length 32 n⟩

def part : (T : Ty) → T.Val → Part
  | .uint _ _, n => .inline (slotOf n.1)
  | .address, n => .inline (slotOf n.1)
  | .fixedBytes size h, bs => .inline ⟨bs.toList ++ List.replicate (32 - size) 0, by
      rw [List.length_append, Bytes.length_toList bs, List.length_replicate]
      omega⟩
  | .bytes, bs => .tail (blob bs)
  | .string, s => .tail (blob (utf8Bytes s))
  | .array T, vs => .tail (word (List.length vs) ++ layout (List.map (part T) vs))

/-- The encoding of a list of values, such as a call's arguments. -/
def encode (data : List Datum) : List UInt8 := layout (data.map fun d => part d.1 d.2)

/-! ## 3. The decoder -/

def readWord (data : List UInt8) : Option Nat :=
  if 32 ≤ data.length then some (ofBeBytes (data.take 32)) else none

def readBlob (data : List UInt8) : Option (List UInt8) := do
  let length ← readWord data
  if 32 + length ≤ data.length then some ((data.drop 32).take length) else none

def readBounded (bound : Nat) (data : List UInt8) : Option { n : Nat // n < bound } := do
  let n ← readWord data
  if h : n < bound then some ⟨n, h⟩ else none

def readFixed (size : Nat) (data : List UInt8) : Option (Bytes size) :=
  if h : (data.take size).length = size ∧ (data.drop size).take (32 - size) =
      List.replicate (32 - size) 0 then some ⟨data.take size, h.1⟩ else none

/-- What the slot's word points at. -/
def follow (base slot : List UInt8) : Option (List UInt8) := do
  let offset ← readWord slot
  if offset ≤ base.length then some (base.drop offset) else none

/-- So many entries, each read at its slot. -/
def readSlots {α : Type} (read : List UInt8 → Option α) : Nat → List UInt8 → Option (List α)
  | 0, _ => some []
  | k + 1, slots => do
    let v ← read slots
    let vs ← readSlots read k (slots.drop 32)
    some (v :: vs)

/-- The value whose slot stands first in `slots`, offsets counting from `base`. -/
def read : (T : Ty) → (base slots : List UInt8) → Option T.Val
  | .uint bits _, _, slots => readBounded (2 ^ bits) slots
  | .address, _, slots => readBounded (2 ^ 160) slots
  | .fixedBytes size _, _, slots => readFixed size slots
  | .bytes, base, slots => follow base slots >>= readBlob
  | .string, base, slots => follow base slots >>= readBlob >>= ofUtf8Bytes?
  | .array T, base, slots => do
    let data ← follow base slots
    let length ← readWord data
    readSlots (read T (data.drop 32)) length (data.drop 32)

def readAll : List Ty → (base slots : List UInt8) → Option (List Datum)
  | [], _, _ => some []
  | T :: types, base, slots => do
    let v ← read T base slots
    let rest ← readAll types base (slots.drop 32)
    some (⟨T, v⟩ :: rest)

def decode (types : List Ty) (data : List UInt8) : Option (List Datum) := readAll types data data

/-! ## 4. What stands in a layout -/

@[simp] theorem word_length (n : Nat) : (word n).length = 32 := beBytes_length 32 n

theorem heads_length (parts : List Part) (offset : Nat) :
    (heads offset parts).length = 32 * parts.length := by
  induction parts generalizing offset with
  | nil => rfl
  | cons p parts ih =>
    cases p with
    | inline slot =>
      rw [heads, List.length_append, ih, Bytes.length_toList, List.length_cons]
      omega
    | tail bs =>
      rw [heads, List.length_append, ih, word_length, List.length_cons]
      omega

theorem heads_append (before after : List Part) (offset : Nat) :
    heads offset (before ++ after) =
      heads offset before ++ heads (offset + (tails before).length) after := by
  induction before generalizing offset with
  | nil => rfl
  | cons p before ih =>
    cases p with
    | inline slot => rw [List.cons_append, heads, heads, tails, ih, List.append_assoc]
    | tail bs =>
      rw [List.cons_append, heads, heads, tails, ih, List.append_assoc, List.length_append,
        Nat.add_assoc]

theorem tails_append (before after : List Part) :
    tails (before ++ after) = tails before ++ tails after := by
  induction before with
  | nil => rfl
  | cons p before ih =>
    cases p with
    | inline slot => rw [List.cons_append, tails, tails, ih]
    | tail bs => rw [List.cons_append, tails, tails, ih, List.append_assoc]

theorem layout_length (parts : List Part) :
    (layout parts).length = 32 * parts.length + (tails parts).length := by
  rw [layout, List.length_append, heads_length]

/-- A list without tails is its slots. -/
theorem layout_inline {α : Type} (f : α → Nat) (values : List α) :
    layout (values.map fun a => .inline (slotOf (f a))) = values.flatMap fun a => word (f a) := by
  have htails : tails (values.map fun a => .inline (slotOf (f a))) = [] := by
    induction values with
    | nil => rfl
    | cons a values ih => rw [List.map_cons, tails, ih]
  have hheads : ∀ offset, heads offset (values.map fun a => .inline (slotOf (f a))) =
      values.flatMap fun a => word (f a) := by
    intro offset
    clear htails
    induction values with
    | nil => rfl
    | cons a values ih =>
      rw [List.map_cons, heads, ih, List.flatMap_cons]
      rfl
  rw [layout, htails, hheads, List.append_nil]

/-- An array of numbers is its length and its numbers. -/
theorem part_array (T : Ty) (f : T.Val → Nat) (hpart : ∀ v, part T v = .inline (slotOf (f v)))
    (vs : List T.Val) :
    part (.array T) vs = .tail (word vs.length ++ vs.flatMap fun v => word (f v)) := by
  have hmap : List.map (part T) vs = vs.map fun v => .inline (slotOf (f v)) :=
    List.map_congr_left fun v _ => hpart v
  change Part.tail (word vs.length ++ layout (List.map (part T) vs)) = _
  rw [hmap, layout_inline]

/-- The entry whose slot stands first in `slots`, its tail, if it has one, being found in `base`. -/
def Holds (base slots : List UInt8) : Part → Prop
  | .inline slot => ∃ rest, slots = slot.toList ++ rest
  | .tail bs => ∃ offset others rest, slots = word offset ++ others ∧ offset ≤ base.length ∧
      base.drop offset = bs ++ rest

/-- **Each entry of a list is found at its own slot.** -/
theorem holds_layout (before : List Part) (p : Part) (after : List Part) (rest : List UInt8) :
    Holds (layout (before ++ p :: after) ++ rest)
      ((layout (before ++ p :: after) ++ rest).drop (32 * before.length)) p := by
  have hslots : (layout (before ++ p :: after) ++ rest).drop (32 * before.length) =
      heads (32 * (before ++ p :: after).length + (tails before).length) (p :: after) ++
        (tails (before ++ p :: after) ++ rest) := by
    rw [layout, heads_append, List.append_assoc, List.append_assoc]
    exact List.drop_left' (heads_length before _)
  cases p with
  | inline slot =>
    rw [hslots, heads, List.append_assoc]
    exact ⟨_, rfl⟩
  | tail bs =>
    -- The tail begins behind all slots and the tails of the entries before it.
    have htail : (layout (before ++ .tail bs :: after) ++ rest).drop
        (32 * (before ++ .tail bs :: after).length + (tails before).length) =
        bs ++ (tails after ++ rest) := by
      rw [layout, tails_append, tails, List.append_assoc, List.append_assoc, List.append_assoc,
        ← List.append_assoc (heads _ _)]
      refine List.drop_left' ?_
      rw [List.length_append, heads_length]
    refine ⟨_, _, _, hslots.trans (List.append_assoc _ _ _), ?_, htail⟩
    simp only [List.length_append, layout_length, tails_append]
    omega

/-! ## 5. What was encoded is read back -/

theorem readWord_word {n : Nat} (h : n < 2 ^ 256) (rest : List UInt8) :
    readWord (word n ++ rest) = some n := by
  have hfits : n < 256 ^ 32 := h
  rw [readWord, if_pos (by rw [List.length_append, word_length]; omega),
    List.take_left' (word_length n), word, ofBeBytes_beBytes hfits]

variable {bs base slots : List UInt8}

theorem readBlob_blob (h : bs.length < 2 ^ 256) (rest : List UInt8) :
    readBlob (blob bs ++ rest) = some bs := by
  rw [readBlob, blob, List.append_assoc, readWord_word h, Option.bind_eq_bind, Option.bind_some,
    List.drop_left' (word_length _), padded, List.append_assoc, List.take_left, if_pos]
  rw [List.length_append, word_length, List.length_append]
  omega

theorem readBounded_word {bound n : Nat} (hbound : bound ≤ 2 ^ 256) (h : n < bound)
    (rest : List UInt8) : readBounded bound (word n ++ rest) = some ⟨n, h⟩ := by
  rw [readBounded, readWord_word (Nat.lt_of_lt_of_le h hbound), Option.bind_eq_bind,
    Option.bind_some, dif_pos h]

theorem readFixed_padded {size : Nat} (bs : Bytes size) (rest : List UInt8) :
    readFixed size (bs.toList ++ List.replicate (32 - size) 0 ++ rest) = some bs := by
  have hlength := Bytes.length_toList bs
  have htake : (bs.toList ++ List.replicate (32 - size) 0 ++ rest).take size = bs.toList := by
    rw [List.append_assoc, List.take_left' hlength]
  have hzeros : ((bs.toList ++ List.replicate (32 - size) 0 ++ rest).drop size).take (32 - size) =
      List.replicate (32 - size) 0 := by
    rw [List.append_assoc, List.drop_left' hlength, List.take_left' List.length_replicate]
  have htaken : (⟨_, (congrArg List.length htake).trans hlength⟩ : Bytes size) = bs :=
    Subtype.ext htake
  rw [readFixed, dif_pos ⟨(congrArg List.length htake).trans hlength, hzeros⟩, htaken]

theorem follow_of_holds (hbase : base.length < 2 ^ 256) (h : Holds base slots (.tail bs)) :
    ∃ rest, follow base slots = some (bs ++ rest) ∧
      (bs ++ rest).length ≤ base.length := by
  obtain ⟨offset, others, rest, rfl, hoffset, hdrop⟩ := h
  refine ⟨rest, ?_, ?_⟩
  · rw [follow, readWord_word (Nat.lt_of_le_of_lt hoffset hbase), Option.bind_eq_bind,
      Option.bind_some, if_pos hoffset, hdrop]
  · rw [← hdrop, List.length_drop]
    exact Nat.sub_le _ _

theorem length_le_of_blob {rest : List UInt8} (h : (blob bs ++ rest).length ≤ base.length) :
    bs.length ≤ base.length := by
  rw [blob, padded, List.length_append, List.length_append, List.length_append] at h
  omega

/-- A list is read if each of its entries is, at its own slot. -/
theorem readSlots_of_forall {α : Type} {read : List UInt8 → Option α} {vs : List α}
    (h : ∀ before v after, vs = before ++ v :: after → read (slots.drop (32 * before.length)) =
      some v) :
    readSlots read vs.length slots = some vs := by
  induction vs generalizing slots with
  | nil => rfl
  | cons v vs ih =>
    have hrest : readSlots read vs.length (slots.drop 32) = some vs := by
      refine ih fun before w after hsplit => ?_
      have hw := h (v :: before) w after (by rw [hsplit, List.cons_append])
      rw [List.drop_drop]
      rwa [List.length_cons, Nat.mul_add, Nat.mul_one, Nat.add_comm] at hw
    rw [List.length_cons, readSlots, show read slots = some v from h [] v vs rfl,
      Option.bind_eq_bind, Option.bind_some, hrest, Option.bind_eq_bind, Option.bind_some]

theorem readAll_of_forall {data : List Datum}
    (h : ∀ before d after, data = before ++ d :: after → read d.1 base (slots.drop (32 *
      before.length)) = some d.2) :
    readAll (data.map Sigma.fst) base slots = some data := by
  induction data generalizing slots with
  | nil => rfl
  | cons d data ih =>
    have hrest : readAll (data.map Sigma.fst) base (slots.drop 32) = some data := by
      refine ih fun before e after hsplit => ?_
      have he := h (d :: before) e after (by rw [hsplit, List.cons_append])
      rw [List.drop_drop]
      rwa [List.length_cons, Nat.mul_add, Nat.mul_one, Nat.add_comm] at he
    rw [List.map_cons, readAll, show read d.1 base slots = some d.2 from h [] d data rfl,
      Option.bind_eq_bind, Option.bind_some, hrest, Option.bind_eq_bind, Option.bind_some]

/-- **A value is read where it stands.** -/
theorem read_of_holds (hbase : base.length < 2 ^ 256) {T : Ty} {v : T.Val}
    (h : Holds base slots (part T v)) : read T base slots = some v := by
  induction T generalizing base slots with
  | uint bits hbits =>
    obtain ⟨rest, rfl⟩ := h
    exact readBounded_word (Nat.pow_le_pow_right Nat.two_pos hbits) v.2 rest
  | address =>
    obtain ⟨rest, rfl⟩ := h
    exact readBounded_word (by decide) v.2 rest
  | fixedBytes size hsize =>
    obtain ⟨rest, rfl⟩ := h
    exact readFixed_padded v rest
  | bytes =>
    change List UInt8 at v
    obtain ⟨rest, hfollow, hlength⟩ := follow_of_holds hbase h
    rw [read, hfollow]
    refine (Option.bind_some _ readBlob).trans ?_
    exact readBlob_blob (Nat.lt_of_le_of_lt (length_le_of_blob hlength) hbase) rest
  | string =>
    change String at v
    obtain ⟨rest, hfollow, hlength⟩ := follow_of_holds hbase h
    have hread : readBlob (blob (utf8Bytes v) ++ rest) = some (utf8Bytes v) :=
      readBlob_blob (Nat.lt_of_le_of_lt (length_le_of_blob hlength) hbase) rest
    rw [read, hfollow, Option.bind_eq_bind, Option.bind_eq_bind, Option.bind_some, hread]
    exact (Option.bind_some _ ofUtf8Bytes?).trans (ofUtf8Bytes?_utf8Bytes v)
  | array T ih =>
    change List T.Val at v
    obtain ⟨rest, hfollow, hlength⟩ := follow_of_holds hbase h
    rw [List.append_assoc] at hfollow hlength
    rw [List.length_append, word_length] at hlength
    have hcount : v.length < 2 ^ 256 := by
      rw [List.length_append, layout_length, List.length_map] at hlength
      omega
    -- The elements are a list of their own, behind the length.
    have hslots : readSlots (read T (layout (v.map (part T)) ++ rest)) v.length
        (layout (v.map (part T)) ++ rest) = some v := by
      refine readSlots_of_forall fun before w after hsplit => ih (by omega) ?_
      rw [hsplit, List.map_append, List.map_cons, ← List.length_map (part T)]
      exact holds_layout _ _ _ rest
    rw [read, hfollow, Option.bind_eq_bind, Option.bind_some, readWord_word hcount,
      Option.bind_eq_bind, Option.bind_some, List.drop_left' (word_length _), hslots]
    rfl

/-- **A list of values is read back from its encoding**, whatever stands behind it. -/
theorem decode_encode {data : List Datum} {rest : List UInt8}
    (h : (encode data ++ rest).length < 2 ^ 256) :
    decode (data.map Sigma.fst) (encode data ++ rest) = some data := by
  refine readAll_of_forall fun before d after hsplit => read_of_holds h ?_
  rw [encode, hsplit, List.map_append, List.map_cons,
    ← List.length_map fun d : Datum => part d.1 d.2]
  exact holds_layout _ _ _ rest

/-- **Values of the same types with the same encoding are the same.** -/
theorem encode_injective {data others : List Datum} (hlt : (encode data).length < 2 ^ 256)
    (htypes : data.map Sigma.fst = others.map Sigma.fst) (h : encode data = encode others) :
    data = others := by
  have hread : decode (data.map Sigma.fst) (encode data ++ []) = some data :=
    decode_encode (by rwa [List.append_nil])
  have hother : decode (others.map Sigma.fst) (encode others ++ []) = some others :=
    decode_encode (by rwa [List.append_nil, ← h])
  rw [htypes, h] at hread
  exact Option.some.inj (hread.symm.trans hother)

end Abi
