/-
# A code of JSON values

A byte string for every JSON value, from which the value can be told wherever the string stands
(`encode_append_inj`), and in which the text of a member stands in full (`length_le_encode`).
Byte strings written in a row are read back by `decodeRow`.
-/
import ElastosRuntime.Lib.Bytes
import ElastosRuntime.Lib.Json

namespace Json

/-! ## 1. The code -/

/-- Bytes that say where they end. -/
def encodeBytes : List UInt8 → List UInt8
  | [] => [0]
  | b :: bs => 1 :: b :: encodeBytes bs

def encodeText (s : String) : List UInt8 := encodeBytes (utf8Bytes s)

def encodeNumber : JsonNumber → List UInt8
  | .posInt value => 0 :: encodeBytes (beBytes 8 value.toNat)
  | .negInt value => 1 :: encodeBytes (beBytes 8 value.toUInt64.toNat)
  | .float bits => 2 :: encodeBytes (beBytes 8 bits.toNat)

mutual

def encode : Json → List UInt8
  | .null => [0]
  | .bool value => [1, if value then 1 else 0]
  | .number value => 2 :: encodeNumber value
  | .string value => 3 :: encodeText value
  | .array elements => 4 :: encodeElements elements
  | .object members => 5 :: encodeMembers members

def encodeElements : List Json → List UInt8
  | [] => [0]
  | element :: elements => 1 :: (encode element ++ encodeElements elements)

def encodeMembers : List (String × Json) → List UInt8
  | [] => [0]
  | (name, value) :: members =>
    1 :: (encodeText name ++ (encode value ++ encodeMembers members))

end

/-! ## 2. The value can be told -/

variable {rest rest' : List UInt8}

theorem encodeBytes_append_inj {bs cs : List UInt8}
    (h : encodeBytes bs ++ rest = encodeBytes cs ++ rest') : bs = cs ∧ rest = rest' := by
  induction bs generalizing cs with
  | nil =>
    cases cs with
    | nil => exact ⟨rfl, List.tail_eq_of_cons_eq h⟩
    | cons c cs => exact absurd (List.head_eq_of_cons_eq h) (by decide)
  | cons b bs ih =>
    cases cs with
    | nil => exact absurd (List.head_eq_of_cons_eq h) (by decide)
    | cons c cs =>
      have htail := List.tail_eq_of_cons_eq h
      obtain ⟨rfl, hrest⟩ := ih (List.tail_eq_of_cons_eq htail)
      exact ⟨congrArg (· :: bs) (List.head_eq_of_cons_eq htail), hrest⟩

theorem encodeText_append_inj {s t : String} (h : encodeText s ++ rest = encodeText t ++ rest') :
    s = t ∧ rest = rest' := by
  obtain ⟨hbytes, hrest⟩ := encodeBytes_append_inj h
  have htext := congrArg ofUtf8Bytes? hbytes
  rw [ofUtf8Bytes?_utf8Bytes, ofUtf8Bytes?_utf8Bytes] at htext
  exact ⟨Option.some.inj htext, hrest⟩

theorem encodeWord_append_inj {v w : UInt64}
    (h : encodeBytes (beBytes 8 v.toNat) ++ rest = encodeBytes (beBytes 8 w.toNat) ++ rest') :
    v = w ∧ rest = rest' := by
  obtain ⟨hbytes, hrest⟩ := encodeBytes_append_inj h
  have hvalue := congrArg ofBeBytes hbytes
  rw [ofBeBytes_beBytes v.toNat_lt, ofBeBytes_beBytes w.toNat_lt] at hvalue
  exact ⟨UInt64.toNat_inj.mp hvalue, hrest⟩

theorem encodeNumber_append_inj {m n : JsonNumber}
    (h : encodeNumber m ++ rest = encodeNumber n ++ rest') : m = n ∧ rest = rest' := by
  cases m with
  | posInt v =>
    cases n with
    | posInt w =>
      have hword := encodeWord_append_inj (List.tail_eq_of_cons_eq h)
      exact hword.imp_left (congrArg JsonNumber.posInt)
    | negInt | float => exact absurd (List.head_eq_of_cons_eq h) (by decide)
  | negInt v =>
    cases n with
    | negInt w =>
      obtain ⟨hword, hrest⟩ := encodeWord_append_inj (List.tail_eq_of_cons_eq h)
      exact ⟨congrArg (fun value : UInt64 => JsonNumber.negInt value.toInt64) hword, hrest⟩
    | posInt | float => exact absurd (List.head_eq_of_cons_eq h) (by decide)
  | float v =>
    cases n with
    | float w =>
      have hword := encodeWord_append_inj (List.tail_eq_of_cons_eq h)
      exact hword.imp_left (congrArg JsonNumber.float)
    | posInt | negInt => exact absurd (List.head_eq_of_cons_eq h) (by decide)

mutual

/-- **The value can be told**, wherever the code stands. -/
theorem encode_append_inj : ∀ {a b : Json} {rest rest' : List UInt8},
    encode a ++ rest = encode b ++ rest' → a = b ∧ rest = rest'
  | .null, b, _, _, h => by
    cases b with
    | null => exact ⟨rfl, List.tail_eq_of_cons_eq h⟩
    | _ => exact absurd (List.head_eq_of_cons_eq h) (by decide)
  | .bool v, b, _, _, h => by
    cases b with
    | bool w =>
      have htail := List.tail_eq_of_cons_eq h
      have hvalue := List.head_eq_of_cons_eq htail
      refine ⟨congrArg Json.bool ?_, List.tail_eq_of_cons_eq htail⟩
      cases v <;> cases w <;> first | rfl | exact absurd hvalue (by decide)
    | _ => exact absurd (List.head_eq_of_cons_eq h) (by decide)
  | .number v, b, _, _, h => by
    cases b with
    | number w =>
      exact (encodeNumber_append_inj (List.tail_eq_of_cons_eq h)).imp_left (congrArg Json.number)
    | _ => exact absurd (List.head_eq_of_cons_eq h) (by decide)
  | .string v, b, _, _, h => by
    cases b with
    | string w =>
      exact (encodeText_append_inj (List.tail_eq_of_cons_eq h)).imp_left (congrArg Json.string)
    | _ => exact absurd (List.head_eq_of_cons_eq h) (by decide)
  | .array v, b, _, _, h => by
    cases b with
    | array w =>
      exact (encodeElements_append_inj (List.tail_eq_of_cons_eq h)).imp_left (congrArg Json.array)
    | _ => exact absurd (List.head_eq_of_cons_eq h) (by decide)
  | .object v, b, _, _, h => by
    cases b with
    | object w =>
      exact (encodeMembers_append_inj (List.tail_eq_of_cons_eq h)).imp_left (congrArg Json.object)
    | _ => exact absurd (List.head_eq_of_cons_eq h) (by decide)

theorem encodeElements_append_inj : ∀ {as bs : List Json} {rest rest' : List UInt8},
    encodeElements as ++ rest = encodeElements bs ++ rest' → as = bs ∧ rest = rest'
  | [], [], _, _, h => ⟨rfl, List.tail_eq_of_cons_eq h⟩
  | [], _ :: _, _, _, h => absurd (List.head_eq_of_cons_eq h) (by decide)
  | _ :: _, [], _, _, h => absurd (List.head_eq_of_cons_eq h) (by decide)
  | a :: as, b :: bs, _, _, h => by
    have htail : encode a ++ encodeElements as ++ _ = encode b ++ encodeElements bs ++ _ :=
      List.tail_eq_of_cons_eq h
    rw [List.append_assoc, List.append_assoc] at htail
    obtain ⟨rfl, hrest⟩ := encode_append_inj htail
    exact (encodeElements_append_inj hrest).imp_left (congrArg (a :: ·))

theorem encodeMembers_append_inj : ∀ {as bs : List (String × Json)} {rest rest' : List UInt8},
    encodeMembers as ++ rest = encodeMembers bs ++ rest' → as = bs ∧ rest = rest'
  | [], [], _, _, h => ⟨rfl, List.tail_eq_of_cons_eq h⟩
  | [], _ :: _, _, _, h => absurd (List.head_eq_of_cons_eq h) (by decide)
  | _ :: _, [], _, _, h => absurd (List.head_eq_of_cons_eq h) (by decide)
  | (k, a) :: as, (l, b) :: bs, _, _, h => by
    have htail : encodeText k ++ (encode a ++ encodeMembers as) ++ _ =
        encodeText l ++ (encode b ++ encodeMembers bs) ++ _ := List.tail_eq_of_cons_eq h
    simp only [List.append_assoc] at htail
    obtain ⟨rfl, hvalue⟩ := encodeText_append_inj htail
    obtain ⟨rfl, hrest⟩ := encode_append_inj hvalue
    exact (encodeMembers_append_inj hrest).imp_left (congrArg ((k, a) :: ·))

end

theorem encode_injective : Function.Injective encode := by
  intro a b h
  exact (encode_append_inj (congrArg (· ++ []) h)).1

/-! ## 3. A member stands in full -/

theorem length_le_encodeBytes (bytes : List UInt8) :
    bytes.length ≤ (encodeBytes bytes).length := by
  induction bytes with
  | nil => exact Nat.zero_le _
  | cons b bs ih => simp only [encodeBytes, List.length_cons]; omega

theorem length_le_encodeMembers {members : List (String × Json)} {name text : String}
    (h : members.lookup name = some (.string text)) :
    (utf8Bytes text).length ≤ (encodeMembers members).length := by
  induction members with
  | nil => cases h
  | cons member members ih =>
    rcases member with ⟨key, value⟩
    rw [List.lookup_cons] at h
    simp only [encodeMembers, List.length_cons, List.length_append]
    split at h
    · rw [Option.some.injEq] at h
      subst h
      have hlen := length_le_encodeBytes (utf8Bytes text)
      simp only [encode, encodeText, List.length_cons]
      omega
    · have hlen := ih h
      omega

theorem length_le_encode {value : Json} {name text : String}
    (h : value.getStr name = some text) : (utf8Bytes text).length ≤ (encode value).length := by
  cases value with
  | object members =>
    simp only [getStr, get, asObject, Option.bind_eq_bind, Option.bind_eq_some_iff] at h
    obtain ⟨member, ⟨_, hmembers, hlookup⟩, htext⟩ := h
    cases hmembers
    cases member with
    | string found =>
      cases htext
      exact (length_le_encodeMembers hlookup).trans (Nat.le_succ _)
    | _ => cases htext
  | _ => cases h

/-! ## 4. Byte strings in a row -/

/-- A byte that is neither 0, which ends a string, nor 1, which stands before these two, is
written as it is. -/
def escapeByte (b : UInt8) : List UInt8 := if b = 0 ∨ b = 1 then [1, b] else [b]

def encodeRow (fields : List (List UInt8)) : List UInt8 :=
  fields.flatMap fun field => field.flatMap escapeByte ++ [0]

/-- What has been read of a row: the fields and the present field, last read first, and whether the
last byte stands before another one. -/
structure RowState where
  fields : List (List UInt8)
  field : List UInt8
  escaped : Bool

def RowState.read (s : RowState) (b : UInt8) : RowState :=
  if s.escaped then { s with field := b :: s.field, escaped := false }
  else if b = 0 then { s with fields := s.field.reverse :: s.fields, field := [] }
  else if b = 1 then { s with escaped := true }
  else { s with field := b :: s.field }

def decodeRow (bytes : List UInt8) : Option (List (List UInt8)) :=
  let s := bytes.foldl RowState.read ⟨[], [], false⟩
  if s.escaped || !s.field.isEmpty then none else some s.fields.reverse

theorem foldl_read_field (fields : List (List UInt8)) (field : List UInt8) : ∀ read : List UInt8,
    (field.flatMap escapeByte).foldl RowState.read ⟨fields, read, false⟩ =
      ⟨fields, field.reverse ++ read, false⟩ := by
  induction field with
  | nil => exact fun read => rfl
  | cons b field ih =>
    intro read
    have hbyte : (escapeByte b).foldl RowState.read ⟨fields, read, false⟩ =
        ⟨fields, b :: read, false⟩ := by
      unfold escapeByte
      split
      · simp [RowState.read]
      · rename_i hplain
        simp only [not_or] at hplain
        simp [RowState.read, hplain]
    rw [List.flatMap_cons, List.foldl_append, hbyte, ih]
    simp

theorem foldl_read_row (fields : List (List UInt8)) : ∀ read : List (List UInt8),
    (encodeRow fields).foldl RowState.read ⟨read, [], false⟩ =
      ⟨fields.reverse ++ read, [], false⟩ := by
  induction fields with
  | nil => exact fun read => rfl
  | cons field fields ih =>
    intro read
    have hcons : encodeRow (field :: fields) =
        field.flatMap escapeByte ++ (0 :: encodeRow fields) := by simp [encodeRow]
    have hend : RowState.read ⟨read, field.reverse ++ [], false⟩ 0 =
        ⟨field :: read, [], false⟩ := by simp [RowState.read]
    rw [hcons, List.foldl_append, foldl_read_field, List.foldl_cons, hend, ih]
    simp

/-- **What is written in a row is read back.** -/
theorem decodeRow_encodeRow (fields : List (List UInt8)) :
    decodeRow (encodeRow fields) = some fields := by
  simp [decodeRow, foldl_read_row fields []]

end Json
