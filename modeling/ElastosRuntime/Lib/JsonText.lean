/-
# The text of a JSON value

What a serializer writes without blanks: members and elements separated by commas, numbers in
decimal, and in a string a backslash before what cannot stand in it.  The digits of a float are left
to a parameter.

A string is escaped byte by byte as well (`quote_eq`).  So its text tells the string wherever it
stands (`quote_append_inj`), and limits that count the bytes of a text count what each byte of the
string takes in it (`length_quote`).
-/
import ElastosRuntime.Lib.Json
import ElastosRuntime.Lib.Text

/-- The digits that a float is written with. -/
class FloatText where
  floatText : UInt64 → List UInt8

namespace Json

/-! ## 1. Strings and numbers -/

def asciiBytes (chars : List Char) : List UInt8 := chars.map fun c => c.toNat.toUInt8

/-- A character as it stands in a string: control characters are escaped, all others but the quote
and the backslash stand for themselves. -/
def escape (c : Char) : List UInt8 :=
  if c = '"' then asciiBytes ['\\', '"']
  else if c = '\\' then asciiBytes ['\\', '\\']
  else if c.toNat = 0x08 then asciiBytes ['\\', 'b']
  else if c.toNat = 0x09 then asciiBytes ['\\', 't']
  else if c.toNat = 0x0a then asciiBytes ['\\', 'n']
  else if c.toNat = 0x0c then asciiBytes ['\\', 'f']
  else if c.toNat = 0x0d then asciiBytes ['\\', 'r']
  else if c.toNat < 0x20 then
    asciiBytes ['\\', 'u', '0', '0', Nat.digitChar (c.toNat / 16), Nat.digitChar (c.toNat % 16)]
  else utf8Bytes (String.singleton c)

def quote (s : String) : List UInt8 :=
  asciiBytes ['"'] ++ s.toList.flatMap escape ++ asciiBytes ['"']

def decimal (n : Nat) : List UInt8 := asciiBytes (Nat.toDigits 10 n)

section

variable [FloatText]

def numberText : JsonNumber → List UInt8
  | .posInt value => decimal value.toNat
  | .negInt value => asciiBytes ['-'] ++ decimal value.toInt.natAbs
  | .float bits => FloatText.floatText bits

/-! ## 2. Values -/

mutual

def compact : Json → List UInt8
  | .null => asciiBytes ['n', 'u', 'l', 'l']
  | .bool true => asciiBytes ['t', 'r', 'u', 'e']
  | .bool false => asciiBytes ['f', 'a', 'l', 's', 'e']
  | .number value => numberText value
  | .string value => quote value
  | .array elements => asciiBytes ['['] ++ elementsText elements ++ asciiBytes [']']
  | .object members => asciiBytes ['{'] ++ membersText members ++ asciiBytes ['}']

def elementsText : List Json → List UInt8
  | [] => []
  | [element] => compact element
  | element :: next :: rest => compact element ++ asciiBytes [','] ++ elementsText (next :: rest)

def membersText : List (String × Json) → List UInt8
  | [] => []
  | [(name, value)] => quote name ++ asciiBytes [':'] ++ compact value
  | (name, value) :: next :: rest =>
    quote name ++ asciiBytes [':'] ++ compact value ++ asciiBytes [','] ++ membersText (next :: rest)

end

end

section

variable [FloatText]

/-- The text of a member stands in the text of the object. -/
theorem compact_infix_object {name : String} {value : Json} :
    ∀ {members : List (String × Json)}, (name, value) ∈ members →
      compact value <:+: compact (.object members) := by
  have hmembers : ∀ {members : List (String × Json)}, (name, value) ∈ members →
      compact value <:+: membersText members := by
    intro members
    induction members with
    | nil => exact fun h => absurd h List.not_mem_nil
    | cons member rest ih =>
      intro h
      cases rest with
      | nil =>
        obtain rfl := List.mem_singleton.mp h
        exact (List.suffix_append _ _).isInfix
      | cons next rest =>
        rw [membersText]
        rcases List.mem_cons.mp h with rfl | h
        · refine List.IsInfix.trans ?_ (List.prefix_append _ _).isInfix
          exact List.IsInfix.trans (List.suffix_append _ _).isInfix
            (List.prefix_append _ _).isInfix
        · exact (ih h).trans (List.suffix_append _ _).isInfix
  intro members h
  rw [compact]
  exact (hmembers h).trans ((List.suffix_append _ _).isInfix.trans (List.prefix_append _ _).isInfix)

end

/-! ## 3. Members in the order of their names -/

def insertMember (member : String × Json) : List (String × Json) → List (String × Json)
  | [] => [member]
  | next :: rest =>
    if member.1 < next.1 then member :: next :: rest else next :: insertMember member rest

mutual

/-- The value with the members of every object in the order of their names. -/
def sorted : Json → Json
  | .array elements => .array (sortedElements elements)
  | .object members => .object (sortedMembers members)
  | value => value

def sortedElements : List Json → List Json
  | [] => []
  | element :: rest => sorted element :: sortedElements rest

def sortedMembers : List (String × Json) → List (String × Json)
  | [] => []
  | (name, value) :: rest => insertMember (name, sorted value) (sortedMembers rest)

end

/-! ## 4. Strings byte by byte -/

/-- A byte as it stands in a string. -/
def quotedByte (b : UInt8) : List UInt8 :=
  if b = 0x22 then [0x5c, 0x22]
  else if b = 0x5c then [0x5c, 0x5c]
  else if b = 0x08 then [0x5c, 0x62]
  else if b = 0x09 then [0x5c, 0x74]
  else if b = 0x0a then [0x5c, 0x6e]
  else if b = 0x0c then [0x5c, 0x66]
  else if b = 0x0d then [0x5c, 0x72]
  else if b < 0x20 then
    [0x5c, 0x75, 0x30, 0x30, (Nat.digitChar (b.toNat / 16)).toNat.toUInt8,
      (Nat.digitChar (b.toNat % 16)).toNat.toUInt8]
  else [b]

/-- The number of bytes that a text takes in a string. -/
def escapedLength (bytes : List UInt8) : Nat := (bytes.flatMap quotedByte).length

/-- A byte that stands for itself. -/
def plain (b : UInt8) : Bool := 0x20 ≤ b && b != 0x22 && b != 0x5c

theorem quotedByte_of_plain {b : UInt8} (h : plain b = true) : quotedByte b = [b] := by
  obtain ⟨⟨hlow, hquote⟩, hslash⟩ : (0x20 ≤ b ∧ b ≠ 0x22) ∧ b ≠ 0x5c := by
    simpa [plain] using h
  have hne : ∀ c : UInt8, c < 0x20 → b ≠ c := by
    rintro c hc rfl
    exact absurd hlow (UInt8.not_le.mpr hc)
  rw [quotedByte, if_neg hquote, if_neg hslash, if_neg (hne _ (by decide)),
    if_neg (hne _ (by decide)), if_neg (hne _ (by decide)), if_neg (hne _ (by decide)),
    if_neg (hne _ (by decide)), if_neg (UInt8.not_lt.mpr hlow)]

variable {bytes bytes' rest rest' : List UInt8}

theorem flatMap_quotedByte_of_plain (h : bytes.all plain = true) :
    bytes.flatMap quotedByte = bytes := by
  induction bytes with
  | nil => rfl
  | cons b bytes ih =>
    rw [List.all_cons, Bool.and_eq_true] at h
    rw [List.flatMap_cons, quotedByte_of_plain h.1, ih h.2, List.singleton_append]

theorem escapedLength_append (bytes bytes' : List UInt8) :
    escapedLength (bytes ++ bytes') = escapedLength bytes + escapedLength bytes' := by
  rw [escapedLength, List.flatMap_append, List.length_append, escapedLength, escapedLength]

theorem utf8Bytes_singleton (c : Char) : utf8Bytes (String.singleton c) = String.utf8EncodeChar c := by
  rw [utf8Bytes, String.toByteArray_singleton, List.utf8Encode_singleton, List.data_toByteArray]

/-- Every byte of a character outside ASCII stands for itself. -/
theorem utf8EncodeChar_all_plain {c : Char} (h : c.utf8Size ≠ 1) :
    (String.utf8EncodeChar c).all plain = true := by
  have hplain : ∀ a b : UInt8, 0x80 ≤ b → plain (a ||| b) = true := by
    intro a b hb
    have hor : b ≤ a ||| b := UInt8.le_iff_toNat_le.mpr (by
      rw [UInt8.toNat_or]
      exact Nat.right_le_or)
    have hhigh : 0x80 ≤ a ||| b := UInt8.le_trans hb hor
    have hne : ∀ d : UInt8, d < 0x80 → a ||| b ≠ d := by
      rintro d hd rfl
      exact absurd hhigh (UInt8.not_le.mpr hd)
    have hlow : (0x20 : UInt8) ≤ a ||| b := UInt8.le_trans (by decide) hhigh
    simp [plain, hlow, hne 0x22 (by decide), hne 0x5c (by decide)]
  have hbound := c.utf8Size_le_four
  have hpos := c.utf8Size_pos
  rcases (by omega : c.utf8Size = 2 ∨ c.utf8Size = 3 ∨ c.utf8Size = 4) with h | h | h
  · rw [String.utf8EncodeChar_eq_cons_cons h]
    simp only [List.all_cons, List.all_nil, hplain _ 0xc0 (by decide), hplain _ 0x80 (by decide),
      Bool.and_self]
  · rw [String.utf8EncodeChar_eq_cons_cons_cons h]
    simp only [List.all_cons, List.all_nil, hplain _ 0xe0 (by decide), hplain _ 0x80 (by decide),
      Bool.and_self]
  · rw [String.utf8EncodeChar_eq_cons_cons_cons_cons h]
    simp only [List.all_cons, List.all_nil, hplain _ 0xf0 (by decide), hplain _ 0x80 (by decide),
      Bool.and_self]

theorem escape_ofNat : ∀ n : Nat, n < 0x80 → escape (Char.ofNat n) = quotedByte n.toUInt8 := by
  decide

/-- A character is escaped as its bytes are. -/
theorem escape_eq (c : Char) : escape c = (String.utf8EncodeChar c).flatMap quotedByte := by
  by_cases hsize : c.utf8Size = 1
  · have hle : c.val ≤ 127 := Char.utf8Size_eq_one_iff.mp hsize
    have hlow : c.toNat < 0x80 := Nat.lt_succ_of_le (UInt32.le_iff_toNat_le.mp hle)
    have hescape := escape_ofNat c.toNat hlow
    rw [Char.ofNat_toNat] at hescape
    rw [hescape, String.utf8EncodeChar_eq_singleton hsize, List.flatMap_singleton]
    rfl
  · have hplain := utf8EncodeChar_all_plain hsize
    have hhigh : 0x80 ≤ c.toNat := by
      refine Nat.le_of_not_lt fun hlow => hsize (Char.utf8Size_eq_one_iff.mpr ?_)
      exact UInt32.le_iff_toNat_le.mpr (Nat.le_of_lt_succ hlow)
    have hne : ∀ d : Char, d.toNat < 0x80 → c ≠ d := by
      rintro d hd rfl
      omega
    rw [flatMap_quotedByte_of_plain hplain, escape, if_neg (hne _ (by decide)),
      if_neg (hne _ (by decide)), if_neg (by omega), if_neg (by omega), if_neg (by omega),
      if_neg (by omega), if_neg (by omega), if_neg (by omega), utf8Bytes_singleton]

theorem flatMap_escape (s : String) : s.toList.flatMap escape = (utf8Bytes s).flatMap quotedByte := by
  rw [Text.utf8Bytes_eq_flatMap, List.flatMap_assoc]
  exact congrArg (fun f => s.toList.flatMap f) (funext escape_eq)

/-- **A string is escaped byte by byte.** -/
theorem quote_eq (s : String) : quote s = 0x22 :: ((utf8Bytes s).flatMap quotedByte ++ [0x22]) := by
  rw [quote, flatMap_escape]
  rfl

theorem length_quote (s : String) : (quote s).length = escapedLength (utf8Bytes s) + 2 := by
  rw [quote_eq, List.length_cons, List.length_append, List.length_singleton, escapedLength]

theorem escapedLength_le (bytes : List UInt8) : escapedLength bytes ≤ 6 * bytes.length := by
  have hbyte : ∀ b, (quotedByte b).length ≤ 6 := by
    intro b
    unfold quotedByte
    split_ifs <;> simp only [List.length_cons, List.length_nil] <;> omega
  induction bytes with
  | nil => exact Nat.le_refl 0
  | cons b bytes ih =>
    have hb := hbyte b
    rw [escapedLength, List.flatMap_cons, List.length_append, List.length_cons]
    rw [escapedLength] at ih
    omega

theorem escapedLength_le_of_infix (h : bytes <:+: bytes') :
    escapedLength bytes ≤ escapedLength bytes' := by
  obtain ⟨before, after, rfl⟩ := h
  rw [escapedLength_append, escapedLength_append]
  omega

/-- A character of one byte that stands for itself. -/
def plainChar (c : Char) : Bool := 0x20 ≤ c.toNat && c.toNat < 0x80 && c != '"' && c != '\\'

theorem length_quote_of_plainChar {s : String} (h : ∀ c ∈ s.toList, plainChar c = true) :
    (quote s).length = s.toList.length + 2 := by
  have hchar : ∀ c, plainChar c = true → (escape c).length = 1 := by
    intro c hc
    simp only [plainChar, Bool.and_eq_true, decide_eq_true_eq, bne_iff_ne] at hc
    obtain ⟨⟨⟨hlow, hhigh⟩, hquote⟩, hslash⟩ := hc
    rw [escape, if_neg hquote, if_neg hslash, if_neg (by omega), if_neg (by omega),
      if_neg (by omega), if_neg (by omega), if_neg (by omega), if_neg (by omega),
      utf8Bytes_singleton, String.length_utf8EncodeChar, Char.utf8Size_eq_one_iff]
    exact UInt32.le_iff_toNat_le.mpr (Nat.le_of_lt_succ hhigh)
  have hflat : ∀ chars : List Char, (∀ c ∈ chars, plainChar c = true) →
      (chars.flatMap escape).length = chars.length := by
    intro chars hchars
    induction chars with
    | nil => rfl
    | cons c rest ih =>
      rw [List.flatMap_cons, List.length_append, hchar c (hchars c List.mem_cons_self),
        ih fun d hd => hchars d (List.mem_cons_of_mem _ hd), List.length_cons, Nat.add_comm]
  rw [quote, List.length_append, List.length_append, hflat s.toList h]
  simp only [asciiBytes, List.map_cons, List.map_nil, List.length_singleton]
  omega

/-! ## 5. The text of a string tells the string -/

/-- The bytes that are escaped. -/
def escapedBytes : List UInt8 := (List.range 0x20).map Nat.toUInt8 ++ [0x22, 0x5c]

theorem mem_escapedBytes {b : UInt8} (h : plain b = false) : b ∈ escapedBytes := by
  rcases UInt8.lt_or_le b 0x20 with hlow | hlow
  · have hrange : b.toNat ∈ List.range 0x20 := List.mem_range.mpr (UInt8.lt_iff_toNat_lt.mp hlow)
    refine List.mem_append_left _ (List.mem_map.mpr ⟨b.toNat, hrange, ?_⟩)
    rw [Nat.toUInt8_eq, UInt8.ofNat_toNat]
  · by_cases hquote : b = 0x22
    · rw [hquote]
      decide
    · have hslash : b = 0x5c := by simpa [plain, hlow, hquote] using h
      rw [hslash]
      decide

theorem escapedBytes_head :
    escapedBytes.all (fun b => (quotedByte b).head? == some 0x5c) = true := by
  decide

theorem escapedBytes_prefix : escapedBytes.all (fun b => escapedBytes.all fun c =>
    !(quotedByte b).isPrefixOf (quotedByte c) || b == c) = true := by
  decide

theorem quotedByte_cases (b : UInt8) : plain b = true ∧ quotedByte b = [b] ∧ b ≠ 0x5c ∧ b ≠ 0x22 ∨
    b ∈ escapedBytes ∧ ∃ rest, quotedByte b = 0x5c :: rest := by
  cases h : plain b with
  | true =>
    have hne : b ≠ 0x22 ∧ b ≠ 0x5c := by
      rw [plain, Bool.and_eq_true, Bool.and_eq_true, bne_iff_ne, bne_iff_ne] at h
      exact ⟨h.1.2, h.2⟩
    exact .inl ⟨rfl, quotedByte_of_plain h, hne.2, hne.1⟩
  | false =>
    have hmem := mem_escapedBytes h
    have hhead := eq_of_beq (List.all_eq_true.mp escapedBytes_head b hmem)
    obtain ⟨rest, hrest⟩ := List.head?_eq_some_iff.mp hhead
    exact .inr ⟨hmem, rest, hrest⟩

/-- An escaped byte is told wherever it stands. -/
theorem quotedByte_append_inj {b c : UInt8} (h : quotedByte b ++ rest = quotedByte c ++ rest') :
    b = c ∧ rest = rest' := by
  rcases quotedByte_cases b with ⟨-, hb, hslash, -⟩ | ⟨hb, s, hs⟩ <;>
    rcases quotedByte_cases c with ⟨-, hc, hslash', -⟩ | ⟨hc, t, ht⟩
  · rw [hb, hc] at h
    exact List.cons.inj h
  · rw [hb, ht] at h
    exact absurd (List.cons.inj h).1 hslash
  · rw [hs, hc] at h
    exact absurd (List.cons.inj h).1.symm hslash'
  · have heq : ∀ {b c : UInt8}, b ∈ escapedBytes → c ∈ escapedBytes →
        quotedByte b <+: quotedByte c → b = c := by
      intro b c hb hc hprefixed
      have hall := List.all_eq_true.mp (List.all_eq_true.mp escapedBytes_prefix b hb) c hc
      rw [List.isPrefixOf_iff_prefix.mpr hprefixed] at hall
      exact eq_of_beq hall
    have hbc : b = c := by
      rcases List.prefix_or_prefix_of_prefix (List.prefix_append _ rest)
        (h ▸ List.prefix_append _ rest') with hprefixed | hprefixed
      · exact heq hb hc hprefixed
      · exact (heq hc hb hprefixed).symm
    subst hbc
    exact ⟨rfl, List.append_cancel_left h⟩

theorem quotedByte_ne_quote {b : UInt8} : quotedByte b ++ rest ≠ 0x22 :: rest' := by
  intro h
  rcases quotedByte_cases b with ⟨-, hb, -, hquote⟩ | ⟨-, s, hs⟩
  · rw [hb] at h
    exact hquote (List.cons.inj h).1
  · rw [hs] at h
    exact absurd (List.cons.inj h).1 (by decide)

/-- **The text of a string tells the string**, wherever it stands. -/
theorem quote_append_inj {s t : String} (h : quote s ++ rest = quote t ++ rest') :
    s = t ∧ rest = rest' := by
  have hbytes : ∀ {bs cs : List UInt8}, bs.flatMap quotedByte ++ 0x22 :: rest =
      cs.flatMap quotedByte ++ 0x22 :: rest' → bs = cs ∧ rest = rest' := by
    intro bs
    induction bs with
    | nil =>
      intro cs h
      cases cs with
      | nil => exact ⟨rfl, (List.cons.inj h).2⟩
      | cons c cs =>
        rw [List.flatMap_cons, List.append_assoc] at h
        exact absurd h.symm quotedByte_ne_quote
    | cons b bs ih =>
      intro cs h
      cases cs with
      | nil =>
        rw [List.flatMap_cons, List.append_assoc] at h
        exact absurd h quotedByte_ne_quote
      | cons c cs =>
        rw [List.flatMap_cons, List.flatMap_cons, List.append_assoc, List.append_assoc] at h
        obtain ⟨rfl, htail⟩ := quotedByte_append_inj h
        obtain ⟨rfl, hrest⟩ := ih htail
        exact ⟨rfl, hrest⟩
  rw [quote_eq, quote_eq, List.cons_append, List.cons_append, List.append_assoc,
    List.append_assoc] at h
  obtain ⟨htext, hrest⟩ := hbytes (List.cons.inj h).2
  exact ⟨utf8Bytes_injective htext, hrest⟩

/-! ## 6. A text is UTF-8 -/

def IsText (bytes : List UInt8) : Prop := ∃ s : String, utf8Bytes s = bytes

theorem IsText.append (h : IsText bytes) (h' : IsText bytes') : IsText (bytes ++ bytes') := by
  obtain ⟨s, rfl⟩ := h
  obtain ⟨t, rfl⟩ := h'
  refine ⟨s ++ t, ?_⟩
  rw [Text.utf8Bytes_eq_flatMap, String.toList_append, List.flatMap_append,
    ← Text.utf8Bytes_eq_flatMap, ← Text.utf8Bytes_eq_flatMap]

theorem isText_asciiBytes {chars : List Char} (h : chars.all (fun c => c.toNat < 0x80) = true) :
    IsText (asciiBytes chars) := by
  have hascii : ∀ c ∈ (String.ofList chars).toList, c.toNat < 0x80 := by
    intro c hc
    rw [String.toList_ofList] at hc
    exact of_decide_eq_true (List.all_eq_true.mp h c hc)
  refine ⟨String.ofList chars, ?_⟩
  rw [Text.utf8Bytes_of_ascii hascii, String.toList_ofList]
  rfl

theorem isText_decimal (n : Nat) : IsText (decimal n) := by
  refine isText_asciiBytes (List.all_eq_true.mpr fun c hc => decide_eq_true ?_)
  have hdigit := Nat.isDigit_of_mem_toDigits (b := 10) (by decide) (by decide) hc
  simp only [Char.isDigit, Bool.and_eq_true, decide_eq_true_eq, UInt32.le_iff_toNat_le] at hdigit
  exact Nat.lt_of_le_of_lt hdigit.2 (by decide)

theorem isText_escape (c : Char) : IsText (escape c) := by
  have hdigit : ∀ n < 16, (Nat.digitChar n).toNat < 0x80 := by decide
  unfold escape
  split_ifs with _ _ _ _ _ _ _ hlow
  on_goal 8 =>
    refine isText_asciiBytes ?_
    simp only [List.all_cons, List.all_nil, hdigit (c.toNat / 16) (by omega),
      hdigit (c.toNat % 16) (by omega)]
    decide
  on_goal 8 => exact ⟨String.singleton c, rfl⟩
  all_goals exact isText_asciiBytes (by decide)

theorem isText_quote (s : String) : IsText (quote s) := by
  have hflat : ∀ chars : List Char, IsText (chars.flatMap escape) := by
    intro chars
    induction chars with
    | nil => exact ⟨"", rfl⟩
    | cons c rest ih => exact (isText_escape c).append ih
  exact ((isText_asciiBytes (by decide)).append (hflat s.toList)).append
    (isText_asciiBytes (by decide))

section

variable [FloatText]

theorem isText_numberText (h : ∀ bits, IsText (FloatText.floatText bits)) (value : JsonNumber) :
    IsText (numberText value) := by
  cases value with
  | posInt value => exact isText_decimal _
  | negInt value => exact (isText_asciiBytes (by decide)).append (isText_decimal _)
  | float bits => exact h bits

mutual

/-- **The text of a value is UTF-8.** -/
theorem isText_compact (h : ∀ bits, IsText (FloatText.floatText bits)) :
    ∀ value : Json, IsText value.compact
  | .null => isText_asciiBytes (by decide)
  | .bool true => isText_asciiBytes (by decide)
  | .bool false => isText_asciiBytes (by decide)
  | .number value => isText_numberText h value
  | .string value => isText_quote value
  | .array elements => ((isText_asciiBytes (by decide)).append
      (isText_elementsText h elements)).append (isText_asciiBytes (by decide))
  | .object members => ((isText_asciiBytes (by decide)).append
      (isText_membersText h members)).append (isText_asciiBytes (by decide))

theorem isText_elementsText (h : ∀ bits, IsText (FloatText.floatText bits)) :
    ∀ elements : List Json, IsText (elementsText elements)
  | [] => ⟨"", rfl⟩
  | [element] => isText_compact h element
  | element :: next :: rest => ((isText_compact h element).append
      (isText_asciiBytes (by decide))).append (isText_elementsText h (next :: rest))

theorem isText_membersText (h : ∀ bits, IsText (FloatText.floatText bits)) :
    ∀ members : List (String × Json), IsText (membersText members)
  | [] => ⟨"", rfl⟩
  | [(name, value)] => ((isText_quote name).append (isText_asciiBytes (by decide))).append
      (isText_compact h value)
  | (name, value) :: next :: rest => ((((isText_quote name).append
      (isText_asciiBytes (by decide))).append (isText_compact h value)).append
        (isText_asciiBytes (by decide))).append (isText_membersText h (next :: rest))

end

end

end Json
