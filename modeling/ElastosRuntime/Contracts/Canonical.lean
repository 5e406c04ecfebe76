/-
# Canonical contracts

The one signed and hashed representation of every protected-content record (`canonical.rs`): its
domain, a zero byte, and its fields in a fixed order.  `CanonicalBody` is the source's trait.  A
record brings its own check, its own writer and its own reader, and `canonicalBytes` and
`fromCanonicalBytes` wrap them the same way for all.

The reader re-encodes what it decoded and compares, so `reencode` holds of every record, whatever
its writer and reader do.  The other direction does not come for free: it needs the two to agree,
which is the obligation `LawfulBody`, discharged record by record, and `roundTrip` is what
follows.
-/
import ElastosRuntime.Lib.Codec
import ElastosRuntime.Primitives

namespace ElastosRuntime.Contracts

open Codec

/-! ## 1. Errors -/

/-- Why a record was refused. -/
inductive ContractError where
  | wrongDomain
  | unexpectedEnd
  | trailingBytes
  | invalidUtf8 (field : String)
  | invalidField (field : String)
  | fieldTooLong (field : String)
deriving DecidableEq, Repr

/-- `if bad { return Err(e) }` -/
def rejectIf (bad : Prop) [Decidable bad] (e : ContractError) : Except ContractError Unit :=
  if bad then .error e else .ok ()

@[simp] theorem rejectIf_eq_ok {bad : Prop} [Decidable bad] {e : ContractError} :
    rejectIf bad e = .ok () ↔ ¬bad := by
  unfold rejectIf
  split <;> simp_all

variable {α : Type}

theorem forM_eq_ok {f : α → Except ContractError Unit} {l : List α} :
    l.forM f = .ok () ↔ ∀ a ∈ l, f a = .ok () := by
  induction l with
  | nil => exact ⟨fun _ _ h => (List.not_mem_nil h).elim, fun _ => rfl⟩
  | cons a l ih =>
    have hcons : (a :: l).forM f = (f a >>= fun _ => l.forM f) := rfl
    rw [hcons, bind_eq_ok, List.forall_mem_cons, ← ih]
    exact ⟨fun ⟨_, ha, hl⟩ => ⟨ha, hl⟩, fun ⟨ha, hl⟩ => ⟨(), ha, hl⟩⟩

/-- `Self::new` of a record: assemble it, validate it, return it. -/
def build {α : Type} (validate : α → Except ContractError Unit) (value : α) :
    Except ContractError α := do
  validate value
  pure value

theorem build_eq {validate : α → Except ContractError Unit} {value : α}
    (h : validate value = .ok ()) : build validate value = .ok value :=
  bind_eq_ok.mpr ⟨(), h, rfl⟩

/-- Between 1 and `maximum` printable ASCII characters. -/
def validateAsciiIdentifier (value field : String) (maximum : Nat) :
    Except ContractError Unit := do
  rejectIf (utf8Bytes value = []) (.invalidField field)
  rejectIf (maximum < (utf8Bytes value).length) (.fieldTooLong field)
  rejectIf (¬(utf8Bytes value).all fun byte => 0x21 ≤ byte && byte ≤ 0x7e) (.invalidField field)

variable {maximum n : Nat}

variable {field s : String}

theorem length_le_of_validateAsciiIdentifier {value : String}
    (h : validateAsciiIdentifier value field maximum = .ok ()) :
    (utf8Bytes value).length ≤ maximum := by
  obtain ⟨⟨⟩, _, h⟩ := bind_eq_ok.mp h
  obtain ⟨⟨⟩, hlen, _⟩ := bind_eq_ok.mp h
  exact Nat.le_of_not_lt (rejectIf_eq_ok.mp hlen)

/-! ## 2. The encoder -/

abbrev Encoder := ByteWriter ContractError

namespace Encoder

def fixed {n : Nat} (bytes : Bytes n) : Encoder Unit := put bytes.toList

def u8 (value : UInt8) : Encoder Unit := put [value]

def u16 (value : UInt16) : Encoder Unit := put (beBytes 2 value.toNat)

def u32 (value : UInt32) : Encoder Unit := put (beBytes 4 value.toNat)

def u64 (value : UInt64) : Encoder Unit := put (beBytes 8 value.toNat)

/-- A byte string behind its length in two bytes. -/
def bytes (value : List UInt8) : Encoder Unit := do
  rejectIf (65535 < value.length) (.fieldTooLong "canonical byte string")
  u16 (UInt16.ofNat value.length)
  put value

def string (value : String) : Encoder Unit := bytes (utf8Bytes value)

end Encoder

/-! ## 3. The decoder

The source keeps the whole input and a cursor; here the state is what lies behind the cursor. -/

abbrev Decoder := ByteReader ContractError

namespace Decoder

def take (length : Nat) : Decoder (List UInt8) := Codec.take .unexpectedEnd length

def fixed (n : Nat) : Decoder (Bytes n) := do
  let bs ← take n
  liftM (if h : bs.length = n then .ok ⟨bs, h⟩ else .error .unexpectedEnd :
    Except ContractError (Bytes n))

def u8 : Decoder UInt8 := do
  let bs ← fixed 1
  pure bs.head

def u16 : Decoder UInt16 := do
  let bs ← fixed 2
  pure (UInt16.ofNat (ofBeBytes bs.toList))

def u32 : Decoder UInt32 := do
  let bs ← fixed 4
  pure (UInt32.ofNat (ofBeBytes bs.toList))

def u64 : Decoder UInt64 := do
  let bs ← fixed 8
  pure (UInt64.ofNat (ofBeBytes bs.toList))

def bytes (field : String) (maximum : Nat) : Decoder (List UInt8) := do
  let length ← u16
  rejectIf (maximum < length.toNat) (.fieldTooLong field)
  take length.toNat

/-- `String::from_utf8`, naming the field that does not spell a string. -/
def fromUtf8 (field : String) (bs : List UInt8) : Except ContractError String :=
  match ofUtf8Bytes? bs with
  | some s => .ok s
  | none => .error (.invalidUtf8 field)

def string (field : String) (maximum : Nat) : Decoder String := do
  let bs ← bytes field maximum
  fromUtf8 field bs

end Decoder

/-! ## 4. The trait -/

/-- A record with a domain, a check, a writer of its fields and a reader of them. -/
class CanonicalBody (α : Type) where
  DOMAIN : String
  validate : α → Except ContractError Unit
  encodeFields : α → Encoder Unit
  decodeFields : Decoder α

/-- What `Encoder::new` writes: the domain and a zero byte. -/
def domainHeader (domain : String) : List UInt8 := utf8Bytes domain ++ [0]

/-- `Decoder::new`: skip the domain and its zero byte. -/
def skipDomain (bytes : List UInt8) (domain : String) : Except ContractError (List UInt8) :=
  if bytes.length ≤ (utf8Bytes domain).length ∨
      bytes.take (utf8Bytes domain).length ≠ utf8Bytes domain ∨
      bytes[(utf8Bytes domain).length]? ≠ some 0 then
    .error .wrongDomain
  else
    .ok (bytes.drop ((utf8Bytes domain).length + 1))

section

variable {α : Type} [CanonicalBody α]

open CanonicalBody

def canonicalBytes (value : α) : Except ContractError (List UInt8) := do
  validate value
  let ((), bytes) ← (encodeFields value).run (domainHeader (DOMAIN α))
  pure bytes

def fromCanonicalBytes (bytes : List UInt8) : Except ContractError α := do
  let fields ← skipDomain bytes (DOMAIN α)
  let (value, rest) ← (decodeFields : Decoder α).run fields
  rejectIf (rest ≠ []) .trailingBytes
  validate value
  let again ← canonicalBytes value
  rejectIf (again ≠ bytes) (.invalidField "non-canonical encoding")
  pure value

def canonicalHash [Crypto] (value : α) : Except ContractError (Bytes 32) := do
  let bytes ← canonicalBytes value
  pure (Crypto.sha256 bytes)

/-- `value.canonical_bytes()?`, for the check alone. -/
def requireCanonical (value : α) : Except ContractError Unit := do
  let _ ← canonicalBytes value
  pure ()

/-- A record inside a record is a byte string that holds its canonical form. -/
def Encoder.nested (value : α) : Encoder Unit := do
  let bytes ← canonicalBytes value
  Encoder.bytes bytes

def Decoder.nested (field : String) : Decoder α := do
  let bytes ← Decoder.bytes field 65535
  fromCanonicalBytes bytes

end

/-! ## 5. Encoder and decoder agree, operation by operation -/

theorem mirrors_take (bs : List UInt8) : Mirrors (put bs) (Decoder.take bs.length) bs :=
  .take _ bs

theorem mirrors_fixed (b : Bytes n) : Mirrors (Encoder.fixed b) (Decoder.fixed n) b := by
  have h : Mirrors (put b.toList) (Decoder.take n) b.toList := by
    simpa using mirrors_take b.toList
  refine h.last ?_
  rw [dif_pos b.length_toList]
  rfl

/-- A number written in `n` bytes, most significant first, and read back by `f`. -/
theorem mirrors_be {m : Nat} (f : Nat → α) (h : m < 256 ^ n) :
    Mirrors (put (beBytes n m)) (Decoder.fixed n >>= fun b => pure (f (ofBeBytes b.toList)))
      (f m) := by
  have hm : Mirrors (put (beBytes n m))
      (Decoder.fixed n >>= fun b => pure (f (ofBeBytes b.toList)))
      (f (ofBeBytes (beBytes n m))) :=
    (mirrors_fixed ⟨beBytes n m, beBytes_length n m⟩).map fun b : Bytes n =>
      f (ofBeBytes b.toList)
  rwa [ofBeBytes_beBytes h] at hm

theorem mirrors_u8 (v : UInt8) : Mirrors (Encoder.u8 v) Decoder.u8 v :=
  (mirrors_fixed (n := 1) ⟨[v], rfl⟩).map List.Vector.head

theorem mirrors_u16 (v : UInt16) : Mirrors (Encoder.u16 v) Decoder.u16 v := by
  have h := mirrors_be (n := 2) UInt16.ofNat v.toNat_lt
  rwa [UInt16.ofNat_toNat] at h

theorem mirrors_u32 (v : UInt32) : Mirrors (Encoder.u32 v) Decoder.u32 v := by
  have h := mirrors_be (n := 4) UInt32.ofNat v.toNat_lt
  rwa [UInt32.ofNat_toNat] at h

theorem mirrors_u64 (v : UInt64) : Mirrors (Encoder.u64 v) Decoder.u64 v := by
  have h := mirrors_be (n := 8) UInt64.ofNat v.toNat_lt
  rwa [UInt64.ofNat_toNat] at h

/-- **A byte string survives** when the decoder's limit allows every length the encoder does. -/
theorem mirrors_bytes {bs : List UInt8} (h : bs.length ≤ 65535 → bs.length ≤ maximum) :
    Mirrors (Encoder.bytes bs) (Decoder.bytes field maximum) bs := by
  refine .given fun _ hfit => ?_
  have hlen : bs.length ≤ 65535 := Nat.le_of_not_lt (rejectIf_eq_ok.mp hfit)
  have hnat : (UInt16.ofNat bs.length).toNat = bs.length :=
    UInt16.toNat_ofNat_of_lt' (Nat.lt_succ_of_le hlen)
  refine (mirrors_u16 _).bind (.skip (rejectIf_eq_ok.mpr ?_) ?_)
  · rw [hnat]
    exact Nat.not_lt.mpr (h hlen)
  · rw [hnat]
    exact mirrors_take bs

theorem mirrors_string (h : (utf8Bytes s).length ≤ maximum) :
    Mirrors (Encoder.string s) (Decoder.string field maximum) s :=
  (mirrors_bytes fun _ => h).last (by simp only [Decoder.fromUtf8, ofUtf8Bytes?_utf8Bytes])

/-! ## 6. Round trips -/

/-- **The obligation of a record**: on every value that passes its check, its reader mirrors its
writer. -/
class LawfulBody (α : Type) [CanonicalBody α] : Prop where
  mirrors : ∀ value : α, CanonicalBody.validate value = .ok () →
    Mirrors (CanonicalBody.encodeFields value) CanonicalBody.decodeFields value

theorem skipDomain_header (domain : String) (bs : List UInt8) :
    skipDomain (domainHeader domain ++ bs) domain = .ok bs := by
  simp only [skipDomain, domainHeader, List.append_assoc, List.singleton_append]
  rw [if_neg]
  · rw [← List.drop_drop, List.drop_left]
    rfl
  · simp

theorem header_of_skipDomain {bytes rest : List UInt8} {domain : String}
    (h : skipDomain bytes domain = .ok rest) : bytes = domainHeader domain ++ rest := by
  unfold skipDomain at h
  split at h
  · exact nomatch h
  · rename_i hgood
    simp only [not_or, not_not] at hgood
    obtain ⟨hlen, htake, hzero⟩ := hgood
    obtain ⟨hlt, hz⟩ := List.getElem?_eq_some_iff.mp hzero
    cases h
    calc bytes
        = bytes.take _ ++ bytes.drop (utf8Bytes domain).length := (List.take_append_drop _ _).symm
      _ = domainHeader domain ++ bytes.drop ((utf8Bytes domain).length + 1) := by
        rw [htake, List.drop_eq_getElem_cons hlt, hz, domainHeader, List.append_assoc,
          List.singleton_append]

section

variable {α : Type} [CanonicalBody α]

open CanonicalBody

variable {value : α} {bytes : List UInt8}

theorem canonicalBytes_eq_ok :
    canonicalBytes value = .ok bytes ↔ validate value = .ok () ∧
      (encodeFields value).run (domainHeader (DOMAIN α)) = .ok ((), bytes) := by
  simp only [canonicalBytes, bind_eq_ok]
  constructor
  · rintro ⟨⟨⟩, hv, ⟨⟨⟩, out⟩, hrun, h⟩
    cases h
    exact ⟨hv, hrun⟩
  · rintro ⟨hv, hrun⟩
    exact ⟨(), hv, _, hrun, rfl⟩

theorem valid_of_requireCanonical (h : requireCanonical value = .ok ()) : validate value = .ok () :=
  let ⟨_, hbytes, _⟩ := bind_eq_ok.mp h
  (canonicalBytes_eq_ok.mp hbytes).1

/-- What the decoder accepts: the header, fields that read back to the last byte, and no other
spelling of the same value. -/
theorem fromCanonicalBytes_eq_ok :
    fromCanonicalBytes bytes = .ok value ↔
      ∃ fields, skipDomain bytes (DOMAIN α) = .ok fields ∧
        (decodeFields : Decoder α).run fields = .ok (value, []) ∧
        canonicalBytes value = .ok bytes := by
  simp only [fromCanonicalBytes, bind_eq_ok]
  constructor
  · rintro ⟨fields, hskip, ⟨v, rest⟩, hrun, ⟨⟩, hrest, ⟨⟩, _, again, hagain, ⟨⟩, hsame, h⟩
    cases h
    rw [rejectIf_eq_ok, not_not] at hrest hsame
    subst hrest hsame
    exact ⟨fields, hskip, hrun, hagain⟩
  · rintro ⟨fields, hskip, hrun, hbytes⟩
    have hv := (canonicalBytes_eq_ok.mp hbytes).1
    exact ⟨fields, hskip, _, hrun, (), rejectIf_eq_ok.mpr (not_not.mpr rfl), (), hv, bytes, hbytes,
      (), rejectIf_eq_ok.mpr (not_not.mpr rfl), rfl⟩

/-- **What is decoded encodes back to the very bytes it was decoded from.** -/
theorem canonicalBytes_of_fromCanonicalBytes (h : fromCanonicalBytes bytes = .ok value) :
    canonicalBytes value = .ok bytes :=
  let ⟨_, _, _, hbytes⟩ := fromCanonicalBytes_eq_ok.mp h
  hbytes

/-- Whatever is accepted starts with the header of its record. -/
theorem header_of_fromCanonicalBytes (h : fromCanonicalBytes bytes = .ok value) :
    ∃ fields, bytes = domainHeader (DOMAIN α) ++ fields :=
  let ⟨fields, hskip, _, _⟩ := fromCanonicalBytes_eq_ok.mp h
  ⟨fields, header_of_skipDomain hskip⟩

/-- **What is encoded decodes back to the value.** -/
theorem fromCanonicalBytes_of_canonicalBytes [LawfulBody α] (h : canonicalBytes value = .ok bytes) :
    fromCanonicalBytes bytes = .ok value := by
  obtain ⟨hv, hrun⟩ := canonicalBytes_eq_ok.mp h
  obtain ⟨fields, rfl, hread⟩ := LawfulBody.mirrors value hv _ _ hrun
  have hread' := hread []
  rw [List.append_nil] at hread'
  exact fromCanonicalBytes_eq_ok.mpr ⟨fields, skipDomain_header _ _, hread', h⟩

/-- An encoding is not empty: it starts with its header. -/
theorem ne_nil_of_canonicalBytes [LawfulBody α] (h : canonicalBytes value = .ok bytes) :
    bytes ≠ [] := by
  obtain ⟨fields, rfl⟩ := header_of_fromCanonicalBytes (fromCanonicalBytes_of_canonicalBytes h)
  simp [domainHeader]

/-- A nested record survives. -/
theorem mirrors_nested [LawfulBody α] {field : String} (value : α) :
    Mirrors (Encoder.nested value) (Decoder.nested field) value :=
  .given fun _ hbytes => (mirrors_bytes id).last (fromCanonicalBytes_of_canonicalBytes hbytes)

end

/-! ## 7. Lengths -/

/-- **The record encodes**, in `n` bytes. -/
def Encodes {α : Type} [CanonicalBody α] (value : α) (n : Nat) : Prop :=
  ∃ bytes, canonicalBytes value = .ok bytes ∧ bytes.length = n

theorem emits_fixed (b : Bytes n) : Emits (Encoder.fixed b) n := by
  have h : Emits (Encoder.fixed b) b.toList.length := .put b.toList
  rwa [b.length_toList] at h

theorem emits_u8 (v : UInt8) : Emits (Encoder.u8 v) 1 := .put [v]

theorem emits_u32 (v : UInt32) : Emits (Encoder.u32 v) 4 := by
  have h : Emits (Encoder.u32 v) (beBytes 4 v.toNat).length := .put _
  rwa [beBytes_length] at h

theorem emits_u64 (v : UInt64) : Emits (Encoder.u64 v) 8 := by
  have h : Emits (Encoder.u64 v) (beBytes 8 v.toNat).length := .put _
  rwa [beBytes_length] at h

theorem emits_bytes {bs : List UInt8} (h : bs.length ≤ 65535) :
    Emits (Encoder.bytes bs) (2 + bs.length) := by
  have hlen : Emits (Encoder.u16 (UInt16.ofNat bs.length)) 2 := .put _
  exact .given (rejectIf_eq_ok.mpr (Nat.not_lt.mpr h)) (hlen.bind (.put bs))

theorem emits_string (h : (utf8Bytes s).length ≤ 65535) :
    Emits (Encoder.string s) (2 + (utf8Bytes s).length) := emits_bytes h

section

variable {α : Type} [CanonicalBody α] {value : α} {n : Nat}

open CanonicalBody

/-- A record encodes when its check passes and its writer cannot fail. -/
theorem Encodes.of_emits {m : Nat} (hv : validate value = .ok ())
    (h : Emits (encodeFields value) m) (hn : (domainHeader (DOMAIN α)).length + m = n) :
    Encodes value n := by
  obtain ⟨bs, hrun, rfl⟩ := h (domainHeader (DOMAIN α))
  exact ⟨_, canonicalBytes_eq_ok.mpr ⟨hv, hrun⟩, List.length_append.trans hn⟩

theorem Encodes.requireCanonical (h : Encodes value n) :
    Contracts.requireCanonical value = .ok () :=
  let ⟨_, hbytes, _⟩ := h
  bind_eq_ok.mpr ⟨_, hbytes, rfl⟩

/-- A record is nested in another when its encoding fits the length prefix ... -/
theorem Encodes.nested (h : Encodes value n) (hn : n ≤ 65535) :
    Emits (Encoder.nested value) (2 + n) := by
  obtain ⟨bytes, hbytes, rfl⟩ := h
  exact .given hbytes (emits_bytes hn)

/-- ... and is refused otherwise. -/
theorem Encodes.not_nested (h : Encodes value n) (hn : 65535 < n) (out : List UInt8) :
    (Encoder.nested value).run out = .error (.fieldTooLong "canonical byte string") := by
  obtain ⟨bytes, hbytes, rfl⟩ := h
  have hbig : rejectIf (65535 < bytes.length) (.fieldTooLong "canonical byte string") =
      .error (.fieldTooLong "canonical byte string") := if_pos hn
  rw [Encoder.nested, hbytes]
  change (Encoder.bytes bytes).run out = _
  rw [Encoder.bytes, hbig]
  rfl

end

/-! ## 8. Counted lists -/

/-- **A counted list survives**: its length in one byte, and its elements one by one. -/
theorem mirrors_counted {f : α → Encoder Unit} {r : Decoder α} {l : List α} (hlen : l.length < 256)
    (h : ∀ a ∈ l, Mirrors (f a) r a) :
    Mirrors (l.forM f) (many r (UInt8.ofNat l.length).toNat) l := by
  rw [UInt8.toNat_ofNat_of_lt' hlen]
  exact .forM h

end ElastosRuntime.Contracts
