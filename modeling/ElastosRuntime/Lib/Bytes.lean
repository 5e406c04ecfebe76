/-
# Byte strings and fixed-width integers

`Bytes n` is the byte array of a fixed length, with the length as part of the type.  `leBytes`
and `beBytes` write a natural number in a fixed number of bytes, least or most significant
byte first, and `ofLeBytes` and `ofBeBytes` read one back; a number that fits survives the
round trip.  The last section orders lists by a byte-string key.
-/
import Mathlib.Data.List.Sort
import Mathlib.Data.Vector.Basic

/-- A byte array of length `n`. -/
abbrev Bytes (n : Nat) := List.Vector UInt8 n

namespace Bytes

/-- The array of `n` zero bytes. -/
def zero (n : Nat) : Bytes n := List.Vector.replicate n 0

@[simp] theorem length_toList {n : Nat} (b : Bytes n) : b.toList.length = n := b.2

end Bytes

theorem length_take_padded (bytes : List UInt8) :
    ((bytes ++ List.replicate 32 0).take 32).length = 32 := by
  simp

/-! ## 1. Least significant byte first -/

/-- The low `k` bytes of `n`, least significant first. -/
def leBytes : Nat → Nat → List UInt8
  | 0, _ => []
  | k + 1, n => UInt8.ofNat n :: leBytes k (n / 256)

/-- The number a byte string denotes, least significant byte first. -/
def ofLeBytes : List UInt8 → Nat
  | [] => 0
  | b :: bs => b.toNat + 256 * ofLeBytes bs

@[simp] theorem leBytes_length : ∀ k n : Nat, (leBytes k n).length = k
  | 0, _ => rfl
  | k + 1, n => by rw [leBytes, List.length_cons, leBytes_length k]

/-- Reading back what was written keeps the low `k` bytes. -/
theorem ofLeBytes_leBytes : ∀ k n : Nat, ofLeBytes (leBytes k n) = n % 256 ^ k
  | 0, n => by simp [leBytes, ofLeBytes, Nat.mod_one]
  | k + 1, n => by
    have hb : (UInt8.ofNat n).toNat = n % 256 := by simp
    rw [leBytes, ofLeBytes, ofLeBytes_leBytes k, hb, Nat.pow_succ, Nat.mul_comm (256 ^ k),
      Nat.mod_mul]

/-- Writing back what was read gives the same bytes. -/
theorem leBytes_ofLeBytes : ∀ bs : List UInt8, leBytes bs.length (ofLeBytes bs) = bs
  | [] => rfl
  | b :: bs => by
    have hb := b.toNat_lt
    have hhead : UInt8.ofNat (b.toNat + 256 * ofLeBytes bs) = b :=
      UInt8.toNat_inj.mp (by rw [UInt8.toNat_ofNat']; omega)
    have htail : (b.toNat + 256 * ofLeBytes bs) / 256 = ofLeBytes bs := by omega
    rw [List.length_cons, ofLeBytes, leBytes, hhead, htail, leBytes_ofLeBytes bs]

theorem ofLeBytes_lt : ∀ bs : List UInt8, ofLeBytes bs < 256 ^ bs.length
  | [] => Nat.one_pos
  | b :: bs => by
    have hb := b.toNat_lt
    have hbs := ofLeBytes_lt bs
    rw [ofLeBytes, List.length_cons, Nat.pow_succ]
    omega

theorem ofLeBytes_append (bs cs : List UInt8) :
    ofLeBytes (bs ++ cs) = ofLeBytes bs + 256 ^ bs.length * ofLeBytes cs := by
  induction bs with
  | nil => simp [ofLeBytes]
  | cons b bs ih =>
    rw [List.cons_append, ofLeBytes, ofLeBytes, ih, List.length_cons, Nat.pow_succ, Nat.mul_add,
      Nat.mul_comm (256 ^ bs.length) 256, Nat.mul_assoc, Nat.add_assoc]

/-! ## 2. Most significant byte first -/

/-- The low `k` bytes of `n`, most significant first. -/
def beBytes (k n : Nat) : List UInt8 := (leBytes k n).reverse

/-- The number a byte string denotes, most significant byte first. -/
def ofBeBytes (bs : List UInt8) : Nat := ofLeBytes bs.reverse

@[simp] theorem beBytes_length (k n : Nat) : (beBytes k n).length = k := by
  rw [beBytes, List.length_reverse, leBytes_length]

variable {k n : Nat}

/-- A number that fits in `k` bytes survives the round trip. -/
theorem ofBeBytes_beBytes (h : n < 256 ^ k) : ofBeBytes (beBytes k n) = n := by
  rw [ofBeBytes, beBytes, List.reverse_reverse, ofLeBytes_leBytes, Nat.mod_eq_of_lt h]

variable {bs : List UInt8}

theorem beBytes_ofBeBytes (h : bs.length = k) : beBytes k (ofBeBytes bs) = bs := by
  have hle := leBytes_ofLeBytes bs.reverse
  rw [List.length_reverse, h] at hle
  rw [beBytes, ofBeBytes, hle, List.reverse_reverse]

theorem ofBeBytes_lt (h : bs.length = k) : ofBeBytes bs < 256 ^ k := by
  have hlt := ofLeBytes_lt bs.reverse
  rwa [List.length_reverse, h] at hlt

theorem ofLeBytes_append_zero (bs : List UInt8) : ofLeBytes (bs ++ [0]) = ofLeBytes bs := by
  induction bs with
  | nil => rfl
  | cons b bs ih => rw [List.cons_append, ofLeBytes, ofLeBytes, ih]

theorem ofBeBytes_cons_zero (bs : List UInt8) : ofBeBytes (0 :: bs) = ofBeBytes bs := by
  rw [ofBeBytes, List.reverse_cons, ofLeBytes_append_zero, ofBeBytes]

/-- Zero bytes in front do not change the number. -/
theorem ofBeBytes_replicate_append (n : Nat) (bs : List UInt8) :
    ofBeBytes (List.replicate n 0 ++ bs) = ofBeBytes bs := by
  induction n with
  | zero => rfl
  | succ n ih => rw [List.replicate_succ, List.cons_append, ofBeBytes_cons_zero, ih]

/-- Zeros in front of a number that fits are what a wider one begins with. -/
theorem replicate_append_beBytes (h : n < 256 ^ k) (j : Nat) :
    List.replicate j 0 ++ beBytes k n = beBytes (j + k) n := by
  have hlength : (List.replicate j 0 ++ beBytes k n).length = j + k := by
    rw [List.length_append, List.length_replicate, beBytes_length]
  rw [← beBytes_ofBeBytes hlength, ofBeBytes_replicate_append, ofBeBytes_beBytes h]

/-! ## 3. Text -/

/-- The UTF-8 bytes of a string. -/
def utf8Bytes (s : String) : List UInt8 := s.toByteArray.data.toList

/-- The string a byte string spells, if it is valid UTF-8. -/
def ofUtf8Bytes? (bs : List UInt8) : Option String := String.fromUTF8? ⟨bs.toArray⟩

theorem ofUtf8Bytes?_utf8Bytes (s : String) : ofUtf8Bytes? (utf8Bytes s) = some s := by
  unfold ofUtf8Bytes? utf8Bytes String.fromUTF8?
  exact dif_pos s.isValidUTF8

theorem utf8Bytes_injective : Function.Injective utf8Bytes := by
  intro s t h
  have hread := congrArg ofUtf8Bytes? h
  rwa [ofUtf8Bytes?_utf8Bytes, ofUtf8Bytes?_utf8Bytes, Option.some.injEq] at hread

theorem utf8Bytes_of_ofUtf8Bytes? {s : String} (h : ofUtf8Bytes? bs = some s) :
    utf8Bytes s = bs := by
  unfold ofUtf8Bytes? String.fromUTF8? at h
  split at h
  · cases h
    rfl
  · cases h

/-! ## 4. Sorting by a byte-string key -/

variable {α : Type} {key : α → List UInt8} {l : List α}

/-- Sort by a key, byte strings being compared lexicographically. -/
def sortByKey (key : α → List UInt8) (l : List α) : List α :=
  l.insertionSort fun a b => key a ≤ key b

/-- Each key is below the next one. -/
def Ascending (key : α → List UInt8) (l : List α) : Prop := (l.map key).IsChain (· < ·)

instance : Decidable (Ascending key l) := inferInstanceAs (Decidable (List.IsChain _ _))

theorem ascending_cons {a : α} :
    Ascending key (a :: l) ↔ (∀ b ∈ l.head?, key a < key b) ∧ Ascending key l := by
  cases l with
  | nil => simp [Ascending]
  | cons b l => simp [Ascending, List.isChain_cons_cons]

/-- A strictly ascending list is left alone by sorting. -/
theorem Ascending.sortByKey_eq (h : Ascending key l) : sortByKey key l = l := by
  have hlt : (l.map key).Pairwise (· < ·) := List.isChain_iff_pairwise.mp h
  have hle : l.Pairwise fun a b => key a ≤ key b :=
    (List.pairwise_map.mp hlt).imp fun h => Std.le_of_lt h
  exact hle.insertionSort_eq

theorem mem_sortByKey {a : α} : a ∈ sortByKey key l ↔ a ∈ l :=
  (List.perm_insertionSort _ l).mem_iff

/-- What is sorted by distinct keys is strictly ascending. -/
theorem ascending_sortByKey (hnodup : (l.map key).Nodup) : Ascending key (sortByKey key l) := by
  have htotal : Std.Total fun a b : α => key a ≤ key b := ⟨fun a b => Std.le_total⟩
  have htrans : IsTrans α fun a b => key a ≤ key b := ⟨fun a b c => Std.le_trans⟩
  have hsorted := List.pairwise_insertionSort (fun a b => key a ≤ key b) l
  have hdistinct : ((sortByKey key l).map key).Nodup :=
    ((List.perm_insertionSort _ l).map key).nodup_iff.mpr hnodup
  refine List.isChain_iff_pairwise.mpr ?_
  refine (List.pairwise_map.mpr hsorted).imp₂ (fun a b hle hne => ?_) hdistinct
  exact Std.lt_of_le_of_ne hle hne

/-- The order of a list whose keys are distinct does not matter to sorting. -/
theorem sortByKey_perm {l' : List α} (h : l.Perm l')
    (hkey : ∀ a ∈ l, ∀ b ∈ l, key a = key b → a = b) : sortByKey key l = sortByKey key l' := by
  have htotal : Std.Total fun a b : α => key a ≤ key b := ⟨fun a b => Std.le_total⟩
  have htrans : IsTrans α fun a b => key a ≤ key b := ⟨fun a b c => Std.le_trans⟩
  have hsort : (sortByKey key l).Perm l := List.perm_insertionSort _ l
  have hsort' : (sortByKey key l').Perm l' := List.perm_insertionSort _ l'
  refine List.Perm.eq_of_pairwise (fun a b ha hb hab hba => ?_)
    (List.pairwise_insertionSort (fun a b => key a ≤ key b) l)
    (List.pairwise_insertionSort (fun a b => key a ≤ key b) l')
    (hsort.trans (h.trans hsort'.symm))
  exact hkey a (hsort.mem_iff.mp ha) b (h.mem_iff.mpr (hsort'.mem_iff.mp hb))
    (Std.le_antisymm hab hba)

/-- **What is sorted alike**: once the sorted keys ascend, the lists of the same elements. -/
theorem sortByKey_eq_iff_perm {l' : List α} (h : Ascending key (sortByKey key l)) :
    sortByKey key l' = sortByKey key l ↔ l'.Perm l := by
  have hsort (l : List α) : (sortByKey key l).Perm l := List.perm_insertionSort _ l
  constructor
  · intro heq
    exact (hsort l').symm.trans (heq ▸ hsort l)
  · intro hperm
    have hnodup : ((sortByKey key l).map key).Nodup :=
      (List.isChain_iff_pairwise.mp h).imp fun {a b} (hlt : a < b) => Std.ne_of_lt hlt
    rw [sortByKey_perm (hperm.trans (hsort l).symm), h.sortByKey_eq]
    intro a ha b hb
    exact List.inj_on_of_nodup_map hnodup (mem_sortByKey.mpr (hperm.mem_iff.mp ha))
      (mem_sortByKey.mpr (hperm.mem_iff.mp hb))
