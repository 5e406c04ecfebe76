/-
# The names of keys

An Ed25519 key names itself: its `did:key` is the key behind a marker of its kind, in base 58
(`elastos-identity/src/store.rs`).  A name is read back strictly, so that a key has one name: every
other spelling, and every key that is not the canonical form of a point of the large subgroup, is
refused.
-/
import ElastosRuntime.Lib.Base58
import ElastosRuntime.Lib.JsonText
import ElastosRuntime.Primitives
import Mathlib.Tactic.NormNum

namespace ElastosRuntime.Identity

/-! ## 1. Points of the curve -/

/-- The points that keys stand for. -/
class Ed25519Points where
  Point : Type
  decompress : Bytes 32 → Option Point
  compress : Point → Bytes 32
  isSmallOrder : Point → Bool
  isTorsionFree : Point → Bool

open Ed25519Points

/-- The verifying key of a signing key is the canonical form of a point of the large subgroup. -/
class LawfulPoints [Crypto] [Ed25519Points] : Prop where
  verifyingKey_point : ∀ sk : Bytes 32, ∃ point : Point,
    decompress (Crypto.verifyingKey sk) = some point ∧
      compress point = Crypto.verifyingKey sk ∧
      isSmallOrder point = false ∧ isTorsionFree point = true

/-- Points to evaluate the model with: every key is one. -/
@[reducible] def keyPoints : Ed25519Points where
  Point := Bytes 32
  decompress := some
  compress := id
  isSmallOrder := fun _ => false
  isTorsionFree := fun _ => true

theorem keyPoints_lawful [Crypto] : @LawfulPoints _ keyPoints :=
  letI := keyPoints
  ⟨fun sk => ⟨Crypto.verifyingKey sk, rfl, rfl, rfl, rfl⟩⟩

/-! ## 2. Writing and reading a name -/

def MULTICODEC_ED25519_PUB : List UInt8 := [0xed, 0x01]
def DID_KEY_PREFIX : String := "did:key:z"
def DID_KEY_ED25519_PREFIX : String := "did:key:z6Mk"
def DID_KEY_ED25519_LEN : Nat := 56
def DID_KEY_DECODED_BYTES : Nat := 34

def encodeCanonicalDidKeyBytes (keyBytes : Bytes 32) : String :=
  DID_KEY_PREFIX ++ String.ofList (Base58.encode (MULTICODEC_ED25519_PUB ++ keyBytes.toList))

def encodeSigningKeyDid [Crypto] (signingKey : Bytes 32) : String :=
  encodeCanonicalDidKeyBytes (Crypto.verifyingKey signingKey)

section

variable [Ed25519Points]

def validateCanonicalEd25519VerifyingKeyBytes (bytes : Bytes 32) : Except String (Bytes 32) :=
  match decompress bytes with
  | none => .error "Ed25519 key must decompress"
  | some point =>
    if compress point ≠ bytes then .error "Ed25519 key is not canonically compressed"
    else if isSmallOrder point then .error "Ed25519 key must not be small order"
    else if !isTorsionFree point then .error "Ed25519 key must be torsion free"
    else .ok bytes

/-- The bytes behind the marker. -/
def didKeyBytes (decoded : List UInt8) : Option (Bytes 32) :=
  if decoded.take 2 = MULTICODEC_ED25519_PUB then
    if h : (decoded.drop 2).length = 32 then some ⟨decoded.drop 2, h⟩ else none
  else none

def decodeDidKey (did : String) : Except String (Bytes 32) :=
  if Text.byteLength did ≠ DID_KEY_ED25519_LEN ∨ !Text.startsWith did DID_KEY_ED25519_PREFIX then
    .error "DID must be one canonical Ed25519 did:key"
  else
    match Text.stripPrefix did DID_KEY_PREFIX with
    | none => .error "DID must start with did:key:z"
    | some multibase =>
      match Base58.decode multibase.toList with
      | none => .error "invalid base58 in DID"
      | some bytes =>
        -- more than the buffer holds
        if DID_KEY_DECODED_BYTES < bytes.length then .error "invalid base58 in DID"
        else
          match didKeyBytes bytes with
          | none => .error "DID must contain one Ed25519 public key"
          | some keyBytes => do
            let verifyingKey ← validateCanonicalEd25519VerifyingKeyBytes keyBytes
            if encodeCanonicalDidKeyBytes verifyingKey ≠ did then .error "DID is not canonical"
            else .ok verifyingKey

end

/-! ## 3. A name is read back -/

section

variable [Crypto] [Ed25519Points]

theorem validateCanonical_verifyingKey [LawfulPoints] (sk : Bytes 32) :
    validateCanonicalEd25519VerifyingKeyBytes (Crypto.verifyingKey sk) =
      .ok (Crypto.verifyingKey sk) := by
  obtain ⟨point, hdecompress, hcompress, hsmall, htorsion⟩ := LawfulPoints.verifyingKey_point sk
  unfold validateCanonicalEd25519VerifyingKeyBytes
  rw [hdecompress]
  simp only [hcompress, hsmall, htorsion, ne_eq, not_true_eq_false, if_false, Bool.not_true,
    Bool.false_eq_true]

end

theorem didKeyBytes_append (keyBytes : Bytes 32) :
    didKeyBytes (MULTICODEC_ED25519_PUB ++ keyBytes.toList) = some keyBytes := by
  have htake : (MULTICODEC_ED25519_PUB ++ keyBytes.toList).take 2 = MULTICODEC_ED25519_PUB := rfl
  have hdrop : (MULTICODEC_ED25519_PUB ++ keyBytes.toList).drop 2 = keyBytes.toList := rfl
  unfold didKeyBytes
  rw [if_pos htake, dif_pos (by rw [hdrop, Bytes.length_toList])]
  exact congrArg some (List.Vector.eq _ _ hdrop)

/-- The leading digits of a key behind its marker are those of the marker. -/
theorem encode_multicodec (keyBytes : Bytes 32) : ∃ rest : List Char, rest.length = 44 ∧
    Base58.encode (MULTICODEC_ED25519_PUB ++ keyBytes.toList) = '6' :: 'M' :: 'k' :: rest := by
  set number := ofBeBytes (MULTICODEC_ED25519_PUB ++ keyBytes.toList) with hnumber
  have hsum : number = ofBeBytes keyBytes.toList + 256 ^ 32 * 0xed01 := by
    rw [hnumber, ofBeBytes, List.reverse_append, ofLeBytes_append, List.length_reverse,
      Bytes.length_toList]
    rfl
  have hlt : ofBeBytes keyBytes.toList < 256 ^ 32 := ofBeBytes_lt keyBytes.length_toList
  have hdiv : number / 58 ^ 44 = 18023 := by
    norm_num at hsum hlt ⊢
    omega
  obtain ⟨low, hlength, -, hdigits⟩ := Base58.digits_eq_append (b := 58) (by decide)
    (k := 44) (n := number) (by rw [hdiv]; decide)
  have hlead : Nat.digits 58 18023 = [43, 20, 5] := by norm_num
  rw [hdiv, hlead] at hdigits
  refine ⟨low.reverse.map Base58.digitChar, by rw [List.length_map, List.length_reverse, hlength],
    ?_⟩
  rw [Base58.encode, ← hnumber, hdigits]
  simp only [MULTICODEC_ED25519_PUB, List.reverse_append, List.map_append]
  rfl

theorem toList_encodeCanonicalDidKeyBytes (keyBytes : Bytes 32) :
    (encodeCanonicalDidKeyBytes keyBytes).toList =
      DID_KEY_PREFIX.toList ++ Base58.encode (MULTICODEC_ED25519_PUB ++ keyBytes.toList) := by
  rw [encodeCanonicalDidKeyBytes, String.toList_append, String.toList_ofList]

/-- A name is made of characters that stand for themselves in a text. -/
theorem plainChar_of_mem_did {keyBytes : Bytes 32} {c : Char}
    (h : c ∈ (encodeCanonicalDidKeyBytes keyBytes).toList) : Json.plainChar c = true := by
  have hprefixed : DID_KEY_PREFIX.toList.all Json.plainChar = true := by decide
  have halphabet : Base58.alphabet.all Json.plainChar = true := by decide
  rw [toList_encodeCanonicalDidKeyBytes] at h
  rcases List.mem_append.mp h with h | h
  · exact List.all_eq_true.mp hprefixed c h
  · obtain ⟨digit, -, rfl⟩ := List.mem_map.mp h
    exact List.all_eq_true.mp halphabet _ (Base58.digitChar_mem_alphabet digit)

theorem length_toList_did (keyBytes : Bytes 32) :
    (encodeCanonicalDidKeyBytes keyBytes).toList.length = DID_KEY_ED25519_LEN := by
  have hprefixed : DID_KEY_PREFIX.toList.length = 9 := by decide
  obtain ⟨rest, hlength, hencode⟩ := encode_multicodec keyBytes
  rw [toList_encodeCanonicalDidKeyBytes, hencode, List.length_append, hprefixed, List.length_cons,
    List.length_cons, List.length_cons, hlength]
  rfl

theorem byteLength_did (keyBytes : Bytes 32) :
    Text.byteLength (encodeCanonicalDidKeyBytes keyBytes) = DID_KEY_ED25519_LEN := by
  refine (Text.byteLength_of_ascii fun c hc => ?_).trans (length_toList_did keyBytes)
  have hplain := plainChar_of_mem_did hc
  simp only [Json.plainChar, Bool.and_eq_true, decide_eq_true_eq] at hplain
  exact hplain.1.1.2

theorem startsWith_did (keyBytes : Bytes 32) :
    Text.startsWith (encodeCanonicalDidKeyBytes keyBytes) DID_KEY_ED25519_PREFIX = true := by
  obtain ⟨rest, -, hencode⟩ := encode_multicodec keyBytes
  have hsplit : DID_KEY_ED25519_PREFIX.toList = DID_KEY_PREFIX.toList ++ ['6', 'M', 'k'] := by
    decide
  rw [Text.startsWith, toList_encodeCanonicalDidKeyBytes, hencode, hsplit]
  refine List.isPrefixOf_iff_prefix.mpr ⟨rest, ?_⟩
  rw [List.append_assoc]
  rfl

/-- **A name is read back** as the key it was written for, as far as that key is one. -/
theorem decodeDidKey_encode [Ed25519Points] {keyBytes : Bytes 32}
    (h : validateCanonicalEd25519VerifyingKeyBytes keyBytes = .ok keyBytes) :
    decodeDidKey (encodeCanonicalDidKeyBytes keyBytes) = .ok keyBytes := by
  have hstrip : Text.stripPrefix (encodeCanonicalDidKeyBytes keyBytes) DID_KEY_PREFIX =
      some (String.ofList (Base58.encode (MULTICODEC_ED25519_PUB ++ keyBytes.toList))) :=
    Text.stripPrefix_eq_some_iff.mpr rfl
  have hlength : ¬DID_KEY_DECODED_BYTES < (MULTICODEC_ED25519_PUB ++ keyBytes.toList).length := by
    rw [List.length_append, Bytes.length_toList]
    decide
  unfold decodeDidKey
  rw [if_neg (by rw [byteLength_did, startsWith_did]; decide), hstrip]
  simp only [String.toList_ofList, Base58.decode_encode, hlength, if_false, didKeyBytes_append, h]
  change (if encodeCanonicalDidKeyBytes keyBytes ≠ encodeCanonicalDidKeyBytes keyBytes then _
    else _) = _
  rw [if_neg (not_not_intro rfl)]

theorem decodeDidKey_encodeSigningKeyDid [Crypto] [Ed25519Points] [LawfulPoints] (sk : Bytes 32) :
    decodeDidKey (encodeSigningKeyDid sk) = .ok (Crypto.verifyingKey sk) :=
  decodeDidKey_encode (validateCanonical_verifyingKey sk)

end ElastosRuntime.Identity
