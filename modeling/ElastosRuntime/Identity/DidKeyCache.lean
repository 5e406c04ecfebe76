/-
# The names of keys, and the keys that were checked before

The point checks behind a name are the same for a key whenever they are made, so the process
remembers the last keys that passed them (`elastos-identity/src/store.rs`).  What is remembered is
shared by every call: a call looks for its key, checks it without holding the cache, and then
remembers it, with any number of other calls in between.

* A run of such calls remembers only keys that pass the checks (`KeyCache.reached_sound`), so that
  a check answers the same whatever was remembered (`validate_of_reached`).
* With it the names are exactly the keys: a canonical key has one name, and a name that is accepted
  is the one its key is given (`didKey_codec`).
-/
import ElastosRuntime.Identity.DidKeys
import ElastosRuntime.Lib.Codec
import ElastosRuntime.Lib.Transition

namespace ElastosRuntime.Identity

open Ed25519Points

/-! ## 1. Names by a check of the key -/

section

variable (validate : Bytes 32 → Except String (Bytes 32))

def encodeDidKeyWith (verifyingKey : Bytes 32) : Except String String := do
  let _ ← validate verifyingKey
  .ok (encodeCanonicalDidKeyBytes verifyingKey)

def decodeDidKeyWith (did : String) : Except String (Bytes 32) :=
  if Text.byteLength did ≠ DID_KEY_ED25519_LEN ∨ !Text.startsWith did DID_KEY_ED25519_PREFIX then
    .error "DID must be one canonical Ed25519 did:key"
  else
    match Text.stripPrefix did DID_KEY_PREFIX with
    | none => .error "DID must start with did:key:z"
    | some multibase =>
      match Base58.decode multibase.toList with
      | none => .error "invalid base58 in DID"
      | some bytes =>
        if DID_KEY_DECODED_BYTES < bytes.length then .error "invalid base58 in DID"
        else
          match didKeyBytes bytes with
          | none => .error "DID must contain one Ed25519 public key"
          | some keyBytes => do
            let verifyingKey ← validate keyBytes
            if encodeCanonicalDidKeyBytes verifyingKey ≠ did then .error "DID is not canonical"
            else .ok verifyingKey

end

/-- A key is canonical if it decompresses to a torsion-free point that is not of small order and
compresses to it again. -/
def CanonicalKey [Ed25519Points] (key : Bytes 32) : Prop :=
  ∃ point : Point, decompress key = some point ∧ compress point = key ∧
    isSmallOrder point = false ∧ isTorsionFree point = true

section

variable [Ed25519Points]

/-- The point checks return the key they were given, and accept the canonical keys. -/
theorem validateCanonical_eq_ok_iff {bytes key : Bytes 32} :
    validateCanonicalEd25519VerifyingKeyBytes bytes = .ok key ↔
      bytes = key ∧ CanonicalKey key := by
  unfold validateCanonicalEd25519VerifyingKeyBytes
  cases hpoint : decompress bytes with
  | none =>
    constructor
    · intro h
      cases h
    · rintro ⟨rfl, point, hkey, -⟩
      rw [hpoint] at hkey
      cases hkey
  | some point =>
    constructor
    · intro h
      dsimp only at h
      split_ifs at h with hcompress hsmall htorsion
      obtain rfl : bytes = key := Except.ok.inj h
      exact ⟨rfl, point, hpoint, not_not.mp hcompress, by simpa using hsmall,
        by simpa using htorsion⟩
    · rintro ⟨rfl, other, hkey, hcompress, hsmall, htorsion⟩
      obtain rfl : point = other := Option.some.inj (hpoint.symm.trans hkey)
      simp only [hcompress, hsmall, htorsion, ne_eq, not_true_eq_false, if_false, Bool.not_true,
        Bool.false_eq_true]

theorem CanonicalKey.validated {key : Bytes 32} (h : CanonicalKey key) :
    validateCanonicalEd25519VerifyingKeyBytes key = .ok key :=
  validateCanonical_eq_ok_iff.mpr ⟨rfl, h⟩

theorem decodeDidKeyWith_validateCanonical (did : String) :
    decodeDidKeyWith validateCanonicalEd25519VerifyingKeyBytes did = decodeDidKey did := rfl

/-- The only name a key is read from is the one it is given. -/
theorem eq_of_decodeDidKey {did : String} {key : Bytes 32} (h : decodeDidKey did = .ok key) :
    CanonicalKey key ∧ did = encodeCanonicalDidKeyBytes key := by
  unfold decodeDidKey at h
  split at h
  · cases h
  split at h
  · cases h
  split at h
  · cases h
  split at h
  · cases h
  split at h
  · cases h
  obtain ⟨verified, hverified, h⟩ := Codec.bind_eq_ok.mp h
  split at h
  · cases h
  rename_i hname
  obtain rfl : verified = key := Except.ok.inj h
  exact ⟨(validateCanonical_eq_ok_iff.mp hverified).2, (not_not.mp hname).symm⟩

end

/-! ## 2. What the process remembers -/

def CANONICAL_KEY_CACHE_CAPACITY : Nat := 64

/-- The oldest key makes room for a new one. -/
def rememberCanonicalKey (keys : List (Bytes 32)) (key : Bytes 32) : List (Bytes 32) :=
  if keys.any (· == key) then keys
  else (if keys.length = CANONICAL_KEY_CACHE_CAPACITY then keys.tail else keys) ++ [key]

/-- The keys that are remembered, whether a panic has spoilt their lock, and the keys of the calls
that have made the point checks and not come to remember them. -/
structure KeyCache where
  known : List (Bytes 32)
  poisoned : Bool
  checked : List (Bytes 32)

/-- What happens to the cache: a call fails to find its bytes and has them checked, a call
remembers what it has checked, a thread panics. -/
inductive CacheEvent where
  | check (bytes : Bytes 32)
  | remember (key : Bytes 32)
  | panic

namespace KeyCache

def empty : KeyCache := ⟨[], false, []⟩

/-- A lookup, which a spoilt lock refuses. -/
def find (s : KeyCache) (bytes : Bytes 32) : Option (Bytes 32) :=
  if s.poisoned then none else s.known.find? (· == bytes)

variable [Ed25519Points]

def validateCanonicalEd25519VerifyingKeyBytes (s : KeyCache) (bytes : Bytes 32) :
    Except String (Bytes 32) :=
  match s.find bytes with
  | some key => .ok key
  | none => Identity.validateCanonicalEd25519VerifyingKeyBytes bytes

def encodeDidKey (s : KeyCache) : Bytes 32 → Except String String :=
  encodeDidKeyWith s.validateCanonicalEd25519VerifyingKeyBytes

def decodeDidKey (s : KeyCache) : String → Except String (Bytes 32) :=
  decodeDidKeyWith s.validateCanonicalEd25519VerifyingKeyBytes

/-- One event. A call remembers its key only once. -/
def step (s : KeyCache) : CacheEvent → Option KeyCache
  | .check bytes =>
    match s.find bytes, Identity.validateCanonicalEd25519VerifyingKeyBytes bytes with
    | none, .ok key => some { s with checked := key :: s.checked }
    | _, _ => some s
  | .remember key =>
    if key ∈ s.checked then
      some { s with
        known := if s.poisoned then s.known else rememberCanonicalKey s.known key
        checked := s.checked.erase key }
    else none
  | .panic => some { s with poisoned := true }

/-- A content of the cache that earlier calls can have produced. -/
abbrev Reached : KeyCache → Prop := Transition.Reachable step (· = empty)

/-! ## 3. Only canonical keys are remembered -/

/-- Every key that is remembered, or about to be, is canonical; there is room for all. -/
structure Sound (s : KeyCache) : Prop where
  known : ∀ key ∈ s.known, CanonicalKey key
  checked : ∀ key ∈ s.checked, CanonicalKey key
  capacity : s.known.length ≤ CANONICAL_KEY_CACHE_CAPACITY

omit [Ed25519Points] in
theorem mem_of_mem_remember {keys : List (Bytes 32)} {key other : Bytes 32}
    (h : other ∈ rememberCanonicalKey keys key) : other ∈ keys ∨ other = key := by
  unfold rememberCanonicalKey at h
  split at h
  · exact .inl h
  · rcases List.mem_append.mp h with h | h
    · split at h
      · exact .inl (List.mem_of_mem_tail h)
      · exact .inl h
    · exact .inr (List.mem_singleton.mp h)

omit [Ed25519Points] in
theorem length_remember_le {keys : List (Bytes 32)} {key : Bytes 32}
    (h : keys.length ≤ CANONICAL_KEY_CACHE_CAPACITY) :
    (rememberCanonicalKey keys key).length ≤ CANONICAL_KEY_CACHE_CAPACITY := by
  unfold rememberCanonicalKey
  split
  · exact h
  · rw [List.length_append, List.length_singleton]
    have hpositive : 0 < CANONICAL_KEY_CACHE_CAPACITY := by decide
    split
    · rw [List.length_tail]
      omega
    · omega

theorem sound_step {s t : KeyCache} {event : CacheEvent} (hs : Sound s)
    (h : step s event = some t) : Sound t := by
  cases event with
  | check bytes =>
    simp only [step] at h
    split at h
    · rename_i key _ hkey
      obtain rfl := Option.some.inj h
      obtain ⟨-, hcanonical⟩ := validateCanonical_eq_ok_iff.mp hkey
      refine ⟨hs.known, fun other hother => ?_, hs.capacity⟩
      rcases List.mem_cons.mp hother with rfl | hother
      · exact hcanonical
      · exact hs.checked other hother
    · obtain rfl := Option.some.inj h
      exact hs
  | remember key =>
    simp only [step] at h
    split at h
    · rename_i hkey
      obtain rfl := Option.some.inj h
      refine ⟨fun other hother => ?_, fun other hother =>
        hs.checked other (List.mem_of_mem_erase hother), ?_⟩
      · dsimp only at hother
        split at hother
        · exact hs.known other hother
        · rcases mem_of_mem_remember hother with hother | rfl
          · exact hs.known other hother
          · exact hs.checked other hkey
      · dsimp only
        split
        · exact hs.capacity
        · exact length_remember_le hs.capacity
    · cases h
  | panic =>
    obtain rfl := Option.some.inj h
    exact ⟨hs.known, hs.checked, hs.capacity⟩

theorem reached_sound {s : KeyCache} (h : s.Reached) : Sound s := by
  refine Transition.Reachable.invariant ?_ (fun s event t hs => sound_step hs) h
  rintro s rfl
  exact ⟨fun _ h => absurd h List.not_mem_nil, fun _ h => absurd h List.not_mem_nil,
    Nat.zero_le _⟩

omit [Ed25519Points] in
/-- A key that is found is the one that was looked for. -/
theorem eq_of_find {s : KeyCache} {bytes key : Bytes 32} (h : s.find bytes = some key) :
    key ∈ s.known ∧ key = bytes := by
  unfold find at h
  split at h
  · cases h
  · exact ⟨List.mem_of_find?_eq_some h, by simpa using List.find?_some h⟩

/-- **What is remembered changes no answer.** -/
theorem validate_of_reached {s : KeyCache} (h : s.Reached) :
    s.validateCanonicalEd25519VerifyingKeyBytes =
      Identity.validateCanonicalEd25519VerifyingKeyBytes := by
  funext bytes
  unfold KeyCache.validateCanonicalEd25519VerifyingKeyBytes
  cases hfound : s.find bytes with
  | none => rfl
  | some key =>
    obtain ⟨hkey, rfl⟩ := eq_of_find hfound
    exact ((reached_sound h).known key hkey).validated.symm

end KeyCache

/-! ## 4. A key has one name -/

section

variable [Ed25519Points]

theorem encodeDidKeyWith_eq_ok_iff {key : Bytes 32} {did : String} :
    encodeDidKeyWith validateCanonicalEd25519VerifyingKeyBytes key = .ok did ↔
      CanonicalKey key ∧ encodeCanonicalDidKeyBytes key = did := by
  unfold encodeDidKeyWith
  rw [Codec.bind_eq_ok]
  constructor
  · rintro ⟨verified, hverified, hname⟩
    obtain ⟨rfl, hkey⟩ := validateCanonical_eq_ok_iff.mp hverified
    exact ⟨hkey, Except.ok.inj hname⟩
  · rintro ⟨hkey, rfl⟩
    exact ⟨key, hkey.validated, rfl⟩

/-- **Names are keys.** Whatever the process remembers when a name is written and when it is read:
a canonical key has a name of the one length and beginning, is read back from it and from no other
text; a text that is read is the name its key is given; and no answer of the point checks depends
on what is remembered. -/
theorem didKey_codec {s t : KeyCache} (hs : s.Reached) (ht : t.Reached) :
    (∀ key, CanonicalKey key → ∃ did, s.encodeDidKey key = .ok did ∧
      did.toList.length = 56 ∧ Text.startsWith did "did:key:z6Mk" = true ∧
      t.decodeDidKey did = .ok key ∧ ∀ other, t.decodeDidKey other = .ok key → other = did) ∧
    (∀ did key, t.decodeDidKey did = .ok key → CanonicalKey key ∧ s.encodeDidKey key = .ok did) ∧
    ∀ bytes, s.validateCanonicalEd25519VerifyingKeyBytes bytes =
      validateCanonicalEd25519VerifyingKeyBytes bytes := by
  have hencode : s.encodeDidKey = encodeDidKeyWith validateCanonicalEd25519VerifyingKeyBytes :=
    congrArg encodeDidKeyWith (KeyCache.validate_of_reached hs)
  have hdecode : t.decodeDidKey = decodeDidKey :=
    (congrArg decodeDidKeyWith (KeyCache.validate_of_reached ht)).trans
      (funext decodeDidKeyWith_validateCanonical)
  rw [hencode, hdecode]
  refine ⟨fun key hkey => ?_, fun did key hdid => ?_, fun bytes => ?_⟩
  · refine ⟨encodeCanonicalDidKeyBytes key, encodeDidKeyWith_eq_ok_iff.mpr ⟨hkey, rfl⟩,
      length_toList_did key, startsWith_did key, decodeDidKey_encode hkey.validated,
      fun other hother => ?_⟩
    exact (eq_of_decodeDidKey hother).2
  · obtain ⟨hkey, rfl⟩ := eq_of_decodeDidKey hdid
    exact ⟨hkey, encodeDidKeyWith_eq_ok_iff.mpr ⟨hkey, rfl⟩⟩
  · rw [KeyCache.validate_of_reached hs]

end

namespace Sample

def key : Bytes 32 := List.Vector.replicate 32 7

def remembered : KeyCache := ⟨[key], false, []⟩

theorem remembered_reached : letI := keyPoints; remembered.Reached :=
  ⟨KeyCache.empty, [.check key, .remember key], rfl, by rfl⟩

theorem didKey_of_remembered : letI := keyPoints
    ∃ did, remembered.encodeDidKey key = .ok did ∧ did.toList.length = 56 ∧
      KeyCache.empty.decodeDidKey did = .ok key ∧
      remembered.validateCanonicalEd25519VerifyingKeyBytes key = .ok key := by
  let _ := keyPoints
  have hempty : KeyCache.empty.Reached := ⟨KeyCache.empty, [], rfl, rfl⟩
  obtain ⟨hnames, -, hanswers⟩ := didKey_codec remembered_reached hempty
  obtain ⟨did, hencode, hlength, -, hdecode, -⟩ := hnames key ⟨key, rfl, rfl, rfl, rfl⟩
  exact ⟨did, hencode, hlength, hdecode, (hanswers key).trans rfl⟩

end Sample

end ElastosRuntime.Identity
