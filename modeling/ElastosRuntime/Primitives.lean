/-
# Runtime primitives: secure timestamps and cryptography

`SecureTimestamp` is the pair of a wall-clock second and a process-wide sequence number that
the runtime stamps tokens and requests with (`timestamp.rs`).  Reading the clock is the
environment's choice, so what `now()` returned is an argument of the functions that compare
against it.

`Crypto` names the hash and the signature scheme the runtime links against.  Nothing is
assumed of them by the model; `LawfulCrypto` is the one documented property some results use,
that a signature made with a key verifies under the matching public key.
-/
import ElastosRuntime.Lib.Bytes

namespace ElastosRuntime

/-! ## 1. Secure timestamps -/

/-- A wall-clock time with a tie-breaking sequence number. -/
structure SecureTimestamp where
  unixSecs : Nat
  monotonicSeq : Nat
deriving DecidableEq, Repr

/-- Clock skew tolerance in seconds. -/
def CLOCK_SKEW_TOLERANCE_SECS : Nat := 300

namespace SecureTimestamp

/-- Whether this timestamp is before another, considering both fields. -/
def isBefore (t other : SecureTimestamp) : Bool :=
  if t.unixSecs ≠ other.unixSecs then
    decide (t.unixSecs < other.unixSecs)
  else
    decide (t.monotonicSeq < other.monotonicSeq)

/-- Whether this timestamp is in the future of a clock reading, with the skew tolerance. -/
def isFuture (t now : SecureTimestamp) : Bool :=
  decide (now.unixSecs + CLOCK_SKEW_TOLERANCE_SECS < t.unixSecs)

/-- Whether this timestamp has expired at a clock reading. -/
def isExpired (t now : SecureTimestamp) : Bool := t.isBefore now

/-- The order `isBefore` decides is the lexicographic one. -/
theorem isBefore_iff {s t : SecureTimestamp} :
    s.isBefore t = true ↔ s.unixSecs < t.unixSecs ∨
      (s.unixSecs = t.unixSecs ∧ s.monotonicSeq < t.monotonicSeq) := by
  unfold isBefore
  split
  · simp only [decide_eq_true_eq]
    omega
  · simp only [decide_eq_true_eq]
    omega

end SecureTimestamp

/-! ## 2. Hashing and signatures -/

/-- The hash function and the Ed25519 scheme: keys are their 32-byte encodings. -/
class Crypto where
  sha256 : List UInt8 → Bytes 32
  verifyingKey : Bytes 32 → Bytes 32
  sign : Bytes 32 → List UInt8 → Bytes 64
  verify : Bytes 32 → List UInt8 → Bytes 64 → Bool

/-- A signature made with a signing key verifies under its verifying key. -/
class LawfulCrypto [Crypto] : Prop where
  verify_sign : ∀ (sk : Bytes 32) (message : List UInt8),
    Crypto.verify (Crypto.verifyingKey sk) message (Crypto.sign sk message) = true

/-- A scheme to evaluate the model with: a key is its own verifying key, its signature of any
message is the key written twice, and the hash is constant. -/
@[reducible] def keyEchoCrypto : Crypto where
  sha256 := fun _ => Bytes.zero 32
  verifyingKey := id
  sign := fun sk _ => ⟨sk.toList ++ sk.toList, by simp⟩
  verify := fun vk _ signature => signature.toList == vk.toList ++ vk.toList

theorem keyEchoCrypto_lawful : @LawfulCrypto keyEchoCrypto :=
  letI := keyEchoCrypto
  ⟨fun sk _ => beq_self_eq_true (sk.toList ++ sk.toList)⟩

/-- The last 32 bytes, last byte first. -/
def tailDigest (bytes : List UInt8) : Bytes 32 :=
  ⟨(bytes.reverse ++ List.replicate 32 0).take 32, by simp⟩

/-- The same scheme with a hash that is not constant: it tells messages apart by their tails. -/
@[reducible] def tailEchoCrypto : Crypto where
  sha256 := tailDigest
  verifyingKey := id
  sign := keyEchoCrypto.sign
  verify := keyEchoCrypto.verify

end ElastosRuntime
