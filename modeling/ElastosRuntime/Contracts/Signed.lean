/-
# Signed statements

What the signed documents of the contracts have in common: a statement, a 64-byte Ed25519
signature over its canonical form, and a bounded lifetime.  Ten of them differ only in their
domain and in the names their errors give to the two fields; they are instances of `Signed`.
Verifying a signature is the business of each document's `verify`, which is not part of its
encoding.
-/
import ElastosRuntime.Contracts.Keys

namespace ElastosRuntime.Contracts

open Codec

/-- The lifetime of a statement: not from the epoch's first second, not empty, not too long. -/
def validateTimeWindow (issuedAt expiresAt maximumLifetime : UInt64) (field : String) :
    Except ContractError Unit :=
  rejectIf (issuedAt = 0 ∨ expiresAt ≤ issuedAt ∨ maximumLifetime < expiresAt - issuedAt)
    (.invalidField field)

def ED25519_SIGNATURE_BYTES : Nat := 64

/-- The domain of a signed document, what its decoder calls the statement and the signature, and
what its check calls a signature of the wrong length. -/
structure SignedSpec where
  domain : String
  statementField : String
  signatureField : String
  lengthField : String

structure Signed (α : Type) (s : SignedSpec) where
  statement : α
  signature : List UInt8
deriving DecidableEq

namespace Signed

variable {α : Type} [CanonicalBody α] {s : SignedSpec}

def validate (v : Signed α s) : Except ContractError Unit := do
  requireCanonical v.statement
  rejectIf (v.signature.length ≠ ED25519_SIGNATURE_BYTES) (.invalidField s.lengthField)

def new (statement : α) (signature : List UInt8) : Except ContractError (Signed α s) :=
  build validate ⟨statement, signature⟩

instance : CanonicalBody (Signed α s) where
  DOMAIN := s.domain
  validate := validate
  encodeFields v := do
    Encoder.nested v.statement
    Encoder.bytes v.signature
  decodeFields := do
    new
      (← Decoder.nested s.statementField)
      (← Decoder.bytes s.signatureField ED25519_SIGNATURE_BYTES)

instance [LawfulBody α] : LawfulBody (Signed α s) where
  mirrors v h := by
    obtain ⟨⟨⟩, _, hlen⟩ := bind_eq_ok.mp h
    rw [rejectIf_eq_ok, not_not] at hlen
    exact (mirrors_nested _).bind <| (mirrors_bytes fun _ => hlen.le).last (build_eq h)

/-- The signature is the last thing a signed document is written with. -/
theorem signature_suffix {v : Signed α s} {bytes : List UInt8} (h : canonicalBytes v = .ok bytes) :
    ∃ front, bytes = front ++ v.signature := by
  obtain ⟨_, hrun⟩ := canonicalBytes_eq_ok.mp h
  obtain ⟨⟨⟩, out, _, hbytes⟩ := run_bind_eq_ok.mp hrun
  obtain ⟨⟨⟩, out', _, hput⟩ := run_bind_eq_ok.mp hbytes
  obtain ⟨⟨⟩, out'', _, hput⟩ := run_bind_eq_ok.mp hput
  cases hput
  exact ⟨out'', rfl⟩

end Signed

end ElastosRuntime.Contracts
