/-
# Signatures of an Ethereum account

`crypto/evm/signature.rs`: what a managed key signs, and whose signature an external wallet has
handed in.  The curve (`k256`) is a parameter, and so is what it says when it refuses; of an error
that quotes such a text only the part before it is kept.
-/
import ElastosRuntime.Wallet.Validation

namespace ElastosRuntime.Wallet

open Contracts Text WalletCurve

/-- The signing side of `k256`.  A public key is written as a point of the curve, in full or
compressed. -/
class WalletSigner extends WalletCurve where
  SigningKey : Type
  signingKeyFromSlice : List UInt8 → Option SigningKey
  signingKeyToBytes : SigningKey → List UInt8
  encodedPoint : SigningKey → List UInt8
  compressedPoint : SigningKey → List UInt8
  signPrehashRecoverable : SigningKey → Bytes 32 → Option (Signature × UInt8)
  signatureToBytes : Signature → Bytes 64
  signatureToDer : Signature → List UInt8
  signatureFromDer : List UInt8 → Option Signature
  verifyPrehash : (publicKey : List UInt8) → Bytes 32 → Signature → Option Bool

section

variable [WalletSigner]

open WalletSigner

/-- The address of a public key written in full. -/
def evmAddressOfPoint (point : List UInt8) : String :=
  "0x" ++ hexEncode ((keccak256 (point.drop 1)).toList.drop 12)

def evmAddressForSigningKey (signingKey : SigningKey) : String :=
  lowercase (evmAddressOfPoint (encodedPoint signingKey))

def signEvmPrehash (signingKey : SigningKey) (hash : Bytes 32) : Except String String := do
  let (signature, recoveryId) ← okOr (signPrehashRecoverable signingKey hash) "signature error"
  pure ("0x" ++ hexEncode ((signatureToBytes signature).toList ++ [recoveryId]))

def signEvmMessage (signingKey : SigningKey) (message : List UInt8) : Except String String :=
  signEvmPrehash signingKey (ethereumSignedMessageHash message)

def normalizeEvmRecoveryId (v : UInt8) : Except String UInt8 :=
  if v = 0 ∨ v = 1 then .ok v
  else if v = 27 ∨ v = 28 then .ok (v - 27)
  else .error "unsupported EVM recovery id"

/-- The bytes of a signature in hex, with or without the prefix, and its last byte. -/
def signatureParts (signatureHex : String) : Except String (Signature × UInt8) := do
  let signatureHex := (stripPrefix signatureHex "0x").getD signatureHex
  let bytes ← okOr (hexDecode signatureHex) "invalid signature hex"
  failIf (bytes.length ≠ 65) "EVM signature must be 65 bytes"
  let signature ← okOr (signatureFromSlice (bytes.take 64)) "invalid EVM signature"
  pure (signature, bytes.getD 64 0)

def recoverEvmAddressFromHash (hash : Bytes 32) (signatureHex : String) :
    Except String String := do
  let (signature, v) ← signatureParts signatureHex
  let recoveryId ← normalizeEvmRecoveryId v
  let publicKey ← okOr (recoverFromPrehash hash signature recoveryId)
    "failed to recover EVM signer"
  failIf (publicKey.length ≠ 65) "unexpected recovered public key length"
  pure (evmAddressOfPoint publicKey)

/-- `elastos_auth::recover_evm_address` -/
def recoverEvmAddress (message signatureHex : String) : Except String (String × Bytes 32) := do
  let messageHash := ethereumSignedMessageHash (utf8Bytes message)
  let address ← recoverEvmAddressFromHash messageHash signatureHex
  pure (address, messageHash)

def canonicalizeEvmSignature (signatureHex : String) : Except String (List UInt8) := do
  let (signature, v) ← signatureParts signatureHex
  failIf (normalizeS signature).isSome "EVM signature must use canonical low-S form"
  let recoveryId ← normalizeEvmRecoveryId v
  pure ((signatureToBytes signature).toList ++ [recoveryId])

end

end ElastosRuntime.Wallet
