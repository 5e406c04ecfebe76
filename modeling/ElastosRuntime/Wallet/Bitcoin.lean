/-
# Proofs of a Bitcoin account

`crypto/bitcoin.rs`: BIP-322 signatures of native SegWit and Taproot accounts, and signed messages
of the older kinds.  The `bitcoin` crate is a parameter: addresses and their scripts, the hashes a
transaction is signed by, and Schnorr signatures.
-/
import ElastosRuntime.Wallet.Signatures

namespace ElastosRuntime.Wallet

open Contracts Text WalletCurve WalletSigner

def BITCOIN_PROOF_BIP322_SIMPLE : String := "bip322_simple"
def BITCOIN_PROOF_SIGNED_MESSAGE : String := "bitcoin_signed_message"

structure OutPoint where
  txid : Bytes 32
  vout : UInt32

structure TxIn where
  previousOutput : OutPoint
  scriptSig : List UInt8
  sequence : UInt32
  witness : List (List UInt8)

structure TxOut where
  value : UInt64
  scriptPubkey : List UInt8

structure Transaction where
  version : Int32
  lockTime : UInt32
  input : List TxIn
  output : List TxOut

/-- The `bitcoin` crate, for its main network, and base64. -/
class BitcoinCrate where
  Address : Type
  addressFromStr : String → Option Address
  addressToString : Address → String
  scriptPubkey : Address → List UInt8
  isP2pkh : List UInt8 → Bool
  isP2sh : List UInt8 → Bool
  p2pkh : (compressedKey : List UInt8) → Option String
  p2shwpkh : (compressedKey : List UInt8) → Option String
  p2wpkh : (compressedKey : List UInt8) → Option String
  hash160 : List UInt8 → Bytes 20
  sha256d : List UInt8 → Bytes 32
  computeTxid : Transaction → Bytes 32
  p2wpkhSignatureHash : Transaction → (scriptPubkey : List UInt8) → Option (Bytes 32)
  taprootSignatureHash : Transaction → List TxOut → (sighashType : UInt8) → Option (Bytes 32)
  taprootSignatureFromSlice : List UInt8 → Option (List UInt8 × UInt8)
  verifySchnorr : (signature : List UInt8) → Bytes 32 → (outputKey : List UInt8) → Option Bool
  deserializeWitness : List UInt8 → Option (List (List UInt8))
  serializeWitness : List (List UInt8) → List UInt8
  base64Decode : String → Option (List UInt8)
  base64Encode : List UInt8 → String

section

variable [Crypto] [WalletSigner] [BitcoinCrate]

open BitcoinCrate

/-! ## 1. Addresses -/

def bitcoinNetwork (network : String) : Except String Unit :=
  failIf (network ∉ ["bitcoin", "mainnet", "btc-mainnet"]) "unsupported Bitcoin proof network"

def bitcoinAddress (address : String) : Except String Address :=
  okOr (addressFromStr address) "invalid Bitcoin address"

def validateBitcoinNetwork (network : String) : Except String Unit := bitcoinNetwork network

def validateBitcoinAddress (address network : String) : Except String Unit := do
  bitcoinNetwork network
  let _ ← bitcoinAddress address

def btcP2wpkhAddressForSigningKey (signingKey : SigningKey) : Except String String :=
  okOr (p2wpkh (compressedPoint signingKey)) "invalid managed Bitcoin public key"

def isP2wpkhScript (script : List UInt8) : Bool :=
  script.length == 22 && script.take 2 == [0x00, 0x14]

def isP2trScript (script : List UInt8) : Bool :=
  script.length == 34 && script.take 2 == [0x51, 0x20]

def bitcoinProofTypeForAddress (network address : String) : Except String String := do
  bitcoinNetwork network
  let address ← bitcoinAddress address
  let script := scriptPubkey address
  if isP2wpkhScript script || isP2trScript script then pure BITCOIN_PROOF_BIP322_SIMPLE
  else if isP2pkh script || isP2sh script then pure BITCOIN_PROOF_SIGNED_MESSAGE
  else throw "unsupported Bitcoin address type"

def bitcoinSignatureTypeForProofType (proofType : String) : String :=
  if proofType = BITCOIN_PROOF_SIGNED_MESSAGE then "ecdsa" else BITCOIN_PROOF_BIP322_SIMPLE

/-! ## 2. What is signed -/

def bip322MessageHash (message : List UInt8) : Bytes 32 :=
  let tag := (Crypto.sha256 (utf8Bytes "BIP0322-signed-message")).toList
  Crypto.sha256 (tag ++ tag ++ message)

def bip322ToSpendTx (messageHash : Bytes 32) (scriptPubkey : List UInt8) : Transaction where
  version := 0
  lockTime := 0
  input := [⟨⟨Bytes.zero 32, 0xffffffff⟩, 0x00 :: 0x20 :: messageHash.toList, 0, []⟩]
  output := [⟨0, scriptPubkey⟩]

def OP_RETURN : UInt8 := 0x6a

def bip322ToSignTx (previousTxid : Bytes 32) (witness : List (List UInt8)) : Transaction where
  version := 0
  lockTime := 0
  input := [⟨⟨previousTxid, 0⟩, [], 0, witness⟩]
  output := [⟨0, [OP_RETURN]⟩]

def pushCompactSize (value : Nat) : List UInt8 :=
  if value < 253 then [UInt8.ofNat value]
  else if value ≤ 0xffff then 253 :: leBytes 2 value
  else if value ≤ 0xffffffff then 254 :: leBytes 4 value
  else 255 :: leBytes 8 value

def bitcoinSignedMessageHash (message : List UInt8) : Bytes 32 :=
  sha256d (utf8Bytes "\x18Bitcoin Signed Message:\n" ++ pushCompactSize message.length ++ message)

/-! ## 3. Verification -/

structure BitcoinProofResult where
  chainNamespace : String
  address : String
  proofType : String
  proofStrength : String
  messageHash : Bytes 32

def bip322SimpleWitness (signature : String) : Except String (List (List UInt8)) := do
  let bytes ← okOr (base64Decode signature) "invalid BIP-322 base64 signature"
  okOr (deserializeWitness bytes) "invalid BIP-322 simple witness"

/-- What both kinds of BIP-322 proof answer. -/
def bip322Result (address : Address) (messageHash : Bytes 32) : BitcoinProofResult where
  chainNamespace := BITCOIN_MAINNET_CHAIN_NAMESPACE
  address := addressToString address
  proofType := "bip322_simple"
  proofStrength := "standard"
  messageHash := messageHash

def SIGHASH_ALL : UInt8 := 0x01

def verifyBip322SimpleP2wpkh (address : Address) (script : List UInt8) (messageHash : Bytes 32)
    (witness : List (List UInt8)) : Except String BitcoinProofResult := do
  failIf (witness.length ≠ 2) "BIP-322 P2WPKH proof must contain signature and public key"
  let signatureWithHashType ← okOr witness[0]? "BIP-322 signature witness is missing"
  failIf (signatureWithHashType.length < 2) "BIP-322 signature witness is too short"
  let sighashType ← okOr signatureWithHashType.getLast? "BIP-322 signature sighash flag is missing"
  failIf (sighashType ≠ SIGHASH_ALL) "BIP-322 P2WPKH proof must use SIGHASH_ALL"
  let publicKey ← okOr witness[1]? "BIP-322 public key witness is missing"
  failIf ((hash160 publicKey).toList ≠ script.drop 2)
    "BIP-322 public key does not match Bitcoin address"
  let toSpend := bip322ToSpendTx messageHash script
  let toSign := bip322ToSignTx (computeTxid toSpend) witness
  let sighash ← okOr (p2wpkhSignatureHash toSign script) "BIP-322 sighash failed"
  let signature ← okOr (signatureFromDer signatureWithHashType.dropLast)
    "invalid BIP-322 DER signature"
  let valid ← okOr (verifyPrehash publicKey sighash signature) "invalid BIP-322 public key"
  failIf (valid = false) "invalid BIP-322 signature"
  pure (bip322Result address messageHash)

def verifyBip322SimpleP2tr (address : Address) (script : List UInt8) (messageHash : Bytes 32)
    (witness : List (List UInt8)) : Except String BitcoinProofResult := do
  failIf (witness.length ≠ 1) "BIP-322 P2TR proof must contain one Schnorr signature"
  let signatureBytes ← okOr witness[0]? "BIP-322 Taproot signature witness is missing"
  let (signature, sighashType) ← okOr (taprootSignatureFromSlice signatureBytes)
    "invalid BIP-322 Taproot signature"
  let toSpend := bip322ToSpendTx messageHash script
  let toSign := bip322ToSignTx (computeTxid toSpend) witness
  let sighash ← okOr (taprootSignatureHash toSign [⟨0, script⟩] sighashType)
    "BIP-322 Taproot sighash failed"
  let valid ← okOr (verifySchnorr signature sighash (script.drop 2)) "invalid Taproot output key"
  failIf (valid = false) "invalid BIP-322 Taproot signature"
  pure (bip322Result address messageHash)

def verifyBip322Simple (network address message signature : String) :
    Except String BitcoinProofResult := do
  bitcoinNetwork network
  let address ← bitcoinAddress address
  let script := scriptPubkey address
  let messageHash := bip322MessageHash (utf8Bytes message)
  let witness ← bip322SimpleWitness signature
  if isP2wpkhScript script then verifyBip322SimpleP2wpkh address script messageHash witness
  else if isP2trScript script then verifyBip322SimpleP2tr address script messageHash witness
  else
    throw <| "BIP-322 simple verification supports Native SegWit P2WPKH and Taproot P2TR accounts" ++
      " only; Legacy and Nested SegWit require bitcoin_signed_message proof"

def bitcoinCompactSignature (signature : String) : Except String Signature := do
  let bytes ← okOr (base64Decode signature) "invalid Bitcoin signed-message base64 signature"
  let compact ←
    if bytes.length = 65 then pure (bytes.drop 1)
    else if bytes.length = 64 then pure bytes
    else throw "Bitcoin signed-message signature must be 64 or 65 bytes"
  okOr (signatureFromSlice compact) "invalid Bitcoin signed-message signature"

def verifyBitcoinSignedMessage (network address message signature publicKey : String) :
    Except String BitcoinProofResult := do
  bitcoinNetwork network
  let address ← bitcoinAddress address
  let script := scriptPubkey address
  failIf (isP2pkh script = false ∧ isP2sh script = false)
    "Bitcoin signed-message proof supports Legacy P2PKH and Nested SegWit P2SH-P2WPKH accounts only"
  let publicKey ← okOr (hexDecode (trim publicKey)) "invalid Bitcoin public key"
  let expected ← okOr (if isP2pkh script then p2pkh publicKey else p2shwpkh publicKey)
    "invalid compressed Bitcoin public key"
  failIf (expected ≠ addressToString address) "Bitcoin public key does not match selected address"
  let messageHash := bitcoinSignedMessageHash (utf8Bytes message)
  let signature ← bitcoinCompactSignature signature
  let valid ← okOr (verifyPrehash publicKey messageHash signature) "invalid Bitcoin public key"
  failIf (valid = false) "invalid Bitcoin signed-message signature"
  pure
    { chainNamespace := BITCOIN_MAINNET_CHAIN_NAMESPACE
      address := addressToString address
      proofType := BITCOIN_PROOF_SIGNED_MESSAGE
      proofStrength := "standard"
      messageHash := messageHash }

def verifyBitcoinProofForType
    (expectedProofType requestedSignatureType network address message signature : String)
    (publicKey : Option String) : Except String BitcoinProofResult := do
  if expectedProofType = BITCOIN_PROOF_BIP322_SIMPLE ∧
      requestedSignatureType ∈ [BITCOIN_PROOF_BIP322_SIMPLE, "bip322-simple"] then
    verifyBip322Simple network address message signature
  else if expectedProofType = BITCOIN_PROOF_SIGNED_MESSAGE ∧
      requestedSignatureType ∈ [BITCOIN_PROOF_SIGNED_MESSAGE, "ecdsa"] then
    let publicKey ← okOr publicKey "Bitcoin signed-message proof missing public key"
    verifyBitcoinSignedMessage network address message signature publicKey
  else
    throw <| s!"Bitcoin signature type {requestedSignatureType} does not match required " ++
      s!"proof type {expectedProofType}"

/-! ## 4. Payloads -/

def BITCOIN_CHALLENGE_LINE : String := "- elastos://auth/bitcoin-challenge/"

def validateBitcoinBip322ProofPayload (payload : Json) (account : LinkedAccount) :
    Except String Unit := do
  failIf (payload.getStr "schema" ≠ some "elastos.wallet.bitcoin_bip322_request/v1")
    "Bitcoin BIP-322 payload has unsupported schema"
  failIf (payload.getStr "wallet_intent" ≠ some "bitcoin_bip322_proof")
    "Bitcoin BIP-322 payload has mismatched wallet_intent"
  failIf (payload.getStr "chain_namespace" ≠ some account.chainNamespace)
    "Bitcoin BIP-322 payload chain does not match account"
  failIf (payload.getStr "address" ≠ some account.address)
    "Bitcoin BIP-322 payload address does not match account"
  let message ← okOr (payload.getStr "message") "Bitcoin BIP-322 payload missing message"
  failIf (message = "" ∨ MAX_APPROVAL_PAYLOAD_BYTES < byteLength message)
    "Bitcoin BIP-322 message size is invalid"
  failIf (contains message "wants you to prove Bitcoin account ownership" = false)
    "Bitcoin BIP-322 message must be a Runtime account proof"
  failIf (contains message account.address = false)
    "Bitcoin BIP-322 message address does not match account"
  failIf ((lines message).any (fun line => startsWith (trim line) BITCOIN_CHALLENGE_LINE) = false)
    "Bitcoin BIP-322 message must bind a Runtime bitcoin challenge"

def bitcoinChallengeIdFromMessage (message : String) : Option String :=
  (lines message).findSome? fun line =>
    (stripPrefix (trim line) BITCOIN_CHALLENGE_LINE).filter fun challengeId =>
      trim challengeId ≠ ""

/-- `sign_bip322_simple_p2wpkh_approval`, as far as the signature goes: of the text signed, and of
the address it is signed for. -/
def signBip322SimpleP2wpkh (signingKey : SigningKey) (address message : String) :
    Except String (String × Bytes 32) := do
  let address ← bitcoinAddress address
  let script := scriptPubkey address
  failIf (isP2wpkhScript script = false) "managed Bitcoin account must be native P2WPKH"
  let messageHash := bip322MessageHash (utf8Bytes message)
  let toSpend := bip322ToSpendTx messageHash script
  let toSign := bip322ToSignTx (computeTxid toSpend) []
  let sighash ← okOr (p2wpkhSignatureHash toSign script) "BIP-322 sighash failed"
  let (signature, _) ← okOr (signPrehashRecoverable signingKey sighash) "BIP-322 signing failed"
  let witness := [signatureToDer signature ++ [SIGHASH_ALL], compressedPoint signingKey]
  pure (base64Encode (serializeWitness witness), messageHash)

end

end ElastosRuntime.Wallet
