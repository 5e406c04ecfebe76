/-
# Passkey ceremonies

`webauthn.rs`: what a registration or authentication response has to contain, and the manager that
hands out challenges and redeems them.  Base64, JSON, CBOR and the signature schemes are crates.
Times are nanoseconds of the process clock.
-/
import ElastosRuntime.Identity.Store
import ElastosRuntime.Lib.Table

namespace ElastosRuntime.Identity

open Text

/-! ## 1. What the browser answers -/

structure AuthenticatorAttestationResponse where
  clientDataJson : String
  attestationObject : String

structure RegistrationResponse where
  response : AuthenticatorAttestationResponse

structure AuthenticatorAssertionResponse where
  clientDataJson : String
  authenticatorData : String
  signature : String

structure AuthenticationResponse where
  rawId : String
  response : AuthenticatorAssertionResponse

structure CollectedClientData where
  type : String
  challenge : String
  origin : String
  crossOrigin : Bool
  topOrigin : Option String
deriving DecidableEq

inductive CborValue where
  | integer (value : Int)
  | bytes (value : List UInt8)
  | text (value : String)
  | map (entries : List (CborValue × CborValue))
  | other

/-- URL-safe base64 without padding, the JSON of the client data, CBOR, and the two signature
schemes: an EC key is its uncompressed point, an RSA key its subject public key info. -/
class WebAuthnCrates where
  base64Encode : List UInt8 → String
  base64Decode : String → Option (List UInt8)
  clientDataFromSlice : List UInt8 → Option CollectedClientData
  cborFromReader : List UInt8 → Option CborValue
  isSec1Point : List UInt8 → Bool
  verifyEs256 : List UInt8 → List UInt8 → List UInt8 → Bool
  verifyRs256 : List UInt8 → List UInt8 → List UInt8 → Bool

def FLAG_USER_PRESENT : UInt8 := 0x01
def FLAG_USER_VERIFIED : UInt8 := 0x04
def FLAG_ATTESTED_CREDENTIAL_DATA : UInt8 := 0x40

/-- Whatever is not refused is admitted. -/
def refuseIf (p : Prop) [Decidable p] (text : String) : IdentityResult Unit :=
  if p then .error (.message text) else .ok ()

def requireUserPresentAndVerified (flags : UInt8) : IdentityResult Unit := do
  refuseIf (flags &&& FLAG_USER_PRESENT = 0) "User presence flag not set"
  refuseIf (flags &&& FLAG_USER_VERIFIED = 0) "User verification flag not set"

/-! ## 2. COSE keys -/

inductive CosePublicKey where
  | es256 (point : List UInt8)
  | rs256 (publicKeySpki : List UInt8)

/-- Find an integer value in a CBOR map by integer key. -/
def findCborInt (map : List (CborValue × CborValue)) (key : Int) : IdentityResult Int :=
  match map.findSome? fun entry =>
      match entry with
      | (.integer k, .integer value) => if k = key then some value else none
      | _ => none with
  | some value => .ok value
  | none => .error (.message s!"COSE key missing field {key}")

/-- Find bytes value in a CBOR map by integer key. -/
def findCborBytes (map : List (CborValue × CborValue)) (key : Int) :
    IdentityResult (List UInt8) :=
  match map.findSome? fun entry =>
      match entry with
      | (.integer k, .bytes value) => if k = key then some value else none
      | _ => none with
  | some value => .ok value
  | none => .error (.message s!"COSE key missing bytes field {key}")

/-- Extract a byte string from a CBOR map by string key. -/
def extractCborBytes (value : CborValue) (key : String) : IdentityResult (List UInt8) :=
  match value with
  | .map entries =>
    match entries.findSome? fun entry =>
        match entry with
        | (.text k, .bytes value) => if k = key then some value else none
        | _ => none with
    | some value => .ok value
    | none => .error (.message s!"Missing CBOR field: {key}")
  | _ => .error (.message "Expected CBOR map")

def derPushLen (out : List UInt8) (len : Nat) : List UInt8 :=
  if len < 128 then out ++ [len.toUInt8]
  else
    let bytes := beBytes 8 len
    let significant := bytes.dropWhile (· = 0)
    out ++ (0x80 ||| significant.length.toUInt8) :: significant

def derSequence (parts : List (List UInt8)) : List UInt8 :=
  derPushLen [0x30] (parts.map List.length).sum ++ parts.flatten

def derTlv (tag : UInt8) (value : List UInt8) : List UInt8 :=
  derPushLen [tag] value.length ++ value

def derPositiveIntegerBytes (bytes : List UInt8) (label : String) : IdentityResult (List UInt8) :=
  match bytes.dropWhile (· = 0) with
  | [] => .error (.message s!"{label} must be non-zero")
  | first :: rest =>
    .ok (if first &&& 0x80 ≠ 0 then 0 :: first :: rest else first :: rest)

def rsaSpkiDer (modulus exponent : List UInt8) : IdentityResult (List UInt8) := do
  let modulus ← derPositiveIntegerBytes modulus "RSA modulus"
  let exponent ← derPositiveIntegerBytes exponent "RSA exponent"
  let rsaPublicKey := derSequence [derTlv 0x02 modulus, derTlv 0x02 exponent]
  let algorithm := derSequence
    [[0x06, 0x09, 0x2a, 0x86, 0x48, 0x86, 0xf7, 0x0d, 0x01, 0x01, 0x01], [0x05, 0x00]]
  .ok (derSequence [algorithm, derTlv 0x03 (0 :: rsaPublicKey)])

section

variable [WebAuthnCrates]

def parseCoseEs256KeyMap (map : List (CborValue × CborValue)) : IdentityResult (List UInt8) := do
  let kty ← findCborInt map 1
  refuseIf (kty ≠ 2) s!"Unsupported key type: {kty} (expected EC2=2)"
  let alg ← findCborInt map 3
  refuseIf (alg ≠ -7) s!"Unsupported algorithm: {alg} (expected ES256=-7)"
  let x ← findCborBytes map (-2)
  let y ← findCborBytes map (-3)
  refuseIf (x.length ≠ 32 ∨ y.length ≠ 32)
    s!"Invalid EC point size: x={x.length}, y={y.length}"
  let point := 0x04 :: x ++ y
  if WebAuthnCrates.isSec1Point point then .ok point else .error .cause

omit [WebAuthnCrates] in
def parseCoseRs256KeyMap (map : List (CborValue × CborValue)) : IdentityResult (List UInt8) := do
  let kty ← findCborInt map 1
  refuseIf (kty ≠ 3) s!"Unsupported key type: {kty} (expected RSA=3)"
  let alg ← findCborInt map 3
  refuseIf (alg ≠ -257) s!"Unsupported algorithm: {alg} (expected RS256=-257)"
  let n ← findCborBytes map (-1)
  let e ← findCborBytes map (-2)
  rsaSpkiDer n e

def parseCosePublicKey (coseBytes : List UInt8) : IdentityResult CosePublicKey := do
  let coseKey ← ofCrate (WebAuthnCrates.cborFromReader coseBytes)
  match coseKey with
  | .map map =>
    let alg ← findCborInt map 3
    if alg = -7 then .es256 <$> parseCoseEs256KeyMap map
    else if alg = -257 then .rs256 <$> parseCoseRs256KeyMap map
    else .error (.message s!"Unsupported algorithm: {alg} (expected ES256=-7 or RS256=-257)")
  | _ => .error (.message "COSE key is not a map")

def CosePublicKey.verify (signedData sigBytes : List UInt8) : CosePublicKey → Bool
  | es256 point => WebAuthnCrates.verifyEs256 point signedData sigBytes
  | rs256 spki => WebAuthnCrates.verifyRs256 spki signedData sigBytes

/-! ## 3. Checking a response -/

structure RegistrationCandidate where
  credential : StoredCredential
  origin : String
  userVerified : Bool
deriving DecidableEq

variable [Crypto]

/-- The authenticator data begins with the hash of the id of the relying party it is made for. -/
def rpIdHash (rpId : String) : List UInt8 := (Crypto.sha256 (utf8Bytes rpId)).toList

def signCountOf (authData : List UInt8) : Nat := ofBeBytes ((authData.drop 33).take 4)

def verifyRegistrationCandidate (response : RegistrationResponse) (rpId rpOrigin challenge : String) :
    IdentityResult RegistrationCandidate := do
  refuseIf (4096 < byteLength response.response.clientDataJson ∨
    32768 < byteLength response.response.attestationObject) "Registration response exceeds limit"
  let clientDataBytes ← ofCrate (WebAuthnCrates.base64Decode response.response.clientDataJson)
  let clientData ← ofCrate (WebAuthnCrates.clientDataFromSlice clientDataBytes)
  refuseIf (clientData.crossOrigin ∨ clientData.topOrigin.isSome)
    "Registration requires top-level Home"
  refuseIf (clientData.type ≠ "webauthn.create") s!"Invalid client data type: {clientData.type}"
  let receivedChallenge ← ofCrate (WebAuthnCrates.base64Decode clientData.challenge)
  let expectedChallenge ← ofCrate (WebAuthnCrates.base64Decode challenge)
  refuseIf (receivedChallenge ≠ expectedChallenge) "Challenge mismatch"
  refuseIf (clientData.origin ≠ rpOrigin)
    s!"Origin mismatch: expected {rpOrigin}, got {clientData.origin}"
  let attObjBytes ← ofCrate (WebAuthnCrates.base64Decode response.response.attestationObject)
  let attObj ← ofCrate (WebAuthnCrates.cborFromReader attObjBytes)
  let authDataBytes ← extractCborBytes attObj "authData"
  refuseIf (authDataBytes.length < 55) "AuthData too short"
  refuseIf (authDataBytes.take 32 ≠ rpIdHash rpId) "RP ID hash mismatch"
  let flags := authDataBytes.getD 32 0
  requireUserPresentAndVerified flags
  refuseIf (flags &&& FLAG_ATTESTED_CREDENTIAL_DATA = 0) "No attested credential data"
  let signCount := signCountOf authDataBytes
  let credIdLen := ofBeBytes ((authDataBytes.drop 53).take 2)
  refuseIf (credIdLen = 0 ∨ 1024 < credIdLen ∨ authDataBytes.length ≤ 55 + credIdLen)
    "Invalid attested credential length"
  let credId := (authDataBytes.drop 55).take credIdLen
  let coseKeyBytes := authDataBytes.drop (55 + credIdLen)
  refuseIf (4096 < coseKeyBytes.length) "Credential key exceeds limit"
  let _ ← parseCosePublicKey coseKeyBytes
  .ok ⟨⟨WebAuthnCrates.base64Encode credId, WebAuthnCrates.base64Encode coseKeyBytes, signCount,
    rpId⟩, clientData.origin, true⟩

def trimEndSlashes (s : String) : String :=
  String.ofList (s.toList.reverse.dropWhile (· = '/')).reverse

/-- The checks of `complete_authentication` on the response to a challenge, for the stored
credential it names: the presented counter and the client's origin. -/
def verifyAssertion (stored : StoredCredential) (challenge : List UInt8) (allowClone : Bool)
    (response : AuthenticationResponse) (rpId rpOrigin : String) : IdentityResult (Nat × String) := do
  let clientDataBytes ← ofCrate (WebAuthnCrates.base64Decode response.response.clientDataJson)
  let clientData ← ofCrate (WebAuthnCrates.clientDataFromSlice clientDataBytes)
  refuseIf (clientData.type ≠ "webauthn.get") s!"Invalid client data type: {clientData.type}"
  let receivedChallenge ← ofCrate (WebAuthnCrates.base64Decode clientData.challenge)
  refuseIf (receivedChallenge ≠ challenge) "Challenge mismatch"
  refuseIf (trimEndSlashes clientData.origin ≠ trimEndSlashes rpOrigin) "Origin mismatch"
  let authDataBytes ← ofCrate (WebAuthnCrates.base64Decode response.response.authenticatorData)
  refuseIf (authDataBytes.length < 37) "AuthData too short"
  refuseIf (authDataBytes.take 32 ≠ rpIdHash rpId) "RP ID hash mismatch"
  requireUserPresentAndVerified (authDataBytes.getD 32 0)
  let signCount := signCountOf authDataBytes
  refuseIf (0 < stored.signCount ∧ signCount ≤ stored.signCount ∧ allowClone = false)
    (s!"Credential clone detected: sign_count went from {stored.signCount} to {signCount} " ++
      "(expected increase). This passkey may have been copied. Set allow_clone=true in dev mode " ++
      "to override.")
  let signedData := authDataBytes ++ (Crypto.sha256 clientDataBytes).toList
  let sigBytes ← ofCrate (WebAuthnCrates.base64Decode response.response.signature)
  let publicKeyBytes ← ofCrate (WebAuthnCrates.base64Decode stored.publicKey)
  let publicKey ← parseCosePublicKey publicKeyBytes
  if publicKey.verify signedData sigBytes then .ok (signCount, clientData.origin)
  else .error .cause

end

/-! ## 4. Crates to evaluate the model with -/

/-- An EC key. -/
def plainCoseKey : CborValue :=
  .map [(.integer 1, .integer 2), (.integer 3, .integer (-7)),
    (.integer (-2), .bytes (List.replicate 32 1)), (.integer (-3), .bytes (List.replicate 32 2))]

/-- A text with one character a byte. -/
def textOfBytes (bytes : List UInt8) : String :=
  String.ofList (bytes.map fun b => Char.ofNat b.toNat)

def bytesOfText? (s : String) : Option (List UInt8) :=
  if s.toList.all fun c => c.toNat < 256 then some (s.toList.map fun c => c.toNat.toUInt8)
  else none

/-- Texts have one character a byte, client data is its fields in a row, every key is the same, and
every signature verifies. -/
@[reducible] def plainWebAuthnCrates : WebAuthnCrates where
  base64Encode := textOfBytes
  base64Decode := bytesOfText?
  clientDataFromSlice := fun bytes =>
    match Json.decodeRow bytes with
    | some [type, challenge, origin] => do
      let type ← ofUtf8Bytes? type
      let challenge ← ofUtf8Bytes? challenge
      let origin ← ofUtf8Bytes? origin
      some ⟨type, challenge, origin, false, none⟩
    | _ => none
  cborFromReader := fun _ => some plainCoseKey
  isSec1Point := fun point => point.length == 65
  verifyEs256 := fun _ _ _ => true
  verifyRs256 := fun _ _ _ => true

end ElastosRuntime.Identity
