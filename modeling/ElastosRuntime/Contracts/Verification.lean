/-
# Verification of the documents of a release

Each document has a `verify` of its own, which checks the document against the one above it and
hands out a `Verified…` record: the wallet's request (`rights.rs`), the release request
(`release_request.rs`), the recipient authorization (`recipient_authorization.rs`), the custody
epoch (`custody_epoch.rs`), a node's decision (`node_decision.rs`), its contribution
(`node_contribution.rs`) and the terminal receipt (`terminal_receipt.rs`).

For each the module states what has been checked once it succeeds: a structure of named facts, and
a theorem that success is exactly those facts and what the record is.  The chain of a whole release
is put together from them in `ReleaseChain`.
-/
import ElastosRuntime.Contracts.Encodable

namespace ElastosRuntime.Contracts

open Codec

/-! ## 1. Errors -/

inductive ReplayClaimError where
  | alreadyClaimed
  | unavailable
deriving DecidableEq

inductive RightsError where
  | contract (error : ContractError)
  | replay (error : ReplayClaimError)
  | bindingMismatch (field : String)
  | walletMismatch
  | invalidWalletSignature
  | notYetValid
  | expired
  | unexpectedReceiptIssuer
  | invalidReceiptSignature
deriving DecidableEq

inductive KeyReleaseError where
  | contract (error : ContractError)
  | rights (error : RightsError)
  | replay (error : ReplayClaimError)
  | bindingMismatch (field : String)
  | unknownNode
  | rightsDenied
  | invalidNodeDecisionSignature
  | invalidNodeContributionSignature
  | invalidTerminalSignature
  | unexpectedTerminalIssuer
  | insufficientContributions
deriving DecidableEq

inductive RecipientAuthorizationError where
  | contract (error : ContractError)
  | bindingMismatch (field : String)
  | notYetValid
  | expired
  | invalidProfileSignature
deriving DecidableEq

inductive CustodyEpochError where
  | contract (error : ContractError)
  | bindingMismatch (field : String)
  | invalidIssuerSignature
deriving DecidableEq

/-- `if bad { return Err(e) }`, for any error. -/
def failIf {ε : Type} (bad : Prop) [Decidable bad] (e : ε) : Except ε Unit :=
  if bad then .error e else .ok ()

/-- `Option::ok_or` -/
def okOr {ε α : Type} (x : Option α) (e : ε) : Except ε α :=
  match x with
  | some a => .ok a
  | none => .error e

section

variable {ε ε' α : Type}

@[simp] theorem failIf_eq_ok {bad : Prop} [Decidable bad] {e : ε} {u : Unit} :
    failIf bad e = .ok u ↔ ¬bad := by
  unfold failIf
  split <;> simp_all

theorem failIf_bind_pure (bad : Prop) [Decidable bad] (e : ε) (a : α) :
    (failIf bad e >>= fun _ => pure a) = if bad then .error e else .ok a := by
  unfold failIf
  split
  · rfl
  · rfl

@[simp] theorem okOr_eq_ok {x : Option α} {e : ε} {a : α} : okOr x e = .ok a ↔ x = some a := by
  cases x <;> simp [okOr]

@[simp] theorem mapError_eq_ok {convert : ε → ε'} {result : Except ε α} {a : α} :
    result.mapError convert = .ok a ↔ result = .ok a := by
  cases result with
  | error e => exact ⟨nofun, nofun⟩
  | ok b => constructor <;> (rintro ⟨⟩; rfl)

@[simp] theorem pure_eq_ok {a b : α} : (pure a : Except ε α) = .ok b ↔ a = b :=
  ⟨Except.ok.inj, congrArg Except.ok⟩

/-- The unit result of a check. -/
@[simp] theorem exists_unit {p : Unit → Prop} : (∃ u, p u) ↔ p () :=
  ⟨fun ⟨(), h⟩ => h, fun h => ⟨(), h⟩⟩

end

/-! ## 2. Windows -/

def RIGHTS_CLOCK_SKEW_SECS : UInt64 := 5

/-- `u64::saturating_add` -/
def saturatingAdd (a b : UInt64) : UInt64 :=
  if UInt64.size ≤ a.toNat + b.toNat then UInt64.ofNat (UInt64.size - 1) else a + b

def validateActive (issuedAt expiresAt now : UInt64) : Except RightsError Unit := do
  failIf (saturatingAdd now RIGHTS_CLOCK_SKEW_SECS < issuedAt) .notYetValid
  failIf (expiresAt ≤ now) .expired

/-- The time span of a document. -/
structure Window where
  issuedAt : UInt64
  expiresAt : UInt64

namespace Window

/-- One document lives inside another. -/
def Within (w outer : Window) : Prop :=
  outer.issuedAt ≤ w.issuedAt ∧ w.expiresAt ≤ outer.expiresAt

/-- The document is in force, the issue side being allowed five seconds of clock skew. -/
def Active (w : Window) (now : UInt64) : Prop :=
  w.issuedAt.toNat ≤ now.toNat + 5 ∧ now < w.expiresAt

instance (w outer : Window) : Decidable (w.Within outer) := inferInstanceAs (Decidable (_ ∧ _))

instance (w : Window) (now : UInt64) : Decidable (w.Active now) :=
  inferInstanceAs (Decidable (_ ∧ _))

theorem Within.refl (w : Window) : w.Within w := ⟨UInt64.le_refl _, UInt64.le_refl _⟩

/-- What contains a document in force is in force. -/
theorem Active.of_within {w outer : Window} {now : UInt64} (h : w.Within outer)
    (ha : w.Active now) : outer.Active now := by
  obtain ⟨hissued, hexpires⟩ := h
  rw [UInt64.le_iff_toNat_le] at hissued hexpires
  have hlive := UInt64.lt_iff_toNat_lt.mp ha.2
  exact ⟨hissued.trans ha.1, UInt64.lt_iff_toNat_lt.mpr (hlive.trans_le hexpires)⟩

end Window

theorem toNat_saturatingAdd (a b : UInt64) :
    (saturatingAdd a b).toNat = min (a.toNat + b.toNat) (UInt64.size - 1) := by
  have hsize : UInt64.size = 18446744073709551616 := rfl
  unfold saturatingAdd
  split
  · rw [UInt64.toNat_ofNat_of_lt' (by decide)]
    omega
  · rw [UInt64.toNat_add]
    omega

theorem validateActive_eq_ok {issuedAt expiresAt now : UInt64} {u : Unit} :
    validateActive issuedAt expiresAt now = .ok u ↔ Window.Active ⟨issuedAt, expiresAt⟩ now := by
  have hsize : UInt64.size = 18446744073709551616 := rfl
  have hskew : RIGHTS_CLOCK_SKEW_SECS.toNat = 5 := rfl
  have hissued := issuedAt.toNat_lt
  simp only [validateActive, bind_eq_ok, failIf_eq_ok, exists_const, Window.Active,
    UInt64.lt_iff_toNat_lt, UInt64.le_iff_toNat_le, toNat_saturatingAdd, hskew, hsize]
  omega

/-- The conditions `a.issued_at < b.issued_at || a.expires_at > b.expires_at` of the source. -/
theorem within_iff {w outer : Window} :
    w.Within outer ↔ ¬(w.issuedAt < outer.issuedAt ∨ outer.expiresAt < w.expiresAt) := by
  rw [not_or, UInt64.not_lt, UInt64.not_lt]
  rfl

/-! ## 3. Signatures -/

/-- The Ed25519 check the signed documents share: a signature of the right length, a key that
passes its check again, and the statement's canonical form under both. -/
def verifySignature [Crypto] {ε α : Type} [CanonicalBody α] {ok : Bytes 32 → Bool} {field : String}
    (contract : ContractError → ε) (invalid : ε) (key : Checked ok field) (statement : α)
    (signature : List UInt8) : Except ε Unit := do
  let signature ← okOr (if h : signature.length = 64 then some ⟨signature, h⟩ else none) invalid
  key.recheck.mapError fun _ => invalid
  let bytes ← (canonicalBytes statement).mapError contract
  failIf (¬Crypto.verify key.value bytes signature) invalid

/-- The statement was signed with the key that matches `key`. -/
def SignedBy [Crypto] {α : Type} [CanonicalBody α] (key : Bytes 32) (statement : α)
    (signature : List UInt8) : Prop :=
  ∃ (bytes : List UInt8) (h : signature.length = 64), canonicalBytes statement = .ok bytes ∧
    Crypto.verify key bytes ⟨signature, h⟩ = true

theorem verifySignature_eq_ok [Crypto] {ε α : Type} [CanonicalBody α] {ok : Bytes 32 → Bool}
    {field : String} {contract : ContractError → ε} {invalid : ε} {key : Checked ok field}
    {statement : α} {signature : List UInt8} {u : Unit} :
    verifySignature contract invalid key statement signature = .ok u ↔
      SignedBy key.value statement signature := by
  simp only [verifySignature, bind_eq_ok, okOr_eq_ok, mapError_eq_ok, failIf_eq_ok, not_not,
    key.recheck_eq]
  constructor
  · rintro ⟨sig, hsig, _, _, bytes, hbytes, hverify⟩
    split at hsig
    · rename_i hlen
      cases hsig
      exact ⟨bytes, hlen, hbytes, hverify⟩
    · exact nomatch hsig
  · rintro ⟨bytes, hlen, hbytes, hverify⟩
    exact ⟨_, dif_pos hlen, (), trivial, bytes, hbytes, hverify⟩

/-- The recovery of a wallet from its signature (`k256`) and the hash Ethereum uses (`sha3`). -/
class WalletCurve where
  keccak256 : List UInt8 → Bytes 32
  Signature : Type
  signatureFromSlice : List UInt8 → Option Signature
  normalizeS : Signature → Option Signature
  recoverFromPrehash : Bytes 32 → Signature → UInt8 → Option (List UInt8)

section

variable [WalletCurve]

open WalletCurve

def ethereumSignedMessageHash (message : List UInt8) : Bytes 32 :=
  keccak256
    (utf8Bytes ("\x19Ethereum Signed Message:\n" ++ toString message.length) ++ message)

/-- `RecoveryId::from_byte` -/
def recoveryIdFromByte (byte : UInt8) : Option UInt8 := if byte ≤ 3 then some byte else none

def recoverWallet (canonicalRequest signatureBytes : List UInt8) :
    Except RightsError WalletAddress := do
  failIf (signatureBytes.length ≠ WALLET_SIGNATURE_BYTES) .invalidWalletSignature
  let signature ← okOr (signatureFromSlice (signatureBytes.take 64)) .invalidWalletSignature
  failIf (normalizeS signature).isSome .invalidWalletSignature
  let recoveryByte ← okOr signatureBytes[64]? .invalidWalletSignature
  let recoveryId ← okOr (recoveryIdFromByte recoveryByte) .invalidWalletSignature
  let publicKey ←
    okOr (recoverFromPrehash (ethereumSignedMessageHash canonicalRequest) signature recoveryId)
      .invalidWalletSignature
  failIf (publicKey.length ≠ 65 ∨ publicKey.head? ≠ some 4) .invalidWalletSignature
  pure ((keccak256 (publicKey.drop 1)).drop 12)

end

/-! ## 4. The wallet's request -/

variable [Curves] [Crypto]

structure RightsVerificationContextV1 where
  expectedBinding : ProtectedContentBindingV1
  expectedAction : RightsActionV1
  expectedRecipient : RecipientKeyIdentityV1
  now : UInt64

structure VerifiedRightsRequestV1 where
  requestHash : Digest32
  binding : ProtectedContentBindingV1
  action : RightsActionV1
  recipient : RecipientKeyIdentityV1
  issuedAt : UInt64
  expiresAt : UInt64

namespace WalletSignedRightsRequestV1

/-- The record `verify_unclaimed` hands out. -/
def toVerified (v : WalletSignedRightsRequestV1) (requestHash : Digest32) :
    VerifiedRightsRequestV1 where
  requestHash := requestHash
  binding := v.request.binding
  action := v.request.action
  recipient := v.request.recipient
  issuedAt := v.request.issuedAt
  expiresAt := v.request.expiresAt

def verifyUnclaimed [WalletCurve] (v : WalletSignedRightsRequestV1)
    (context : RightsVerificationContextV1) : Except RightsError VerifiedRightsRequestV1 := do
  (requireCanonical v).mapError .contract
  let request := v.request
  failIf (request.binding ≠ context.expectedBinding) (.bindingMismatch "protected_content_binding")
  failIf (request.action ≠ context.expectedAction) (.bindingMismatch "rights_action")
  failIf (request.recipient ≠ context.expectedRecipient) (.bindingMismatch "recipient_key_identity")
  validateActive request.issuedAt request.expiresAt context.now
  let bytes ← (canonicalBytes request).mapError .contract
  let recovered ← recoverWallet bytes v.walletSignature
  failIf (recovered ≠ request.binding.wallet) .walletMismatch
  let requestHash ← request.requestHash.mapError .contract
  pure (v.toVerified requestHash)

/-- What holds of a request that verified. -/
structure Verified [WalletCurve] (v : WalletSignedRightsRequestV1)
    (context : RightsVerificationContextV1) : Prop where
  canonical : requireCanonical v = .ok ()
  binding : v.request.binding = context.expectedBinding
  action : v.request.action = context.expectedAction
  recipient : v.request.recipient = context.expectedRecipient
  active : Window.Active ⟨v.request.issuedAt, v.request.expiresAt⟩ context.now
  signed : ∃ bytes, canonicalBytes v.request = .ok bytes ∧
    recoverWallet bytes v.walletSignature = .ok v.request.binding.wallet

theorem verifyUnclaimed_eq_ok [WalletCurve] {v : WalletSignedRightsRequestV1}
    {context : RightsVerificationContextV1} {verified : VerifiedRightsRequestV1} :
    v.verifyUnclaimed context = .ok verified ↔ v.Verified context ∧
      ∃ requestHash, v.request.requestHash = .ok requestHash ∧
        v.toVerified requestHash = verified := by
  simp only [verifyUnclaimed, bind_eq_ok, mapError_eq_ok, failIf_eq_ok, not_not,
    validateActive_eq_ok, exists_unit, pure_eq_ok]
  constructor
  · rintro ⟨hcanonical, hbinding, haction, hrecipient, hactive, bytes, hbytes, _, hwallet, rfl, h⟩
    exact ⟨⟨hcanonical, hbinding, haction, hrecipient, hactive, bytes, hbytes, hwallet⟩, h⟩
  · rintro ⟨⟨hcanonical, hbinding, haction, hrecipient, hactive, bytes, hbytes, hwallet⟩, h⟩
    exact ⟨hcanonical, hbinding, haction, hrecipient, hactive, bytes, hbytes, _, hwallet, rfl, h⟩

end WalletSignedRightsRequestV1

/-! ## 5. The release request -/

structure VerifiedKeyReleaseRequestV1 where
  requestHash : Digest32
  binding : ProtectedContentBindingV1
  rightsRequestHash : Digest32
  action : RightsActionV1
  recipient : RecipientKeyIdentityV1
  issuedAt : UInt64
  expiresAt : UInt64

namespace KeyReleaseRequestV1

def requestHash (v : KeyReleaseRequestV1) : Except ContractError Digest32 := canonicalHash v

def toVerified (v : KeyReleaseRequestV1) (requestHash : Digest32) :
    VerifiedKeyReleaseRequestV1 where
  requestHash := requestHash
  binding := v.binding
  rightsRequestHash := v.rightsRequestHash
  action := v.action
  recipient := v.recipient
  issuedAt := v.issuedAt
  expiresAt := v.expiresAt

def verifyUnclaimed (v : KeyReleaseRequestV1) (rights : VerifiedRightsRequestV1) (now : UInt64) :
    Except KeyReleaseError VerifiedKeyReleaseRequestV1 := do
  (requireCanonical v).mapError .contract
  failIf (v.binding ≠ rights.binding) (.bindingMismatch "protected_content_binding")
  failIf (v.rightsRequestHash ≠ rights.requestHash) (.bindingMismatch "rights_request_hash")
  failIf (v.action ≠ rights.action) (.bindingMismatch "rights_action")
  failIf (v.recipient ≠ rights.recipient) (.bindingMismatch "recipient_key_identity")
  failIf (v.issuedAt < rights.issuedAt ∨ rights.expiresAt < v.expiresAt)
    (.bindingMismatch "rights_request_window")
  (validateActive v.issuedAt v.expiresAt now).mapError .rights
  let requestHash ← v.requestHash.mapError .contract
  pure (v.toVerified requestHash)

structure Verified (v : KeyReleaseRequestV1) (rights : VerifiedRightsRequestV1) (now : UInt64) :
    Prop where
  canonical : requireCanonical v = .ok ()
  binding : v.binding = rights.binding
  rightsRequestHash : v.rightsRequestHash = rights.requestHash
  action : v.action = rights.action
  recipient : v.recipient = rights.recipient
  within : Window.Within ⟨v.issuedAt, v.expiresAt⟩ ⟨rights.issuedAt, rights.expiresAt⟩
  active : Window.Active ⟨v.issuedAt, v.expiresAt⟩ now

theorem verifyUnclaimed_eq_ok {v : KeyReleaseRequestV1} {rights : VerifiedRightsRequestV1}
    {now : UInt64} {verified : VerifiedKeyReleaseRequestV1} :
    v.verifyUnclaimed rights now = .ok verified ↔ v.Verified rights now ∧
      ∃ requestHash, v.requestHash = .ok requestHash ∧ v.toVerified requestHash = verified := by
  simp only [verifyUnclaimed, bind_eq_ok, mapError_eq_ok, failIf_eq_ok, not_not,
    validateActive_eq_ok, exists_unit, pure_eq_ok]
  constructor
  · rintro ⟨hcanonical, hbinding, hhash, haction, hrecipient, hwithin, hactive, h⟩
    exact ⟨⟨hcanonical, hbinding, hhash, haction, hrecipient, within_iff.mpr hwithin, hactive⟩, h⟩
  · rintro ⟨⟨hcanonical, hbinding, hhash, haction, hrecipient, hwithin, hactive⟩, h⟩
    exact ⟨hcanonical, hbinding, hhash, haction, hrecipient, within_iff.mp hwithin, hactive, h⟩

end KeyReleaseRequestV1

/-! ## 6. The authorization of the recipient key -/

/-- `RecipientPublicKeyBytesV1::key_identity` -/
def RecipientPublicKeyBytesV1.keyIdentity (key : RecipientPublicKeyBytesV1)
    (encryptionSuiteId : String) : Except ContractError RecipientKeyIdentityV1 :=
  RecipientKeyIdentityV1.new encryptionSuiteId (Crypto.sha256 key.value.toList)

structure RecipientKeyAuthorizationContextV1 where
  expectedBinding : ProtectedContentBindingV1
  expectedAction : RightsActionV1
  expectedRecipientPublicKey : RecipientPublicKeyBytesV1
  expectedRuntimeOperationIssuer : RuntimeOperationIssuerKeyV1
  now : UInt64

structure VerifiedRecipientKeyAuthorizationV1 where
  statementHash : Digest32
  binding : ProtectedContentBindingV1
  action : RightsActionV1
  recipientPublicKey : RecipientPublicKeyBytesV1
  recipientIdentity : RecipientKeyIdentityV1
  runtimeOperationIssuer : RuntimeOperationIssuerKeyV1
  issuedAt : UInt64
  expiresAt : UInt64

/-- How the authorization reports a window that is not in force. -/
def RecipientAuthorizationError.ofActive : RightsError → RecipientAuthorizationError
  | .notYetValid => .notYetValid
  | .expired => .expired
  | .contract error => .contract error
  | _ => .invalidProfileSignature

namespace SignedRecipientKeyAuthorizationV1

def toVerified (v : SignedRecipientKeyAuthorizationV1) (statementHash : Digest32) :
    VerifiedRecipientKeyAuthorizationV1 where
  statementHash := statementHash
  binding := v.statement.binding
  action := v.statement.action
  recipientPublicKey := v.statement.recipientPublicKey
  recipientIdentity := v.statement.recipientIdentity
  runtimeOperationIssuer := v.statement.runtimeOperationIssuer
  issuedAt := v.statement.issuedAt
  expiresAt := v.statement.expiresAt

def verify (v : SignedRecipientKeyAuthorizationV1) (context : RecipientKeyAuthorizationContextV1) :
    Except RecipientAuthorizationError VerifiedRecipientKeyAuthorizationV1 := do
  (requireCanonical v).mapError .contract
  let statement := v.statement
  failIf (statement.binding ≠ context.expectedBinding)
    (.bindingMismatch "protected_content_binding")
  failIf (statement.action ≠ context.expectedAction) (.bindingMismatch "rights_action")
  failIf (statement.recipientPublicKey ≠ context.expectedRecipientPublicKey)
    (.bindingMismatch "recipient_public_key")
  failIf (statement.runtimeOperationIssuer ≠ context.expectedRuntimeOperationIssuer)
    (.bindingMismatch "runtime_operation_issuer")
  failIf (¬statement.recipientIdentity.matchesPublicKey statement.recipientPublicKey.value.toList)
    (.bindingMismatch "recipient_key_identity")
  (validateActive statement.issuedAt statement.expiresAt context.now).mapError
    RecipientAuthorizationError.ofActive
  verifySignature RecipientAuthorizationError.contract .invalidProfileSignature
    statement.binding.profile statement v.signature
  let statementHash ← (canonicalHash statement).mapError .contract
  pure (v.toVerified statementHash)

structure Verified (v : SignedRecipientKeyAuthorizationV1)
    (context : RecipientKeyAuthorizationContextV1) : Prop where
  canonical : requireCanonical v = .ok ()
  binding : v.statement.binding = context.expectedBinding
  action : v.statement.action = context.expectedAction
  recipientPublicKey : v.statement.recipientPublicKey = context.expectedRecipientPublicKey
  runtimeOperationIssuer :
    v.statement.runtimeOperationIssuer = context.expectedRuntimeOperationIssuer
  matchesKey :
    v.statement.recipientIdentity.matchesPublicKey v.statement.recipientPublicKey.value.toList
  active : Window.Active ⟨v.statement.issuedAt, v.statement.expiresAt⟩ context.now
  signed : SignedBy v.statement.binding.profile.value v.statement v.signature

theorem verify_eq_ok {v : SignedRecipientKeyAuthorizationV1}
    {context : RecipientKeyAuthorizationContextV1}
    {verified : VerifiedRecipientKeyAuthorizationV1} :
    v.verify context = .ok verified ↔ v.Verified context ∧
      ∃ statementHash, canonicalHash v.statement = .ok statementHash ∧
        v.toVerified statementHash = verified := by
  simp only [verify, bind_eq_ok, mapError_eq_ok, failIf_eq_ok, not_not, validateActive_eq_ok,
    verifySignature_eq_ok, exists_unit, pure_eq_ok]
  constructor
  · rintro ⟨hcanonical, hbinding, haction, hkey, hissuer, hmatches, hactive, hsigned, h⟩
    exact ⟨⟨hcanonical, hbinding, haction, hkey, hissuer, hmatches, hactive, hsigned⟩, h⟩
  · rintro ⟨⟨hcanonical, hbinding, haction, hkey, hissuer, hmatches, hactive, hsigned⟩, h⟩
    exact ⟨hcanonical, hbinding, haction, hkey, hissuer, hmatches, hactive, hsigned, h⟩

end SignedRecipientKeyAuthorizationV1

/-! ## 7. The custody epoch -/

structure VerifiedCustodyEpochV1 where
  epochIdentity : CustodyEpochIdentityV1
  issuer : CustodyEpochIssuerKeyV1
  approvedSuites : CustodyApprovedSuitesV1
  threshold : ThresholdV1
  nodes : List CustodyNodeIdentityV1

namespace VerifiedCustodyEpochV1

def nodeSet (v : VerifiedCustodyEpochV1) : Except ContractError NodeSetV1 :=
  NodeSetV1.new v.threshold (v.nodes.map (·.nodePublicKey))

def nodeSetId (v : VerifiedCustodyEpochV1) : Except ContractError Digest32 := do
  let nodeSet ← v.nodeSet
  nodeSet.nodeSetId

/-- As with the manifests, the binary search of the source is a search. -/
def node (v : VerifiedCustodyEpochV1) (nodePublicKey : NodePublicKey) :
    Option CustodyNodeIdentityV1 :=
  v.nodes.find? fun node => node.nodePublicKey = nodePublicKey

end VerifiedCustodyEpochV1

namespace SignedCustodyEpochV1

def toVerified (v : SignedCustodyEpochV1) (epochIdentity : CustodyEpochIdentityV1) :
    VerifiedCustodyEpochV1 where
  epochIdentity := epochIdentity
  issuer := v.statement.issuer
  approvedSuites := v.statement.approvedSuites
  threshold := v.statement.threshold
  nodes := v.statement.nodes

def verify (v : SignedCustodyEpochV1) : Except CustodyEpochError VerifiedCustodyEpochV1 := do
  (requireCanonical v).mapError .contract
  verifySignature CustodyEpochError.contract .invalidIssuerSignature v.statement.issuer v.statement
    v.signature
  let epochIdentity ← v.epochIdentity.mapError .contract
  pure (v.toVerified epochIdentity)

def verifyAgainstKeyEnvelope (v : SignedCustodyEpochV1) (keyEnvelope : KeyEnvelopeIdentityV1) :
    Except CustodyEpochError VerifiedCustodyEpochV1 := do
  let verified ← v.verify
  failIf (verified.epochIdentity ≠ keyEnvelope.custodyEpoch)
    (.bindingMismatch "custody_epoch_identity")
  let nodeSetId ← verified.nodeSetId.mapError .contract
  failIf (nodeSetId ≠ keyEnvelope.nodeSetId) (.bindingMismatch "node_set_id")
  failIf (verified.threshold ≠ keyEnvelope.threshold) (.bindingMismatch "threshold")
  pure verified

structure Verified (v : SignedCustodyEpochV1) (keyEnvelope : KeyEnvelopeIdentityV1) : Prop where
  canonical : requireCanonical v = .ok ()
  signed : SignedBy v.statement.issuer.value v.statement v.signature
  epochIdentity : v.epochIdentity = .ok keyEnvelope.custodyEpoch
  nodeSetId : (v.toVerified keyEnvelope.custodyEpoch).nodeSetId = .ok keyEnvelope.nodeSetId
  threshold : v.statement.threshold = keyEnvelope.threshold

theorem verifyAgainstKeyEnvelope_eq_ok {v : SignedCustodyEpochV1}
    {keyEnvelope : KeyEnvelopeIdentityV1} {verified : VerifiedCustodyEpochV1} :
    v.verifyAgainstKeyEnvelope keyEnvelope = .ok verified ↔
      v.Verified keyEnvelope ∧ v.toVerified keyEnvelope.custodyEpoch = verified := by
  simp only [verifyAgainstKeyEnvelope, verify, bind_eq_ok, mapError_eq_ok, failIf_eq_ok, not_not,
    verifySignature_eq_ok, exists_unit, pure_eq_ok]
  constructor
  · rintro ⟨_, ⟨hcanonical, hsigned, _, hepoch, rfl⟩, rfl, _, hnodes, rfl, hthreshold, rfl⟩
    exact ⟨⟨hcanonical, hsigned, hepoch, hnodes, hthreshold⟩, rfl⟩
  · rintro ⟨⟨hcanonical, hsigned, hepoch, hnodes, hthreshold⟩, rfl⟩
    exact ⟨_, ⟨hcanonical, hsigned, _, hepoch, rfl⟩, rfl, _, hnodes, rfl, hthreshold, rfl⟩

end SignedCustodyEpochV1

/-! ## 8. A node's decision -/

instance (node : NodePublicKey) (nodes : List NodePublicKey) : Decidable (node ∈ nodes) :=
  inferInstance

/-- The binary search of the source, on a list that is ascending. -/
def NodeSetV1.contains (v : NodeSetV1) (node : NodePublicKey) : Bool := decide (node ∈ v.members)

structure VerifiedNodeRightsDecisionV1 where
  decisionHash : Digest32
  nodePublicKey : NodePublicKey
  decision : RightsDecisionV1
  issuedAt : UInt64
  expiresAt : UInt64
deriving DecidableEq

namespace SignedNodeRightsDecisionV1

def toVerified (v : SignedNodeRightsDecisionV1) (decisionHash : Digest32) :
    VerifiedNodeRightsDecisionV1 where
  decisionHash := decisionHash
  nodePublicKey := v.statement.nodePublicKey
  decision := v.statement.decision
  issuedAt := v.statement.issuedAt
  expiresAt := v.statement.expiresAt

def verify (v : SignedNodeRightsDecisionV1) (request : VerifiedKeyReleaseRequestV1)
    (nodeSet : NodeSetV1) (now : UInt64) :
    Except KeyReleaseError VerifiedNodeRightsDecisionV1 := do
  (requireCanonical v).mapError .contract
  let statement := v.statement
  let nodeSetId ← nodeSet.nodeSetId.mapError .contract
  failIf (nodeSetId ≠ request.binding.keyEnvelope.nodeSetId) (.bindingMismatch "node_set_id")
  failIf (nodeSet.threshold ≠ request.binding.keyEnvelope.threshold) (.bindingMismatch "threshold")
  failIf (¬nodeSet.contains statement.nodePublicKey) .unknownNode
  failIf (statement.releaseRequestHash ≠ request.requestHash)
    (.bindingMismatch "key_release_request_hash")
  failIf (statement.rightsRequestHash ≠ request.rightsRequestHash)
    (.bindingMismatch "rights_request_hash")
  failIf (statement.binding ≠ request.binding) (.bindingMismatch "protected_content_binding")
  failIf (statement.action ≠ request.action) (.bindingMismatch "rights_action")
  failIf (statement.issuedAt < request.issuedAt ∨ request.expiresAt < statement.expiresAt)
    (.bindingMismatch "node_decision_window")
  (validateActive statement.issuedAt statement.expiresAt now).mapError .rights
  verifySignature KeyReleaseError.contract .invalidNodeDecisionSignature statement.nodePublicKey
    statement v.signature
  let decisionHash ← (canonicalHash v).mapError .contract
  pure (v.toVerified decisionHash)

structure Verified (v : SignedNodeRightsDecisionV1) (request : VerifiedKeyReleaseRequestV1)
    (nodeSet : NodeSetV1) (now : UInt64) : Prop where
  canonical : requireCanonical v = .ok ()
  nodeSetId : nodeSet.nodeSetId = .ok request.binding.keyEnvelope.nodeSetId
  threshold : nodeSet.threshold = request.binding.keyEnvelope.threshold
  member : v.statement.nodePublicKey ∈ nodeSet.members
  releaseRequestHash : v.statement.releaseRequestHash = request.requestHash
  rightsRequestHash : v.statement.rightsRequestHash = request.rightsRequestHash
  binding : v.statement.binding = request.binding
  action : v.statement.action = request.action
  within : Window.Within ⟨v.statement.issuedAt, v.statement.expiresAt⟩
    ⟨request.issuedAt, request.expiresAt⟩
  active : Window.Active ⟨v.statement.issuedAt, v.statement.expiresAt⟩ now
  signed : SignedBy v.statement.nodePublicKey.value v.statement v.signature

theorem verify_eq_ok {v : SignedNodeRightsDecisionV1} {request : VerifiedKeyReleaseRequestV1}
    {nodeSet : NodeSetV1} {now : UInt64} {verified : VerifiedNodeRightsDecisionV1} :
    v.verify request nodeSet now = .ok verified ↔ v.Verified request nodeSet now ∧
      ∃ decisionHash, canonicalHash v = .ok decisionHash ∧
        v.toVerified decisionHash = verified := by
  simp only [verify, bind_eq_ok, mapError_eq_ok, failIf_eq_ok, not_not, validateActive_eq_ok,
    verifySignature_eq_ok, exists_unit, pure_eq_ok, NodeSetV1.contains, decide_eq_true_eq]
  constructor
  · rintro ⟨hcanonical, _, hnodeSet, rfl, hthreshold, hmember, hrelease, hrights, hbinding,
      haction, hwithin, hactive, hsigned, h⟩
    exact ⟨⟨hcanonical, hnodeSet, hthreshold, hmember, hrelease, hrights, hbinding, haction,
      within_iff.mpr hwithin, hactive, hsigned⟩, h⟩
  · rintro ⟨⟨hcanonical, hnodeSet, hthreshold, hmember, hrelease, hrights, hbinding, haction,
      hwithin, hactive, hsigned⟩, h⟩
    exact ⟨hcanonical, _, hnodeSet, rfl, hthreshold, hmember, hrelease, hrights, hbinding,
      haction, within_iff.mp hwithin, hactive, hsigned, h⟩

end SignedNodeRightsDecisionV1

/-! ## 9. A node's contribution -/

/-- `RecipientSealedContributionV1::commitment` -/
def RecipientSealedContributionV1.commitment (v : RecipientSealedContributionV1) : Digest32 :=
  Crypto.sha256 v.sealedBytes

def validateNodeContributionActiveWindow (issuedAt expiresAt : UInt64)
    (request : VerifiedKeyReleaseRequestV1) (decision : VerifiedNodeRightsDecisionV1)
    (now : UInt64) : Except KeyReleaseError Unit := do
  failIf (issuedAt < request.issuedAt ∨ request.expiresAt < expiresAt)
    (.bindingMismatch "node_contribution_window")
  (validateActive issuedAt expiresAt now).mapError .rights
  failIf (issuedAt < decision.issuedAt ∨ decision.expiresAt < expiresAt)
    (.bindingMismatch "node_decision_window")

structure VerifiedNodeContributionV1 where
  releaseRequestHash : Digest32
  recipient : RecipientKeyIdentityV1
  nodePublicKey : NodePublicKey
  decisionHash : Digest32
  contributionHash : Digest32
  contributionCommitment : Digest32
  issuedAt : UInt64
  expiresAt : UInt64
deriving DecidableEq

namespace SignedNodeContributionV1

def toVerified (v : SignedNodeContributionV1) (decision : VerifiedNodeRightsDecisionV1)
    (contributionHash : Digest32) : VerifiedNodeContributionV1 where
  releaseRequestHash := v.statement.releaseRequestHash
  recipient := v.statement.recipientSealedContribution.recipient
  nodePublicKey := decision.nodePublicKey
  decisionHash := decision.decisionHash
  contributionHash := contributionHash
  contributionCommitment := v.statement.recipientSealedContribution.commitment
  issuedAt := v.statement.issuedAt
  expiresAt := v.statement.expiresAt

def verify (v : SignedNodeContributionV1) (request : VerifiedKeyReleaseRequestV1)
    (nodeSet : NodeSetV1) (now : UInt64) :
    Except KeyReleaseError VerifiedNodeContributionV1 := do
  (requireCanonical v).mapError .contract
  let statement := v.statement
  failIf (statement.releaseRequestHash ≠ request.requestHash)
    (.bindingMismatch "key_release_request_hash")
  failIf (statement.binding ≠ request.binding) (.bindingMismatch "protected_content_binding")
  failIf (statement.recipientSealedContribution.recipient ≠ request.recipient)
    (.bindingMismatch "recipient_key_identity")
  let decision ← statement.signedRightsDecision.verify request nodeSet now
  failIf (decision.decision ≠ .allowed) .rightsDenied
  validateNodeContributionActiveWindow statement.issuedAt statement.expiresAt request decision now
  verifySignature KeyReleaseError.contract .invalidNodeContributionSignature decision.nodePublicKey
    statement v.signature
  let contributionHash ← (canonicalHash v).mapError .contract
  pure (v.toVerified decision contributionHash)

structure Verified (v : SignedNodeContributionV1) (request : VerifiedKeyReleaseRequestV1)
    (nodeSet : NodeSetV1) (now : UInt64) : Prop where
  canonical : requireCanonical v = .ok ()
  releaseRequestHash : v.statement.releaseRequestHash = request.requestHash
  binding : v.statement.binding = request.binding
  recipient : v.statement.recipientSealedContribution.recipient = request.recipient
  decision : v.statement.signedRightsDecision.Verified request nodeSet now
  allowed : v.statement.signedRightsDecision.statement.decision = .allowed
  withinRequest : Window.Within ⟨v.statement.issuedAt, v.statement.expiresAt⟩
    ⟨request.issuedAt, request.expiresAt⟩
  active : Window.Active ⟨v.statement.issuedAt, v.statement.expiresAt⟩ now
  withinDecision : Window.Within ⟨v.statement.issuedAt, v.statement.expiresAt⟩
    ⟨v.statement.signedRightsDecision.statement.issuedAt,
      v.statement.signedRightsDecision.statement.expiresAt⟩
  signed : SignedBy v.statement.signedRightsDecision.statement.nodePublicKey.value v.statement
    v.signature

theorem verify_eq_ok {v : SignedNodeContributionV1} {request : VerifiedKeyReleaseRequestV1}
    {nodeSet : NodeSetV1} {now : UInt64} {verified : VerifiedNodeContributionV1} :
    v.verify request nodeSet now = .ok verified ↔ v.Verified request nodeSet now ∧
      ∃ decisionHash, canonicalHash v.statement.signedRightsDecision = .ok decisionHash ∧
        ∃ contributionHash, canonicalHash v = .ok contributionHash ∧
          v.toVerified (v.statement.signedRightsDecision.toVerified decisionHash)
            contributionHash = verified := by
  simp only [verify, validateNodeContributionActiveWindow, bind_eq_ok, mapError_eq_ok,
    failIf_eq_ok, not_not, validateActive_eq_ok, verifySignature_eq_ok, exists_unit, pure_eq_ok,
    SignedNodeRightsDecisionV1.verify_eq_ok]
  constructor
  · rintro ⟨hcanonical, hrelease, hbinding, hrecipient, _, ⟨hdecision, _, hhash, rfl⟩, hallowed,
      ⟨hrequest, hactive, hwithin⟩, hsigned, h⟩
    exact ⟨⟨hcanonical, hrelease, hbinding, hrecipient, hdecision, hallowed,
      within_iff.mpr hrequest, hactive, within_iff.mpr hwithin, hsigned⟩, _, hhash, h⟩
  · rintro ⟨⟨hcanonical, hrelease, hbinding, hrecipient, hdecision, hallowed, hrequest, hactive,
      hwithin, hsigned⟩, _, hhash, h⟩
    exact ⟨hcanonical, hrelease, hbinding, hrecipient, _, ⟨hdecision, _, hhash, rfl⟩, hallowed,
      ⟨within_iff.mp hrequest, hactive, within_iff.mp hwithin⟩, hsigned, h⟩

end SignedNodeContributionV1

/-! ## 10. The terminal receipt -/

/-- `NodeContributionRefV1::from` -/
def VerifiedNodeContributionV1.toRef (v : VerifiedNodeContributionV1) : NodeContributionRefV1 where
  nodePublicKey := v.nodePublicKey
  decisionHash := v.decisionHash
  contributionHash := v.contributionHash
  contributionCommitment := v.contributionCommitment

namespace SignedTerminalReceiptV1

/-- A released outcome needs exactly as many references as the threshold requires. -/
def checkReleased (outcome : KeyReleaseOutcomeV1) (refs required : Nat) :
    Except KeyReleaseError Unit :=
  match outcome with
  | .denied => pure ()
  | .released => do
    failIf (refs < required) .insufficientContributions
    failIf (refs ≠ required) (.bindingMismatch "release_threshold")

def verify (v : SignedTerminalReceiptV1) (request : VerifiedKeyReleaseRequestV1)
    (contributions : List VerifiedNodeContributionV1) (expectedIssuer : TerminalReceiptIssuerKey)
    (now : UInt64) : Except KeyReleaseError Unit := do
  (requireCanonical v).mapError .contract
  let statement := v.statement
  failIf (statement.issuer ≠ expectedIssuer) .unexpectedTerminalIssuer
  failIf (statement.releaseRequestHash ≠ request.requestHash)
    (.bindingMismatch "key_release_request_hash")
  failIf (statement.binding ≠ request.binding) (.bindingMismatch "protected_content_binding")
  failIf (statement.issuedAt < request.issuedAt ∨ request.expiresAt < statement.expiresAt)
    (.bindingMismatch "terminal_receipt_window")
  (validateActive statement.issuedAt statement.expiresAt now).mapError .rights
  failIf (∃ c ∈ contributions, c.releaseRequestHash ≠ request.requestHash)
    (.bindingMismatch "key_release_request_hash")
  failIf (∃ c ∈ contributions, c.recipient ≠ request.recipient)
    (.bindingMismatch "recipient_key_identity")
  failIf
    (∃ c ∈ contributions, statement.issuedAt < c.issuedAt ∨ c.expiresAt < statement.expiresAt)
    (.bindingMismatch "node_contribution_window")
  let expectedRefs := sortByKey NodeContributionRefV1.order (contributions.map (·.toRef))
  failIf (expectedRefs ≠ statement.contributionRefs) (.bindingMismatch "node_contribution_refs")
  checkReleased statement.outcome expectedRefs.length
    request.binding.keyEnvelope.threshold.required.toNat
  verifySignature KeyReleaseError.contract .invalidTerminalSignature statement.issuer statement
    v.signature

structure Verified (v : SignedTerminalReceiptV1) (request : VerifiedKeyReleaseRequestV1)
    (contributions : List VerifiedNodeContributionV1) (expectedIssuer : TerminalReceiptIssuerKey)
    (now : UInt64) : Prop where
  canonical : requireCanonical v = .ok ()
  issuer : v.statement.issuer = expectedIssuer
  releaseRequestHash : v.statement.releaseRequestHash = request.requestHash
  binding : v.statement.binding = request.binding
  withinRequest : Window.Within ⟨v.statement.issuedAt, v.statement.expiresAt⟩
    ⟨request.issuedAt, request.expiresAt⟩
  active : Window.Active ⟨v.statement.issuedAt, v.statement.expiresAt⟩ now
  contributionHash : ∀ c ∈ contributions, c.releaseRequestHash = request.requestHash
  recipient : ∀ c ∈ contributions, c.recipient = request.recipient
  withinContribution : ∀ c ∈ contributions,
    Window.Within ⟨v.statement.issuedAt, v.statement.expiresAt⟩ ⟨c.issuedAt, c.expiresAt⟩
  refs : sortByKey NodeContributionRefV1.order (contributions.map (·.toRef)) =
    v.statement.contributionRefs
  released : checkReleased v.statement.outcome
    (sortByKey NodeContributionRefV1.order (contributions.map (·.toRef))).length
    request.binding.keyEnvelope.threshold.required.toNat = .ok ()
  signed : SignedBy v.statement.issuer.value v.statement v.signature

theorem verify_eq_ok {v : SignedTerminalReceiptV1} {request : VerifiedKeyReleaseRequestV1}
    {contributions : List VerifiedNodeContributionV1} {expectedIssuer : TerminalReceiptIssuerKey}
    {now : UInt64} {u : Unit} :
    v.verify request contributions expectedIssuer now = .ok u ↔
      v.Verified request contributions expectedIssuer now := by
  simp only [verify, bind_eq_ok, mapError_eq_ok, failIf_eq_ok, not_not, validateActive_eq_ok,
    verifySignature_eq_ok, exists_unit, not_exists, not_and]
  constructor
  · rintro ⟨hcanonical, hissuer, hrelease, hbinding, hrequest, hactive, hhash, hrecipient, hwithin,
      hrefs, hreleased, hsigned⟩
    exact ⟨hcanonical, hissuer, hrelease, hbinding, within_iff.mpr hrequest, hactive, hhash,
      hrecipient, fun c hc => within_iff.mpr (hwithin c hc), hrefs, hreleased, hsigned⟩
  · rintro ⟨hcanonical, hissuer, hrelease, hbinding, hrequest, hactive, hhash, hrecipient, hwithin,
      hrefs, hreleased, hsigned⟩
    exact ⟨hcanonical, hissuer, hrelease, hbinding, within_iff.mp hrequest, hactive, hhash,
      hrecipient, fun c hc => within_iff.mp (hwithin c hc), hrefs, hreleased, hsigned⟩

end SignedTerminalReceiptV1

end ElastosRuntime.Contracts
