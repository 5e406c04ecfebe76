/-
# The records of the mint journal

What the Runtime keeps about one media flow (`mint_journal.rs`), in three kinds of record.  A mint
record is the bound draft, how far the provisioning of each of its nodes has come, how custody
ended, and what has been established since.  An intent is the authority a mint was asked for with,
and how the protect session it opens stands.  A media preparation is the same for the provider call
that prepares the medium.

Every kind has a check (`validate`), which its constructors make and its decoder repeats.  A node
binding and a receipt cannot be built with a zero state root, and a draft cannot be built unless
its parts were accepted (`recorded`), so these carry their check with them.
-/
import ElastosRuntime.Contracts.MediaIdentity

namespace ElastosRuntime.MintJournal

open Codec Contracts

inductive RuntimeMintJournalError where
  | unavailable
  | corrupt
  | conflict
  | invalidSelection
  | notFound
deriving DecidableEq, Repr

inductive RuntimeCustodyTerminalKind where
  | custodyProvisioned
  | abortedPartialProvision
deriving DecidableEq, Repr

def REQUIRED_NODES : Nat := 3
def MAX_AVAILABILITY_TEXT_BYTES : Nat := 256
def MAX_PROVIDER_OPAQUE_HANDLE_BYTES_V1 : Nat := 32
def MINT_ID_DOMAIN : List UInt8 := utf8Bytes "elastos.protected-content.runtime-mint-id/v4"
def MEDIA_PREPARATION_OPERATION_ID_DOMAIN : List UInt8 :=
  utf8Bytes "elastos.protected-content.runtime-media-preparation-operation-id/v1"

/-- `map_err(|_| RuntimeMintJournalError::Corrupt)` -/
def orCorrupt {α : Type} (x : Except ContractError α) : Except RuntimeMintJournalError α :=
  x.mapError fun _ => .corrupt

/-- `map_err(|_| RuntimeMintJournalError::InvalidSelection)` -/
def orInvalidSelection {α : Type} (x : Except ContractError α) :
    Except RuntimeMintJournalError α :=
  x.mapError fun _ => .invalidSelection

@[simp] theorem orCorrupt_eq_ok {α : Type} {x : Except ContractError α} {a : α} :
    orCorrupt x = .ok a ↔ x = .ok a := mapError_eq_ok

@[simp] theorem orInvalidSelection_eq_ok {α : Type} {x : Except ContractError α} {a : α} :
    orInvalidSelection x = .ok a ↔ x = .ok a := mapError_eq_ok

/-! ## 1. Texts -/

def validateAvailabilityText (value : String) : Except RuntimeMintJournalError Unit :=
  failIf (utf8Bytes value = [] ∨ MAX_AVAILABILITY_TEXT_BYTES < (utf8Bytes value).length ∨
    ¬(utf8Bytes value).all fun byte => 0x21 ≤ byte && byte ≤ 0x7e) .invalidSelection

def validateIntentText (value : String) : Except RuntimeMintJournalError Unit :=
  validateAvailabilityText value

/-- `strip_prefix("0x")` -/
def stripHexPrefix : List UInt8 → Option (List UInt8)
  | 0x30 :: 0x78 :: raw => some raw
  | _ => none

def validateIntentEvmAddress (value : String) : Except RuntimeMintJournalError Unit := do
  validateIntentText value
  let raw ← okOr (stripHexPrefix (utf8Bytes value)) .invalidSelection
  failIf (raw.length ≠ 40 ∨ raw.any fun byte =>
    !((0x30 ≤ byte && byte ≤ 0x39) || (0x61 ≤ byte && byte ≤ 0x66))) .invalidSelection

def intentHexValue (value : UInt8) : Option UInt8 :=
  if 0x30 ≤ value ∧ value ≤ 0x39 then some (value - 0x30)
  else if 0x61 ≤ value ∧ value ≤ 0x66 then some (value - 0x61 + 10)
  else if 0x41 ≤ value ∧ value ≤ 0x46 then some (value - 0x41 + 10)
  else none

/-- The loop over `chunks_exact(2)`. -/
def decodeIntentHex : List UInt8 → Option (List UInt8)
  | high :: low :: rest => do
    let high ← intentHexValue high
    let low ← intentHexValue low
    let decoded ← decodeIntentHex rest
    some ((high <<< 4 ||| low) :: decoded)
  | _ => some []

def hexDigit (value : UInt8) : UInt8 := if value < 10 then 0x30 + value else 0x57 + value

def normalizeIntentHexQuantityBytes (bytes : List UInt8) : List UInt8 :=
  match bytes.dropWhile (· == 0) with
  | [] => utf8Bytes "0x0"
  | significant =>
    let hex := significant.flatMap fun byte : UInt8 => [hexDigit (byte >>> 4), hexDigit (byte &&& 0x0f)]
    utf8Bytes "0x" ++ hex.dropWhile (· == 0x30)

/-- The canonical spelling of a quantity, as bytes. -/
def normalizeIntentHexQuantity (value : String) :
    Except RuntimeMintJournalError (List UInt8) := do
  validateIntentText value
  let raw ← okOr (stripHexPrefix (utf8Bytes value)) .invalidSelection
  failIf (raw = []) RuntimeMintJournalError.invalidSelection
  let padded := if raw.length % 2 = 0 then raw else 0x30 :: raw
  let decoded ← okOr (decodeIntentHex padded) .invalidSelection
  failIf (32 < decoded.length) RuntimeMintJournalError.invalidSelection
  let normalized := normalizeIntentHexQuantityBytes decoded
  failIf (normalized = utf8Bytes "0x0") RuntimeMintJournalError.invalidSelection
  pure normalized

def validateCanonicalIntentHexQuantity (value : String) :
    Except RuntimeMintJournalError Unit := do
  let normalized ← normalizeIntentHexQuantity value
  failIf (normalized ≠ utf8Bytes value) .invalidSelection

/-! ## 2. Nodes and receipts -/

deriving instance DecidableEq for Id32

deriving instance DecidableEq for CustodyNodeProvisioningRecordIdentityV1

variable [Curves]

structure RuntimeMintNodeBinding where
  nodePublicKey : NodePublicKey
  operatorId : CustodyPoolOperatorIdV1
  failureDomainId : CustodyPoolFailureDomainIdV1
  ownerStateRoot : Digest32
  root_ne : ownerStateRoot ≠ Bytes.zero 32
deriving DecidableEq

namespace RuntimeMintNodeBinding

def new (nodePublicKey : NodePublicKey) (operatorId : CustodyPoolOperatorIdV1)
    (failureDomainId : CustodyPoolFailureDomainIdV1) (ownerStateRoot : Digest32) :
    Except RuntimeMintJournalError RuntimeMintNodeBinding :=
  if h : ownerStateRoot = Bytes.zero 32 then
    .error .invalidSelection
  else
    .ok ⟨nodePublicKey, operatorId, failureDomainId, ownerStateRoot, h⟩

theorem new_self (v : RuntimeMintNodeBinding) :
    new v.nodePublicKey v.operatorId v.failureDomainId v.ownerStateRoot = .ok v :=
  dif_neg v.root_ne

end RuntimeMintNodeBinding

structure RuntimeMintNodeReceipt where
  nodePublicKey : NodePublicKey
  provisioningId : RuntimeCustodyProvisioningIdV1
  recordIdentity : CustodyNodeProvisioningRecordIdentityV1
  ownerStateRoot : Digest32
  root_ne : ownerStateRoot ≠ Bytes.zero 32
deriving DecidableEq

namespace RuntimeMintNodeReceipt

def new (nodePublicKey : NodePublicKey) (provisioningId : RuntimeCustodyProvisioningIdV1)
    (recordIdentity : CustodyNodeProvisioningRecordIdentityV1) (ownerStateRoot : Digest32) :
    Except RuntimeMintJournalError RuntimeMintNodeReceipt :=
  if h : ownerStateRoot = Bytes.zero 32 then
    .error .corrupt
  else
    .ok ⟨nodePublicKey, provisioningId, recordIdentity, ownerStateRoot, h⟩

theorem new_self (v : RuntimeMintNodeReceipt) :
    new v.nodePublicKey v.provisioningId v.recordIdentity v.ownerStateRoot = .ok v :=
  dif_neg v.root_ne

end RuntimeMintNodeReceipt

/-- The loop that inserts every node into four sets: no two nodes share a key, an operator, a
failure domain or a state root. -/
def requireDistinct (nodes : List RuntimeMintNodeBinding) : Except RuntimeMintJournalError Unit :=
  failIf (¬((nodes.map (·.nodePublicKey)).Nodup ∧ (nodes.map (·.operatorId)).Nodup ∧
    (nodes.map (·.failureDomainId)).Nodup ∧ (nodes.map (·.ownerStateRoot)).Nodup))
    .invalidSelection

/-! ## 3. Drafts -/

/-- What a draft is made of. -/
structure RuntimeMintDraftParts where
  mediaIdentity : CencFmp4MediaIdentityV1
  contentAccessId : ContentAccessIdV1
  keyEnvelope : KeyEnvelopeIdentityV1
  policy : RightsPolicyIdentityV1
  contentKeyCommitment : Digest32
  threshold : ThresholdV1
  nodes : List RuntimeMintNodeBinding
deriving DecidableEq

namespace RuntimeMintDraftParts

variable [Crypto]

def computeMintId (v : RuntimeMintDraftParts) : Except RuntimeMintJournalError Digest32 := do
  let media ← orCorrupt (canonicalBytes v.mediaIdentity)
  let keyEnvelope ← orCorrupt (canonicalBytes v.keyEnvelope)
  let policy ← orCorrupt (canonicalBytes v.policy)
  pure (Crypto.sha256 (MINT_ID_DOMAIN ++ media ++ v.contentAccessId.value.toList ++ keyEnvelope ++
    policy ++ v.contentKeyCommitment.toList ++ [v.threshold.required, v.threshold.total] ++
    v.nodes.flatMap fun node => node.nodePublicKey.value.toList ++ node.operatorId.bytes.toList ++
      node.failureDomainId.bytes.toList ++ node.ownerStateRoot.toList))

/-- The checks of `new_recorded`, and the mint id it ends with. -/
def record (v : RuntimeMintDraftParts) : Except RuntimeMintJournalError Digest32 := do
  failIf (v.threshold.required ≠ 2 ∨ v.threshold.total ≠ 3)
    RuntimeMintJournalError.invalidSelection
  failIf (v.nodes.length ≠ REQUIRED_NODES) RuntimeMintJournalError.invalidSelection
  failIf (v.contentKeyCommitment = Bytes.zero 32) RuntimeMintJournalError.invalidSelection
  failIf (v.keyEnvelope.encryptedContent ≠ v.mediaIdentity.encryptedContent)
    RuntimeMintJournalError.invalidSelection
  failIf (v.keyEnvelope.threshold ≠ v.threshold) RuntimeMintJournalError.invalidSelection
  let nodeSet ← orInvalidSelection
    (NodeSetV1.new v.threshold (v.nodes.map (·.nodePublicKey)))
  let nodeSetId ← orCorrupt nodeSet.nodeSetId
  failIf (nodeSetId ≠ v.keyEnvelope.nodeSetId) RuntimeMintJournalError.invalidSelection
  requireDistinct v.nodes
  v.computeMintId

end RuntimeMintDraftParts

/-- A bound draft: parts that were accepted, and the mint id they got. -/
structure RuntimeMintDraft [Crypto] extends RuntimeMintDraftParts where
  mintId : Digest32
  recorded : toRuntimeMintDraftParts.record = .ok mintId
deriving DecidableEq

namespace RuntimeMintDraft

variable [Crypto]

def newRecorded (parts : RuntimeMintDraftParts) :
    Except RuntimeMintJournalError RuntimeMintDraft :=
  match h : parts.record with
  | .ok mintId => .ok ⟨parts, mintId, h⟩
  | .error e => .error e

theorem newRecorded_self (v : RuntimeMintDraft) :
    newRecorded v.toRuntimeMintDraftParts = .ok v := by
  obtain ⟨parts, mintId, hrecorded⟩ := v
  unfold newRecorded
  split
  · next id h =>
    obtain rfl : id = mintId := Except.ok.inj (h.symm.trans hrecorded)
    rfl
  · next e h => cases h.symm.trans hrecorded

end RuntimeMintDraft

/-! ## 4. Content availability -/

/-- What the Runtime asks of an availability receipt. -/
structure RuntimeContentAvailabilityRequirement where
  expectedProviderDid : String
  expectedObjectIdentity : String
  expectedPublisherDid : String
  policy : String
  minimumReplicas : UInt32

structure RuntimeVerifiedContentAvailability where
  contentCid : String
  objectIdentity : String
  publisherIdentity : String
  expectedProviderDid : String
  policy : String
  requiredReplicas : UInt32
  observedReplicas : UInt32
  checkedAt : UInt64
  receiptDigest : Digest32
  encryptedContent : EncryptedContentIdentityV1
  mediaManifestRoot : Digest32
deriving DecidableEq

namespace RuntimeVerifiedContentAvailability

def validate (v : RuntimeVerifiedContentAvailability) : Except RuntimeMintJournalError Unit := do
  validateAvailabilityText v.contentCid
  validateAvailabilityText v.objectIdentity
  validateAvailabilityText v.publisherIdentity
  validateAvailabilityText v.expectedProviderDid
  validateAvailabilityText v.policy
  failIf (v.requiredReplicas = 0 ∨ v.observedReplicas < v.requiredReplicas ∨ v.checkedAt = 0 ∨
    v.receiptDigest = Bytes.zero 32 ∨ v.mediaManifestRoot = Bytes.zero 32)
    RuntimeMintJournalError.invalidSelection
  orInvalidSelection (requireCanonical v.encryptedContent)

def matchesRequirement (v : RuntimeVerifiedContentAvailability)
    (requirement : RuntimeContentAvailabilityRequirement) : Prop :=
  v.expectedProviderDid = requirement.expectedProviderDid ∧
    v.objectIdentity = requirement.expectedObjectIdentity ∧
    v.publisherIdentity = requirement.expectedPublisherDid ∧
    v.policy = requirement.policy ∧ v.requiredReplicas = requirement.minimumReplicas

instance (v : RuntimeVerifiedContentAvailability)
    (requirement : RuntimeContentAvailabilityRequirement) :
    Decidable (v.matchesRequirement requirement) := inferInstanceAs (Decidable (_ ∧ _))

def matchesDraft (v : RuntimeVerifiedContentAvailability) (draft : RuntimeMintDraftParts) : Prop :=
  v.encryptedContent = draft.mediaIdentity.encryptedContent ∧
    v.mediaManifestRoot = draft.mediaIdentity.mediaManifestRoot

instance (v : RuntimeVerifiedContentAvailability) (draft : RuntimeMintDraftParts) :
    Decidable (v.matchesDraft draft) := inferInstanceAs (Decidable (_ ∧ _))

end RuntimeVerifiedContentAvailability

/-! ## 5. The creator's side -/

structure RuntimeMintCreatorDesiredTerms where
  walletAccountId : String
  copies : String
  price : String
deriving DecidableEq

def RuntimeMintCreatorDesiredTerms.validate (v : RuntimeMintCreatorDesiredTerms) :
    Except RuntimeMintJournalError Unit := do
  validateIntentText v.walletAccountId
  validateCanonicalIntentHexQuantity v.copies
  validateCanonicalIntentHexQuantity v.price

structure RuntimeMintCreatorEffectBinding where
  effectId : String
  approvalRequestId : String
  requestSha256 : String
  accountId : String
  address : String
  chainNamespace : String
  network : String
deriving DecidableEq

def RuntimeMintCreatorEffectBinding.validate (v : RuntimeMintCreatorEffectBinding) :
    Except RuntimeMintJournalError Unit := do
  validateIntentText v.effectId
  validateIntentText v.approvalRequestId
  validateIntentText v.requestSha256
  validateIntentText v.accountId
  validateIntentText v.address
  validateIntentText v.chainNamespace
  validateIntentText v.network

structure RuntimeMintCreatorTerminalEvidence where
  metadataCid : String
  tokenUri : String
  seller : String
  chainNamespace : String
  network : String
  ledger : String
  tokenId : String
  operative : String
  quantity : String
  price : String
  payToken : String
  paymentProcessor : Option String
  transactionHash : String
  publishedAt : UInt64
deriving DecidableEq

def RuntimeMintCreatorTerminalEvidence.validate (v : RuntimeMintCreatorTerminalEvidence) :
    Except RuntimeMintJournalError Unit := do
  validateIntentText v.metadataCid
  validateIntentText v.tokenUri
  validateIntentText v.seller
  validateIntentText v.chainNamespace
  validateIntentText v.network
  validateIntentText v.ledger
  validateIntentText v.tokenId
  validateIntentText v.operative
  validateCanonicalIntentHexQuantity v.quantity
  validateIntentText v.price
  validateIntentText v.payToken
  validateIntentText v.transactionHash
  v.paymentProcessor.forM validateIntentText
  failIf (v.publishedAt = 0) RuntimeMintJournalError.invalidSelection

/-- What the creator wants minted, and what has become of it. -/
structure RuntimeMintCreatorState where
  desiredTerms : RuntimeMintCreatorDesiredTerms
  metadataCid : String
  tokenUri : String
  effect : Option RuntimeMintCreatorEffectBinding
  operatorApproval : Option RuntimeMintCreatorEffectBinding
  terminal : Option RuntimeMintCreatorTerminalEvidence
deriving DecidableEq

namespace RuntimeMintCreatorState

def validate (v : RuntimeMintCreatorState) : Except RuntimeMintJournalError Unit := do
  v.desiredTerms.validate
  validateIntentText v.metadataCid
  validateIntentText v.tokenUri
  v.effect.forM RuntimeMintCreatorEffectBinding.validate
  v.operatorApproval.forM RuntimeMintCreatorEffectBinding.validate
  v.terminal.forM fun terminal => do
    terminal.validate
    failIf (terminal.metadataCid ≠ v.metadataCid ∨ terminal.tokenUri ≠ v.tokenUri)
      RuntimeMintJournalError.invalidSelection

/-- How all three parts are bound: once, and then only the same again. -/
def bindOnce {α : Type} [DecidableEq α] (v : RuntimeMintCreatorState) (existing : Option α)
    (value : α) (bound : RuntimeMintCreatorState) :
    Except RuntimeMintJournalError RuntimeMintCreatorState :=
  match existing with
  | some existing => do
    failIf (existing ≠ value) RuntimeMintJournalError.conflict
    pure v
  | none => do
    bound.validate
    pure bound

def withOperatorApproval (v : RuntimeMintCreatorState)
    (effect : RuntimeMintCreatorEffectBinding) :
    Except RuntimeMintJournalError RuntimeMintCreatorState :=
  v.bindOnce v.operatorApproval effect { v with operatorApproval := some effect }

def withEffect (v : RuntimeMintCreatorState) (effect : RuntimeMintCreatorEffectBinding) :
    Except RuntimeMintJournalError RuntimeMintCreatorState :=
  v.bindOnce v.effect effect { v with effect := some effect }

def withTerminal (v : RuntimeMintCreatorState) (terminal : RuntimeMintCreatorTerminalEvidence) :
    Except RuntimeMintJournalError RuntimeMintCreatorState :=
  v.bindOnce v.terminal terminal { v with terminal := some terminal }

end RuntimeMintCreatorState

/-! ## 6. Mint records -/

structure MintNodeState where
  binding : RuntimeMintNodeBinding
  effectStarted : Bool
  receipt : Option RuntimeMintNodeReceipt
deriving DecidableEq

structure PersistedRuntimeMint [Crypto] where
  draft : RuntimeMintDraft
  nodeStates : List MintNodeState
  custodyTerminal : Option RuntimeCustodyTerminalKind
  contentAvailability : Option RuntimeVerifiedContentAvailability
  creatorState : Option RuntimeMintCreatorState
deriving DecidableEq

namespace PersistedRuntimeMint

variable [Crypto]

def acceptedOrphans (v : PersistedRuntimeMint) : List RuntimeMintNodeReceipt :=
  v.nodeStates.filterMap (·.receipt)

def anyEffectStarted (v : PersistedRuntimeMint) : Bool := v.nodeStates.any (·.effectStarted)

def allReceiptsPresent (v : PersistedRuntimeMint) : Bool :=
  v.nodeStates.all (·.receipt.isSome)

end PersistedRuntimeMint

/-! ## 7. Intents -/

inductive RuntimeMintIntentProtectSettlement where
  | cancelled
  | closed
  | alreadyAbsent
deriving DecidableEq

inductive RuntimeMintIntentProtectState where
  | notStarted
  | openRequestPending
  | openHandlePendingCancel (handle : Bytes MAX_PROVIDER_OPAQUE_HANDLE_BYTES_V1)
  | openHandlePendingClose (handle : Bytes MAX_PROVIDER_OPAQUE_HANDLE_BYTES_V1)
  | settledBeforeDraft (settlement : RuntimeMintIntentProtectSettlement)
  | completed (mintId : Digest32)
deriving DecidableEq

structure RuntimeMintIntent where
  requestId : Digest32
  principalId : String
  sourceBindingDigest : Digest32
  creatorWalletAccountId : String
  creatorWalletAddress : String
  creatorMintSourceDigest : Digest32
  mimeType : String
  codecs : String
  clearInitSha256 : Digest32
  clearSegmentSha256 : List Digest32
  contentAccessId : ContentAccessIdV1
  protectState : RuntimeMintIntentProtectState
  custodyPool : CustodyPoolIdentityV1
  custodyEpoch : CustodyEpochIdentityV1
  custodyCommitteeAuthorization : CustodyCommitteeAuthorizationIdentityV1
  nodes : List RuntimeMintNodeBinding
deriving DecidableEq

namespace RuntimeMintIntent

/-- The states that `validate` refuses. -/
def validateProtectState : RuntimeMintIntentProtectState → Except RuntimeMintJournalError Unit
  | .openHandlePendingCancel handle | .openHandlePendingClose handle =>
    failIf (handle = Bytes.zero _) .invalidSelection
  | .completed mintId => failIf (mintId = Bytes.zero 32) .invalidSelection
  | _ => .ok ()

def validate (v : RuntimeMintIntent) : Except RuntimeMintJournalError Unit := do
  validateIntentText v.principalId
  validateIntentText v.creatorWalletAccountId
  validateIntentEvmAddress v.creatorWalletAddress
  validateIntentText v.mimeType
  validateIntentText v.codecs
  failIf (v.requestId = Bytes.zero 32 ∨ v.sourceBindingDigest = Bytes.zero 32 ∨
    v.creatorMintSourceDigest = Bytes.zero 32 ∨ v.clearInitSha256 = Bytes.zero 32 ∨
    v.clearSegmentSha256 = [] ∨ v.nodes.length ≠ REQUIRED_NODES)
    RuntimeMintJournalError.invalidSelection
  validateProtectState v.protectState
  orInvalidSelection (requireCanonical v.custodyPool)
  orInvalidSelection (requireCanonical v.custodyEpoch)
  orInvalidSelection (requireCanonical v.custodyCommitteeAuthorization)
  v.clearSegmentSha256.forM fun digest =>
    failIf (digest = Bytes.zero 32) RuntimeMintJournalError.invalidSelection
  requireDistinct v.nodes

/-- The same intent in another state. -/
def withState (v : RuntimeMintIntent) (state : RuntimeMintIntentProtectState) :
    RuntimeMintIntent := { v with protectState := state }

/-- All fields but the state. -/
def sameAuthorityAs (v other : RuntimeMintIntent) : Prop :=
  v.withState .notStarted = other.withState .notStarted

end RuntimeMintIntent

/-! ## 8. Media preparations -/

inductive RuntimeMediaPreparationState where
  | ready
  | effectPending
  | prepared
  | failed
  | consumed
deriving DecidableEq

structure RuntimeMediaPreparationRecord where
  requestId : Digest32
  sourceBindingDigest : Digest32
  sourceObjectDigest : Digest32
  operationId : Digest32
  providerId : String
  creatorWalletAccountId : String
  creatorWalletAddress : String
  creatorMintSourceDigest : Digest32
  state : RuntimeMediaPreparationState
  outputReceiptDigest : Option Digest32
  consumedMintId : Option Digest32
deriving DecidableEq

omit [Curves] in
def computeMediaPreparationOperationId [Crypto] (requestId sourceObjectDigest : Digest32)
    (providerId : String) : Digest32 :=
  Crypto.sha256 (MEDIA_PREPARATION_OPERATION_ID_DOMAIN ++ requestId.toList ++
    sourceObjectDigest.toList ++ utf8Bytes providerId)

namespace RuntimeMediaPreparationRecord

/-- Which digests each state goes with. -/
def validateState (v : RuntimeMediaPreparationRecord) : Except RuntimeMintJournalError Unit :=
  match v.state with
  | .ready | .effectPending | .failed =>
    failIf (v.outputReceiptDigest.isSome ∨ v.consumedMintId.isSome) .invalidSelection
  | .prepared => failIf (v.outputReceiptDigest.isNone ∨ v.consumedMintId.isSome) .invalidSelection
  | .consumed => failIf (v.outputReceiptDigest.isNone ∨ v.consumedMintId.isNone) .invalidSelection

def validate [Crypto] (v : RuntimeMediaPreparationRecord) :
    Except RuntimeMintJournalError Unit := do
  validateIntentText v.providerId
  validateIntentText v.creatorWalletAccountId
  validateIntentEvmAddress v.creatorWalletAddress
  failIf (v.requestId = Bytes.zero 32 ∨ v.sourceBindingDigest = Bytes.zero 32 ∨
    v.sourceObjectDigest = Bytes.zero 32 ∨ v.operationId = Bytes.zero 32 ∨
    v.creatorMintSourceDigest = Bytes.zero 32 ∨
    v.operationId ≠
      computeMediaPreparationOperationId v.requestId v.sourceObjectDigest v.providerId)
    RuntimeMintJournalError.invalidSelection
  v.validateState

/-- All fields but the state and what it brought. -/
def sameAuthorityAs (v other : RuntimeMediaPreparationRecord) : Prop :=
  { v with state := .ready, outputReceiptDigest := none, consumedMintId := none } =
    { other with state := .ready, outputReceiptDigest := none, consumedMintId := none }

end RuntimeMediaPreparationRecord

end ElastosRuntime.MintJournal
