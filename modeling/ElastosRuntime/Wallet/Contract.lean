/-
# Requests to the wallet

The wire contract of the wallet provider (`elastos-wallet-contract`): the operations there are, the
request that carries one under an authority, and the checks a request passes before it is handled
(`validateAt`).

A request names itself by its `lifecycle_id`, a digest of everything else it says but the operation,
which it has by its own digest.  What `derive(Serialize)` writes of an operation is a parameter.
-/
import ElastosRuntime.Wallet.Validation

namespace ElastosRuntime.Wallet

open Contracts Text

def WALLET_PROTOCOL_VERSION : String := "2.3"
def WALLET_REQUEST_SCHEMA : String := "elastos.wallet.provider-request/v2"
def ERC1271_EVIDENCE_SCHEMA : String := "elastos.chain.erc1271_proof/v1"
def MANAGED_RECOVERY_SET_SCHEMA : String := "elastos.wallet.managed-recovery-set/v1"
def VALIDATED_CHAIN_OUTCOME_SCHEMA : String := "elastos.wallet.validated-chain-outcome/v1"
def PROTECTED_CONTENT_RIGHTS_SIGNATURE_RESOURCE : String :=
  "elastos://wallet/protected-content/rights/sign"
def MAX_INVOCATION_TTL_SECS : Nat := 300
def MAX_CLOCK_SKEW_SECS : Nat := 60
def MAX_PROTECTED_CONTENT_RIGHTS_WIRE_BYTES : Nat := 8 * 1024
def MAX_RECOVERY_KEY_BYTES : Nat := 64 * 1024
def MAX_MANAGED_RECOVERY_SET_KEYS : Nat := 64
def MAX_MANAGED_RECOVERY_SET_BYTES : Nat := 256 * 1024
def MAX_VALIDATED_CHAIN_RECEIPT_BYTES : Nat := 128 * 1024
def MAX_SIGNED_MESSAGE_BYTES : Nat := 32 * 1024
def ERC1271_MAGIC_VALUE : String := "0x1626ba7e"
def REQUEST_ID_PREFIX : String := "wallet-request:"

/-! ## 1. Fields -/

def validateRequired (label value : String) (maxLen : Nat) : Except String Unit :=
  failIf (value = "" ∨ maxLen < byteLength value ∨ any value isControl) s!"{label} is invalid"

def validateOptional (label : String) (value : Option String) (maxLen : Nat) :
    Except String Unit := value.forM (validateRequired label · maxLen)

def validateToken (label value : String) (maxLen : Nat) : Except String Unit := do
  validateRequired label value maxLen
  failIf (¬all value fun c => isAsciiAlphanumeric c || c == '.' || c == ':' || c == '_' ||
      c == '-' || c == '/')
    s!"{label} is invalid"

/-- The scan over the characters: a carriage return only before a line feed, no other control. -/
def signedMessageCharacters : List Char → Bool
  | [] => true
  | '\n' :: rest => signedMessageCharacters rest
  | '\r' :: '\n' :: rest => signedMessageCharacters rest
  | c :: rest => !isControl c && signedMessageCharacters rest

def validateSignedMessage (value : String) : Except String Unit :=
  failIf (value = "" ∨ MAX_SIGNED_MESSAGE_BYTES < byteLength value ∨
    signedMessageCharacters value.toList = false) "message is invalid"

def validateResources (resources : List String) : Except String Unit := do
  failIf (64 < resources.length) "too many proof resources"
  resources.forM fun resource => validateRequired "proof resource" resource 2048

/-- `validate_evm_address` of the contract, which trims nothing. -/
def validateAddressField (label value : String) : Except String Unit := do
  let hex ← okOr (stripPrefix value "0x") s!"{label} is not an EVM address"
  failIf (byteLength hex ≠ 40 ∨ ¬all hex isAsciiHexdigit) s!"{label} is not an EVM address"

def validateHash32 (label value : String) : Except String Unit := do
  let hex ← okOr (stripPrefix value "0x" <|> stripPrefix value "sha256:")
    s!"{label} is not a 32-byte hash"
  failIf (byteLength hex ≠ 64 ∨ ¬all hex isAsciiHexdigit) s!"{label} is not a 32-byte hash"

def decodeBoundedLowerHexField (label value : String) (maxBytes : Nat) :
    Except String (List UInt8) := do
  failIf (value = "" ∨ maxBytes * 2 < byteLength value ∨ byteLength value % 2 ≠ 0 ∨
      ¬all value isAsciiLowerHex)
    s!"{label} must be lowercase hex"
  okOr (hexDecode value) s!"{label} must be lowercase hex"

def validateRequestId (value : String) : Except String Unit := do
  let suffix ← okOr (stripPrefix value REQUEST_ID_PREFIX)
    "Wallet request_id has an invalid prefix"
  failIf (byteLength suffix ≠ 32 ∨ ¬all suffix isAsciiLowerHex)
    "Wallet request_id must contain 128 bits of lowercase hexadecimal entropy"

def validatePublicNetwork (value : String) : Except String Unit :=
  validateToken "public network" value 128

def WalletAuthorityV2.validate (v : WalletAuthorityV2) : Except String Unit := do
  validateRequired "principal_id" v.principalId 256
  validateRequired "session_id" v.sessionId 256
  validateOptional "proof_binding_id" v.proofBindingId 256
  validateRequired "grant_id" v.grantId 256
  validateToken "actor" v.actor 128
  validateRequired "launch_id" v.launchId 256
  validateToken "capability" v.capability 128
  validateToken "intent" v.intent 128

structure Erc1271ProofEvidenceV1 where
  schema : String
  network : String
  chainId : UInt64
  contract : String
  messageHash : String
  signatureHash : String
  valid : Bool
  magicValue : String
  checkedAt : UInt64

def Erc1271ProofEvidenceV1.validate (v : Erc1271ProofEvidenceV1) : Except String Unit := do
  failIf (v.schema ≠ ERC1271_EVIDENCE_SCHEMA) "unsupported ERC-1271 evidence schema"
  failIf (v.chainId = 0) "ERC-1271 evidence chain_id is required"
  validateAddressField "ERC-1271 contract" v.contract
  validateHash32 "ERC-1271 message_hash" v.messageHash
  validateHash32 "ERC-1271 signature_hash" v.signatureHash
  failIf (v.valid = false) "ERC-1271 evidence is not valid"
  failIf (lowercase v.magicValue ≠ ERC1271_MAGIC_VALUE) "ERC-1271 evidence magic value is invalid"
  failIf (v.checkedAt = 0) "ERC-1271 evidence checked_at is required"

def ValidatedChainOutcomeBindingV1.validate :
    ValidatedChainOutcomeBindingV1 → Except String Unit
  | .managedSigned signedTransactionSha256 =>
    validateHash32 "validated Chain outcome signed_transaction_sha256" signedTransactionSha256
  | .externalConnector connectorId originatingAddress => do
    validateToken "validated Chain outcome connector_id" connectorId 128
    validateAddressField "validated Chain outcome originating_address" originatingAddress

structure ManagedRecoveryKeyEntryV1 where
  accountId : String
  recoveryKey : Json
  label : Option String

structure ManagedRecoverySetV1 where
  schema : String
  keys : List ManagedRecoveryKeyEntryV1

section

variable [SerdeJson]

def validateJsonSize (label : String) (value : Json) (maxLen : Nat) : Except String Unit :=
  failIf (maxLen < (SerdeJson.toVec value).length)
    (label ++ " exceeds " ++ toString maxLen ++ " serialized bytes")

def ValidatedChainOutcomeV1.validate (v : ValidatedChainOutcomeV1) : Except String Unit := do
  failIf (v.schema ≠ VALIDATED_CHAIN_OUTCOME_SCHEMA) "unsupported validated Chain outcome schema"
  validateRequestId v.approvalRequestId
  validateRequired "validated Chain outcome account_id" v.accountId 256
  validateToken "validated Chain outcome chain_namespace" v.chainNamespace 64
  validatePublicNetwork v.network
  v.binding.validate
  validateHash32 "validated Chain outcome transaction_hash" v.transactionHash
  failIf v.chainObservation.asObject.isNone
    "validated Chain outcome observation must be a JSON object"
  validateJsonSize "validated Chain outcome observation" v.chainObservation
    MAX_VALIDATED_CHAIN_RECEIPT_BYTES
  failIf (v.confirmedAt = 0) "validated Chain outcome confirmed_at is required"

def ManagedRecoveryKeyEntryV1.validate (v : ManagedRecoveryKeyEntryV1) : Except String Unit := do
  validateRequired "managed recovery account_id" v.accountId 256
  failIf v.recoveryKey.asObject.isNone "managed recovery key must be a non-null JSON object"
  validateJsonSize "managed recovery key" v.recoveryKey MAX_RECOVERY_KEY_BYTES
  validateOptional "managed recovery label" v.label 256

end

/-! ## 2. Operations -/

inductive WalletProviderOperationV2 where
  | listAccounts (includeRevoked : Bool)
  | createManagedAccount (chainNamespace : String) (label : Option String) (createNew : Bool)
  | linkVerifiedAccount (proofBindingId chainNamespace address proofType : String)
      (label : Option String)
  | revokeAccount (accountId : String)
  | renameAccount (accountId label : String)
  | setDefaultAccount (chainNamespace intent accountId : String)
  | defaultAccount (chainNamespace intent : String)
  | challenge (domain uri address : String) (chainId : UInt64) (resources : List String)
  | bitcoinChallenge (domain uri address network : String) (resources : List String)
  | verifyProof (message signature : String)
  | verifyContractProof (message signature : String) (evidence : Erc1271ProofEvidenceV1)
  | verifyBip322Proof (message signature signatureType : String) (publicKey : Option String)
  | requestProtectedContentRightsSignature (accountId canonicalRightsRequestHex reason : String)
  | requestApproval (accountId chainNamespace intent resource reason : String) (payload : Json)
      (expiresAt : Nat)
  | listApprovals (includeResolved : Bool)
  | rejectApproval (requestId reason : String)
  | approveAndSignManaged (requestId reason : String)
  | approveConnectorHandoff (requestId reason : String)
  | completeConnectorHandoff (requestId payloadHash : String)
      (signature signatureType publicKey : Option String) (signer : String)
      (transactionHash : Option String)
  | attachValidatedChainOutcome (outcome : ValidatedChainOutcomeV1)
  | exportManagedRecoveryKey (accountId : String)
  | importManagedRecoveryKey (recoveryKey : Json) (label : Option String)
  | exportManagedRecoverySet
  | importManagedRecoverySet (recoverySet : ManagedRecoverySetV1)

/-- What `derive(Serialize)` writes. -/
class DerivedSerialize where
  operationValue : WalletProviderOperationV2 → Json
  recoverySetValue : ManagedRecoverySetV1 → Json

section

variable [SerdeJson] [DerivedSerialize]

def ManagedRecoverySetV1.validate (v : ManagedRecoverySetV1) : Except String Unit := do
  failIf (v.schema ≠ MANAGED_RECOVERY_SET_SCHEMA) "unsupported managed recovery set schema"
  failIf (MAX_MANAGED_RECOVERY_SET_KEYS < v.keys.length) "managed recovery set exceeds 64 keys"
  let _ ← v.keys.foldlM (fun accountIds (key : ManagedRecoveryKeyEntryV1) => do
    key.validate
    failIf (key.accountId ∈ accountIds) "managed recovery set contains duplicate account entries"
    pure (key.accountId :: accountIds)) []
  failIf (MAX_MANAGED_RECOVERY_SET_BYTES <
      (SerdeJson.toVec (DerivedSerialize.recoverySetValue v)).length)
    "managed recovery set exceeds 262144 bytes"

end

namespace WalletProviderOperationV2

def isEffectful : WalletProviderOperationV2 → Bool
  | listAccounts .. | defaultAccount .. | listApprovals .. => false
  | _ => true

def capability : WalletProviderOperationV2 → String
  | listAccounts .. | defaultAccount .. => "wallet:accounts:read"
  | createManagedAccount .. | linkVerifiedAccount .. | revokeAccount .. | renameAccount ..
  | setDefaultAccount .. => "wallet:accounts:write"
  | challenge .. | bitcoinChallenge .. => "wallet:proof:challenge"
  | verifyProof .. | verifyContractProof .. | verifyBip322Proof .. => "wallet:proof:verify"
  | requestProtectedContentRightsSignature .. => "wallet:approval:request-protected-content-rights"
  | requestApproval .. => "wallet:approval:request"
  | listApprovals .. => "wallet:approval:read"
  | rejectApproval .. => "wallet:approval:reject"
  | approveAndSignManaged .. => "wallet:approval:managed-sign"
  | approveConnectorHandoff .. => "wallet:approval:connector-approve"
  | completeConnectorHandoff .. => "wallet:approval:connector-complete"
  | attachValidatedChainOutcome .. => "wallet:transaction:project-chain-outcome"
  | exportManagedRecoveryKey .. => "wallet:recovery:export-managed"
  | importManagedRecoveryKey .. => "wallet:recovery:import-managed"
  | exportManagedRecoverySet => "wallet:recovery:export-managed-set"
  | importManagedRecoverySet .. => "wallet:recovery:import-managed-set"

def authorityIntent : WalletProviderOperationV2 → String
  | listAccounts .. => "wallet.accounts.list"
  | createManagedAccount .. => "wallet.account.create-managed"
  | linkVerifiedAccount .. => "wallet.account.link-verified"
  | revokeAccount .. => "wallet.account.revoke"
  | renameAccount .. => "wallet.account.rename"
  | setDefaultAccount .. => "wallet.account.default.set"
  | defaultAccount .. => "wallet.account.default.read"
  | challenge .. => "wallet.proof.evm.challenge"
  | bitcoinChallenge .. => "wallet.proof.bitcoin.challenge"
  | verifyProof .. => "wallet.proof.evm.verify-eoa"
  | verifyContractProof .. => "wallet.proof.evm.verify-contract"
  | verifyBip322Proof .. => "wallet.proof.bitcoin.verify"
  | requestProtectedContentRightsSignature .. => "wallet.approval.protected-content-rights.request"
  | requestApproval .. => "wallet.approval.request"
  | listApprovals .. => "wallet.approval.list"
  | rejectApproval .. => "wallet.approval.reject"
  | approveAndSignManaged .. => "wallet.approval.managed.approve-sign"
  | approveConnectorHandoff .. => "wallet.approval.connector.approve"
  | completeConnectorHandoff .. => "wallet.approval.connector.complete"
  | attachValidatedChainOutcome .. => "wallet.transaction.chain-outcome.attach"
  | exportManagedRecoveryKey .. => "wallet.recovery.managed.export"
  | importManagedRecoveryKey .. => "wallet.recovery.managed.import"
  | exportManagedRecoverySet => "wallet.recovery.managed-set.export"
  | importManagedRecoverySet .. => "wallet.recovery.managed-set.import"

def accountId : WalletProviderOperationV2 → Option String
  | revokeAccount accountId | renameAccount accountId _ | setDefaultAccount _ _ accountId
  | requestProtectedContentRightsSignature accountId _ _ | requestApproval accountId _ _ _ _ _ _
  | exportManagedRecoveryKey accountId => some accountId
  | attachValidatedChainOutcome outcome => some outcome.accountId
  | _ => none

def approvalRequestId : WalletProviderOperationV2 → Option String
  | rejectApproval requestId _ | approveAndSignManaged requestId _
  | approveConnectorHandoff requestId _ | completeConnectorHandoff requestId _ _ _ _ _ _ =>
    some requestId
  | attachValidatedChainOutcome outcome => some outcome.approvalRequestId
  | _ => none

/-- `value.as_deref().is_some_and(|value| !value.is_empty())` -/
def isPresent (value : Option String) : Bool := value.any (· ≠ "")

def validateCompletion (requestId payloadHash : String)
    (signature signatureType publicKey : Option String) (signer : String)
    (transactionHash : Option String) : Except String Unit := do
  validateRequired "approval request_id" requestId 256
  validateHash32 "payload_hash" payloadHash
  validateRequired "signer" signer 256
  failIf (isPresent signature = isPresent transactionHash)
    "connector completion requires exactly one signature or transaction_hash"
  if isPresent signature then
    failIf transactionHash.isSome "signature completion must not carry transaction_hash"
    validateOptional "signature" signature (16 * 1024)
    validateOptional "signature_type" signatureType 64
    validateOptional "public_key" publicKey 4096
    failIf signatureType.isNone "signature completion requires signature_type and signer"
  else
    validateOptional "transaction_hash" transactionHash 512
    failIf (signature.isSome ∨ signatureType.isSome ∨ publicKey.isSome)
      "transaction completion must not carry signature metadata"

variable [SerdeJson] [DerivedSerialize]

def validate : WalletProviderOperationV2 → Except String Unit
  | listAccounts _ | listApprovals _ | exportManagedRecoverySet => pure ()
  | createManagedAccount chainNamespace label _ => do
    validateToken "chain_namespace" chainNamespace 64
    validateOptional "label" label 256
  | linkVerifiedAccount proofBindingId chainNamespace address proofType label => do
    validateRequired "proof_binding_id" proofBindingId 256
    validateToken "chain_namespace" chainNamespace 64
    validateRequired "address" address 256
    validateToken "proof_type" proofType 64
    failIf (contains (lowercase proofType) "managed")
      "LinkVerifiedAccount rejects managed proof types"
    validateOptional "label" label 256
  | revokeAccount accountId | exportManagedRecoveryKey accountId =>
    validateRequired "account_id" accountId 256
  | renameAccount accountId label => do
    validateRequired "account_id" accountId 256
    validateRequired "label" label 256
  | setDefaultAccount chainNamespace intent accountId => do
    validateToken "chain_namespace" chainNamespace 64
    validateToken "default intent" intent 64
    validateRequired "account_id" accountId 256
  | defaultAccount chainNamespace intent => do
    validateToken "chain_namespace" chainNamespace 64
    validateToken "default intent" intent 64
  | challenge domain uri address chainId resources => do
    validateRequired "domain" domain 256
    validateRequired "uri" uri 2048
    validateAddressField "address" address
    failIf (chainId = 0) "challenge chain_id is required"
    validateResources resources
  | bitcoinChallenge domain uri address network resources => do
    validateRequired "domain" domain 256
    validateRequired "uri" uri 2048
    validateRequired "address" address 256
    validatePublicNetwork network
    validateResources resources
  | verifyProof message signature => do
    validateSignedMessage message
    validateRequired "signature" signature 4096
  | verifyContractProof message signature evidence => do
    validateSignedMessage message
    validateRequired "signature" signature 4096
    evidence.validate
  | verifyBip322Proof message signature signatureType publicKey => do
    validateSignedMessage message
    validateRequired "signature" signature (16 * 1024)
    validateToken "signature_type" signatureType 64
    validateOptional "public_key" publicKey 4096
  | requestProtectedContentRightsSignature accountId canonicalRightsRequestHex reason => do
    validateRequired "account_id" accountId 256
    validateRequired "reason" reason 2048
    let _ ← decodeBoundedLowerHexField "protected-content rights request"
      canonicalRightsRequestHex MAX_PROTECTED_CONTENT_RIGHTS_WIRE_BYTES
  | requestApproval accountId chainNamespace intent resource reason payload expiresAt => do
    validateRequired "account_id" accountId 256
    validateToken "chain_namespace" chainNamespace 64
    validateToken "approval intent" intent 128
    validateRequired "resource" resource 2048
    validateRequired "reason" reason 2048
    failIf (intent = PROTECTED_CONTENT_RIGHTS_SIGNATURE_INTENT ∨
        resource = PROTECTED_CONTENT_RIGHTS_SIGNATURE_RESOURCE)
      "protected-content rights signing requires its dedicated Wallet operation"
    failIf payload.isNull "approval payload is required"
    validateJsonSize "approval payload" payload MAX_APPROVAL_PAYLOAD_BYTES
    failIf (expiresAt = 0) "approval expires_at is required"
  | rejectApproval requestId reason | approveAndSignManaged requestId reason
  | approveConnectorHandoff requestId reason => do
    validateRequired "approval request_id" requestId 256
    validateRequired "reason" reason 2048
  | completeConnectorHandoff requestId payloadHash signature signatureType publicKey signer
      transactionHash =>
    validateCompletion requestId payloadHash signature signatureType publicKey signer
      transactionHash
  | attachValidatedChainOutcome outcome => outcome.validate
  | importManagedRecoveryKey recoveryKey label => do
    failIf recoveryKey.asObject.isNone "recovery_key must be a non-null JSON object"
    validateJsonSize "recovery_key" recoveryKey MAX_RECOVERY_KEY_BYTES
    validateOptional "label" label 256
  | importManagedRecoverySet recoverySet => recoverySet.validate

end WalletProviderOperationV2

/-! ## 3. Requests -/

structure WalletProviderRequestV2 where
  schema : String
  protocolVersion : String
  requestId : String
  issuedAt : UInt64
  expiresAt : UInt64
  authority : WalletAuthorityV2
  operation : WalletProviderOperationV2
  requestSha256 : String
  sessionBinding : String
  accountBinding : Option String
  approvalBinding : Option String
  lifecycleId : String
  auditId : String

def requireExactVersion (schema protocolVersion expectedSchema : String) :
    Except String Unit := do
  failIf (schema ≠ expectedSchema) s!"unsupported Wallet contract schema {schema}"
  failIf (protocolVersion ≠ WALLET_PROTOCOL_VERSION)
    s!"unsupported Wallet protocol_version {protocolVersion}"

def validateLifetime (issuedAt expiresAt : UInt64) (now : Nat) : Except String Unit := do
  failIf (issuedAt = 0 ∨ expiresAt ≤ issuedAt) "Wallet request lifetime is invalid"
  failIf (MAX_INVOCATION_TTL_SECS < expiresAt.toNat - issuedAt.toNat)
    "Wallet request lifetime exceeds its bound"
  failIf (saturatingAdd now MAX_CLOCK_SKEW_SECS < issuedAt.toNat)
    "Wallet request was issued in the future"
  failIf (expiresAt.toNat ≤ now) "Wallet request expired"

section

variable [Crypto] [SerdeJson]

/-- The members of an object stand in the order of their names, so `canonical_json` finds nothing to
sort. -/
def taggedHash (tag domain : String) (value : Json) : String :=
  tag ++ ":sha256:" ++
    hexEncode (Crypto.sha256 (utf8Bytes domain ++ 0 :: SerdeJson.toVec value)).toList

def requestHash [DerivedSerialize] (operation : WalletProviderOperationV2) : String :=
  taggedHash "request" "elastos.wallet.operation.v2" (DerivedSerialize.operationValue operation)

def deriveSessionBinding (authority : WalletAuthorityV2) : String :=
  taggedHash "session" "elastos.wallet.session-binding.v2" <| .object
    [("grant_id", .string authority.grantId),
      ("principal_id", .string authority.principalId),
      ("session_id", .string authority.sessionId)]

def deriveAccountBinding (principalId accountId : String) : Except String String := do
  validateRequired "account_id" accountId 256
  pure <| taggedHash "account" "elastos.wallet.account-binding.v2" <| .object
    [("account_id", .string accountId), ("principal_id", .string principalId)]

def deriveApprovalBinding (principalId requestId : String) : Except String String := do
  validateRequired "approval request_id" requestId 256
  pure <| taggedHash "approval" "elastos.wallet.approval-binding.v2" <| .object
    [("principal_id", .string principalId), ("request_id", .string requestId)]

namespace WalletProviderRequestV2

/-- What the life cycle is a digest of. -/
def lifecycleStatement (v : WalletProviderRequestV2) : Json :=
  .object
    [("account_binding", optionalText v.accountBinding),
      ("actor", .string v.authority.actor),
      ("approval_binding", optionalText v.approvalBinding),
      ("capability", .string v.authority.capability),
      ("expires_at", .number (.posInt v.expiresAt)),
      ("grant_id", .string v.authority.grantId),
      ("intent", .string v.authority.intent),
      ("issued_at", .number (.posInt v.issuedAt)),
      ("launch_id", .string v.authority.launchId),
      ("principal_id", .string v.authority.principalId),
      ("proof_binding_id", optionalText v.authority.proofBindingId),
      ("request_id", .string v.requestId),
      ("request_sha256", .string v.requestSha256),
      ("session_binding", .string v.sessionBinding),
      ("session_id", .string v.authority.sessionId)]

def deriveLifecycleId (v : WalletProviderRequestV2) : String :=
  taggedHash "lifecycle" "elastos.wallet.lifecycle.v2" v.lifecycleStatement

def deriveAuditId (lifecycleId requestSha256 : String) : String :=
  taggedHash "audit" "elastos.wallet.audit.v2" <| .object
    [("lifecycle_id", .string lifecycleId), ("request_sha256", .string requestSha256)]

def validateAt [DerivedSerialize] (v : WalletProviderRequestV2) (now : Nat) :
    Except String Unit := do
  requireExactVersion v.schema v.protocolVersion WALLET_REQUEST_SCHEMA
  validateRequestId v.requestId
  validateLifetime v.issuedAt v.expiresAt now
  v.authority.validate
  v.operation.validate
  failIf (v.authority.capability ≠ v.operation.capability ∨
      v.authority.intent ≠ v.operation.authorityIntent)
    "Wallet request capability or intent was not derived from its operation"
  failIf (v.requestSha256 ≠ requestHash v.operation) "Wallet request operation hash mismatch"
  failIf (v.sessionBinding ≠ deriveSessionBinding v.authority)
    "Wallet request session binding mismatch"
  let accountBinding ← v.operation.accountId.mapM (deriveAccountBinding v.authority.principalId)
  failIf (v.accountBinding ≠ accountBinding) "Wallet request account binding mismatch"
  let approvalBinding ←
    v.operation.approvalRequestId.mapM (deriveApprovalBinding v.authority.principalId)
  failIf (v.approvalBinding ≠ approvalBinding) "Wallet request approval binding mismatch"
  failIf (v.lifecycleId ≠ v.deriveLifecycleId) "Wallet request lifecycle binding mismatch"
  failIf (v.auditId ≠ deriveAuditId v.lifecycleId v.requestSha256)
    "Wallet request audit binding mismatch"

end WalletProviderRequestV2

end

end ElastosRuntime.Wallet
