/-
# The model provider's contract

The identity of a model request, the binding it comes with, and the records that a run is told in:
its status, its events, its error, and the offer that it was made under.  An event is counted by the
JSON it is written as.
-/
import ElastosRuntime.Contracts.Verification
import ElastosRuntime.Lib.JsonText

namespace ElastosRuntime.ModelProvider

open Contracts Text

/-- What serde writes for a text. -/
def textJson (s : String) : Json := .string s

def numberJson (value : UInt64) : Json := .number (.posInt value)

/-- `skip_serializing_if = "Option::is_none"` -/
def skipNone {α : Type} (name : String) (toJson : α → Json) (value : Option α) :
    List (String × Json) :=
  value.elim [] fun a => [(name, toJson a)]

/-- `u64::saturating_add` -/
def saturatingAdd (a b : UInt64) : UInt64 :=
  if a.toNat + b.toNat < 2 ^ 64 then a + b else UInt64.ofNat (2 ^ 64 - 1)

theorem toNat_saturatingAdd (a b : UInt64) :
    (saturatingAdd a b).toNat = min (a.toNat + b.toNat) (2 ^ 64 - 1) := by
  rw [saturatingAdd]
  split
  · next h =>
    rw [UInt64.toNat_add, Nat.mod_eq_of_lt h]
    omega
  · next h =>
    rw [UInt64.toNat_ofNat_of_lt' (by decide)]
    omega

/-- `u64::saturating_mul` -/
def saturatingMul (a b : UInt64) : UInt64 :=
  if a.toNat * b.toNat < 2 ^ 64 then a * b else UInt64.ofNat (2 ^ 64 - 1)

/-! ## 1. Texts -/

/-- `validate_bounded_trimmed` of the contract crate -/
def validateBoundedTrimmed (value : String) (maxBytes : Nat) : Bool :=
  trim value ≠ "" && trim value == value && byteLength value ≤ maxBytes

/-- `validate_bounded_trimmed` of the provider, which refuses control characters as well -/
def validateBoundedText (value : String) (maxBytes : Nat) : Bool :=
  validateBoundedTrimmed value maxBytes && !any value isControl

def MAX_RUNTIME_BINDING_ID_BYTES : Nat := 256
def MAX_RUNTIME_OPERATION_BYTES : Nat := 128
def MAX_RUNTIME_INPUT_HASH_BYTES : Nat := 71
def MAX_RUN_ID_BYTES : Nat := 75

/-- A digest behind its name, in lower case. -/
def validateDigestText (value name : String) (length : Nat) : Bool :=
  validateBoundedTrimmed value length && byteLength value == length &&
    (stripPrefix value name).any fun digits => all digits isAsciiLowerHex

def validateInputHash (value : String) : Bool :=
  validateDigestText value "sha256:" MAX_RUNTIME_INPUT_HASH_BYTES

def validateRunId (value : String) : Bool :=
  validateDigestText value "run:sha256:" MAX_RUN_ID_BYTES

/-! ## 2. Bindings -/

def RUNTIME_CREATE_BINDING_SCHEMA : String := "elastos.model.runtime-binding/v1"

structure RuntimeCreateBinding where
  schema : String
  principalId : String
  sessionId : String
  capsuleId : String
  grantId : String
  requestId : String
  offerId : String
  operation : String
  inputHash : String
deriving DecidableEq

section

variable [Crypto] [FloatText]

def sha256Text (bytes : List UInt8) : String := hexEncode (Crypto.sha256 bytes).toList

def modelInputHash (input : Json) : String := "sha256:" ++ sha256Text (Json.compact input)

def RuntimeCreateBinding.validate (v : RuntimeCreateBinding) (offerId operation : String)
    (input : Json) : Bool :=
  v.schema == RUNTIME_CREATE_BINDING_SCHEMA &&
    validateBoundedTrimmed v.principalId MAX_RUNTIME_BINDING_ID_BYTES &&
    validateBoundedTrimmed v.sessionId MAX_RUNTIME_BINDING_ID_BYTES &&
    validateBoundedTrimmed v.capsuleId MAX_RUNTIME_BINDING_ID_BYTES &&
    validateBoundedTrimmed v.grantId MAX_RUNTIME_BINDING_ID_BYTES &&
    validateBoundedTrimmed v.requestId MAX_RUNTIME_BINDING_ID_BYTES &&
    validateBoundedTrimmed v.offerId MAX_RUNTIME_BINDING_ID_BYTES &&
    validateBoundedTrimmed v.operation MAX_RUNTIME_OPERATION_BYTES &&
    validateInputHash v.inputHash && v.offerId == offerId && v.operation == operation &&
    v.inputHash == modelInputHash input

end

/-! ## 3. Faults -/

/-- What a caller is told; the detail that is logged is left out. -/
structure ProviderFault where
  code : String
  message : String
deriving DecidableEq

namespace ProviderFault

def policyLimit (message : String) : ProviderFault := ⟨"policy_limit", message⟩

def internal : ProviderFault := ⟨"internal_error", "model provider failed"⟩

end ProviderFault

/-- A check of the provider's. -/
def require (good : Bool) (fault : ProviderFault) : Except ProviderFault Unit :=
  if good then .ok () else .error fault

@[simp] theorem require_eq_ok {good : Bool} {fault : ProviderFault} {u : Unit} :
    require good fault = .ok u ↔ good = true := by
  cases good <;> simp [require]

/-! ## 4. Status, errors and events of a run -/

inductive RunStatus where
  | prepared
  | running
  | reconciling
  | completed
  | failed
  | cancelled
  | settlementUnknown
deriving DecidableEq

def RunStatus.isTerminal : RunStatus → Bool
  | completed | failed | cancelled | settlementUnknown => true
  | prepared | running | reconciling => false

inductive ErrorClass where
  | selectionUnavailable
  | credentialsUnavailable
  | authenticationRejected
  | accessRefused
  | rateLimited
  | contextRejected
  | backendTimeout
  | transportInterrupted
  | backendFailed
  | responseMalformed
  | cancelled
  | settlementUnknown
deriving DecidableEq

structure RunError where
  errorClass : ErrorClass
  code : String
  message : String
deriving DecidableEq

inductive BackendFact (α : Type) where
  | reported (value : α)
  | unknown
deriving DecidableEq

def BackendFact.toJson {α : Type} (toJson : α → Json) : BackendFact α → Json
  | reported value => .object [("status", textJson "reported"), ("value", toJson value)]
  | unknown => .object [("status", textJson "unknown")]

structure BackendTokenUsage where
  inputTokens : Option UInt64
  outputTokens : Option UInt64
  totalTokens : Option UInt64
deriving DecidableEq

def BackendTokenUsage.toJson (v : BackendTokenUsage) : Json :=
  .object <| skipNone "input_tokens" numberJson v.inputTokens ++
    skipNone "output_tokens" numberJson v.outputTokens ++
    skipNone "total_tokens" numberJson v.totalTokens

structure BackendCost where
  value : String
  unit : Option String
deriving DecidableEq

def BackendCost.toJson (v : BackendCost) : Json :=
  .object <| ("value", textJson v.value) :: skipNone "unit" textJson v.unit

def BACKEND_REPORT_SCHEMA : String := "elastos.model.backend-report/v1"

structure BackendReport where
  schema : String
  resolvedModel : BackendFact String
  usage : BackendFact BackendTokenUsage
  cost : BackendFact BackendCost
deriving DecidableEq

def BackendReport.unknown : BackendReport := ⟨BACKEND_REPORT_SCHEMA, .unknown, .unknown, .unknown⟩

def BackendReport.toJson (v : BackendReport) : Json :=
  .object
    [("schema", textJson v.schema), ("resolved_model", v.resolvedModel.toJson textJson),
      ("usage", v.usage.toJson BackendTokenUsage.toJson), ("cost", v.cost.toJson BackendCost.toJson)]

def RUN_EVENT_SCHEMA : String := "elastos.model.run-event/v1"
def MAX_EVENT_SEQUENCE : UInt64 := 9007199254740991

structure RunEvent where
  schema : String
  sequence : UInt64
  kind : String
  data : Json
  backendReport : Option BackendReport
  terminal : Bool
deriving DecidableEq

def RunEvent.toJson (v : RunEvent) : Json :=
  .object <| [("schema", textJson v.schema), ("sequence", numberJson v.sequence),
      ("kind", textJson v.kind), ("data", v.data)] ++
    skipNone "backend_report" BackendReport.toJson v.backendReport ++
    [("terminal", .bool v.terminal)]

/-- How many bytes an event is counted with. -/
def RunEvent.encodedLength [FloatText] (v : RunEvent) : Nat := (Json.compact v.toJson).length

/-! ## 5. Offers -/

def MODEL_POLICY_SCHEMA : String := "elastos.model.policy/v1"

structure OfferPolicySummary where
  schema : String
  concurrencyLimit : UInt32
  inputBytesLimit : UInt64
  inlineOutputBytesLimit : UInt64
  eventBytesLimit : UInt64
  runtimeMsLimit : UInt64
  retentionSecs : UInt64
  cancelSettlementTimeoutMs : UInt64
deriving DecidableEq

structure LocalContextLimits where
  contextWindowTokens : UInt32
  maxOutputTokens : UInt32
deriving DecidableEq

structure HostedOfferDisclosure where
  placement : String
  backendProviderLabel : String
  selectionMode : String
  requestedSelector : String
  privacyPolicyRef : String
  termsRef : String
  providerRequestPolicy : String
  upstreamRoutingFallbackAssertion : String
deriving DecidableEq

structure OfferSummary where
  inputSchemas : List String
  id : String
  title : String
  operation : String
  inputModalities : List String
  outputModalities : List String
  streamOutput : Bool
  policy : OfferPolicySummary
  context : Option LocalContextLimits
  hosted : Option HostedOfferDisclosure
deriving DecidableEq

end ElastosRuntime.ModelProvider
