/-
# The record of a run

`StoredRun` is what the journal keeps of a run, and `validateStoredRun` what it asks of a record
whenever one is written or read.
-/
import ElastosRuntime.ModelProvider.Contract

namespace ElastosRuntime.ModelProvider

open Contracts Text

/-! ## 1. Limits -/

def MAX_OFFER_ID_BYTES : Nat := 128
def MAX_OFFER_TITLE_BYTES : Nat := 160
def MAX_OPERATION_BYTES : Nat := 128
def MAX_MODALITIES_PER_OFFER : Nat := 8
def MAX_MODALITY_BYTES : Nat := 64
def MAX_MODEL_BYTES : Nat := 128
def MAX_HOSTED_PROVIDER_LABEL_BYTES : Nat := 128
def MAX_HOSTED_POLICY_REF_BYTES : Nat := 2 * 1024
def MAX_BACKEND_COST_BYTES : Nat := 128
def MAX_BACKEND_COST_UNIT_BYTES : Nat := 64
def MAX_CONCURRENCY_LIMIT : UInt32 := 64
def MAX_INPUT_BYTES_LIMIT : UInt64 := 16 * 1024 * 1024
def MAX_INLINE_OUTPUT_BYTES_LIMIT : UInt64 := 128 * 1024
def MAX_EVENT_BYTES_LIMIT : UInt64 := 192 * 1024
def MAX_RUN_EVENT_COUNT_LIMIT : Nat := 256
def MAX_RUN_EVENT_AGGREGATE_BYTES_LIMIT : Nat := 512 * 1024
def MAX_RUNTIME_MS_LIMIT : UInt64 := 3600000
def MAX_RETENTION_SECS : UInt64 := 604800
def MAX_CANCEL_SETTLEMENT_TIMEOUT_MS : UInt64 := 300000
def MAX_LOCAL_LLAMA_CONTEXT_SIZE : UInt32 := 32768
def MAX_RUN_ERROR_CODE_BYTES : Nat := 128
def MAX_RUN_ERROR_MESSAGE_BYTES : Nat := 1024

def RUN_JOURNAL_SCHEMA : String := "elastos.model.provider-run-journal/v1"
def RUN_OUTPUT_TEXT_SCHEMA : String := "elastos.model.output.text/v1"
def RUN_OUTPUT_OBJECT_SCHEMA : String := "elastos.model.output.object/v1"
def RUN_OUTPUT_CONTENT_SCHEMA : String := "elastos.model.output.content/v1"
def HOSTED_PLACEMENT : String := "hosted"
def HOSTED_SELECTION_PINNED : String := "pinned"
def SINGLE_DISPATCH_NO_RETRY : String := "single_dispatch_no_retry"
def UPSTREAM_FALLBACK_OPERATOR_ASSERTED_DISABLED : String := "operator_asserted_disabled"

/-- `decisions::OPERATION` -/
def DECISION_OPERATION : String := "decision.evaluate"

/-- `decisions::OUTPUT_SCHEMA` -/
def DECISION_OUTPUT_SCHEMA : String := "elastos.model.output.decisions/v1"

/-! ## 2. The record -/

structure StoredRun where
  schema : String
  runId : String
  runtimeBinding : RuntimeCreateBinding
  offer : OfferSummary
  executionBindingHash : String
  inputHash : String
  status : RunStatus
  nextSequence : UInt64
  createdAtMs : UInt64
  updatedAtMs : UInt64
  deadlineMs : UInt64
  terminalAtMs : Option UInt64
  retentionUntilMs : Option UInt64
  output : Option Json
  error : Option RunError
  backendState : Option Json
  events : List RunEvent
deriving DecidableEq

namespace StoredRun

def newPrepared (runId : String) (runtimeBinding : RuntimeCreateBinding) (offer : OfferSummary)
    (executionBindingHash : String) (createdAtMs : UInt64) : StoredRun where
  schema := RUN_JOURNAL_SCHEMA
  runId := runId
  runtimeBinding := runtimeBinding
  offer := offer
  executionBindingHash := executionBindingHash
  inputHash := runtimeBinding.inputHash
  status := .prepared
  nextSequence := 1
  createdAtMs := createdAtMs
  updatedAtMs := createdAtMs
  deadlineMs := saturatingAdd createdAtMs offer.policy.runtimeMsLimit
  terminalAtMs := none
  retentionUntilMs := none
  output := none
  error := none
  backendState := none
  events := []

end StoredRun

/-! ## 3. What is asked of a record -/

/-- What the provider asks of texts outside its own code: whether a number is written as
`serde_json` writes it, and the model that a valid decision output was made by. -/
class OutputText where
  isCanonicalNumber : String → Bool
  decisionModel : Json → Option String

def validateRunError (error : RunError) : Bool :=
  validateBoundedText error.code MAX_RUN_ERROR_CODE_BYTES &&
    validateBoundedText error.message MAX_RUN_ERROR_MESSAGE_BYTES

def validateBackendUsage (usage : BackendTokenUsage) : Bool :=
  usage.inputTokens.isSome || usage.outputTokens.isSome || usage.totalTokens.isSome

section

variable [OutputText]

def validateBackendCost (cost : BackendCost) : Bool :=
  validateBoundedText cost.value MAX_BACKEND_COST_BYTES && !startsWith cost.value "-" &&
    OutputText.isCanonicalNumber cost.value &&
    cost.unit.all fun unit => validateBoundedText unit MAX_BACKEND_COST_UNIT_BYTES

def validateBackendReport (report : BackendReport) : Bool :=
  report.schema == BACKEND_REPORT_SCHEMA &&
    (match report.resolvedModel with
      | .reported value => validateBoundedText value MAX_MODEL_BYTES
      | .unknown => true) &&
    (match report.usage with
      | .reported value => validateBackendUsage value
      | .unknown => true) &&
    match report.cost with
      | .reported value => validateBackendCost value
      | .unknown => true

end

def validateStoredRuntimeBinding (run : StoredRun) : Bool :=
  let binding := run.runtimeBinding
  binding.schema == RUNTIME_CREATE_BINDING_SCHEMA &&
    validateBoundedText binding.principalId MAX_RUNTIME_BINDING_ID_BYTES &&
    validateBoundedText binding.sessionId MAX_RUNTIME_BINDING_ID_BYTES &&
    validateBoundedText binding.capsuleId MAX_RUNTIME_BINDING_ID_BYTES &&
    validateBoundedText binding.grantId MAX_RUNTIME_BINDING_ID_BYTES &&
    validateBoundedText binding.requestId MAX_RUNTIME_BINDING_ID_BYTES &&
    validateBoundedText binding.offerId MAX_RUNTIME_BINDING_ID_BYTES &&
    validateBoundedText binding.operation MAX_RUNTIME_OPERATION_BYTES &&
    validateInputHash binding.inputHash && binding.offerId == run.offer.id &&
    binding.operation == run.offer.operation && binding.inputHash == run.inputHash &&
    validateInputHash run.inputHash

def validateModalities (values : List String) : Bool :=
  !values.isEmpty && values.length ≤ MAX_MODALITIES_PER_OFFER &&
    values.all fun value => validateBoundedText value MAX_MODALITY_BYTES

/-- A limit of a policy is given, and within the provider's own. -/
def withinLimit (value max : UInt64) : Bool := value != 0 && value ≤ max

def validateStoredPolicy (policy : OfferPolicySummary) : Bool :=
  policy.schema == MODEL_POLICY_SCHEMA && policy.concurrencyLimit != 0 &&
    policy.concurrencyLimit ≤ MAX_CONCURRENCY_LIMIT &&
    withinLimit policy.inputBytesLimit MAX_INPUT_BYTES_LIMIT &&
    withinLimit policy.inlineOutputBytesLimit MAX_INLINE_OUTPUT_BYTES_LIMIT &&
    withinLimit policy.eventBytesLimit MAX_EVENT_BYTES_LIMIT &&
    withinLimit policy.runtimeMsLimit MAX_RUNTIME_MS_LIMIT &&
    withinLimit policy.retentionSecs MAX_RETENTION_SECS &&
    withinLimit policy.cancelSettlementTimeoutMs MAX_CANCEL_SETTLEMENT_TIMEOUT_MS

def validateStoredContext (context : LocalContextLimits) : Bool :=
  128 ≤ context.contextWindowTokens &&
    context.contextWindowTokens ≤ MAX_LOCAL_LLAMA_CONTEXT_SIZE &&
    context.maxOutputTokens != 0 && context.maxOutputTokens < context.contextWindowTokens

def validateStoredHosted (hosted : HostedOfferDisclosure) : Bool :=
  hosted.placement == HOSTED_PLACEMENT && hosted.selectionMode == HOSTED_SELECTION_PINNED &&
    hosted.providerRequestPolicy == SINGLE_DISPATCH_NO_RETRY &&
    hosted.upstreamRoutingFallbackAssertion == UPSTREAM_FALLBACK_OPERATOR_ASSERTED_DISABLED &&
    validateBoundedText hosted.backendProviderLabel MAX_HOSTED_PROVIDER_LABEL_BYTES &&
    validateBoundedText hosted.requestedSelector MAX_MODEL_BYTES &&
    validateBoundedText hosted.privacyPolicyRef MAX_HOSTED_POLICY_REF_BYTES &&
    validateBoundedText hosted.termsRef MAX_HOSTED_POLICY_REF_BYTES

def validateStoredOffer (offer : OfferSummary) : Bool :=
  validateBoundedText offer.id MAX_OFFER_ID_BYTES &&
    validateBoundedText offer.title MAX_OFFER_TITLE_BYTES &&
    validateBoundedText offer.operation MAX_OPERATION_BYTES &&
    validateModalities offer.inputModalities && validateModalities offer.outputModalities &&
    offer.context.all validateStoredContext && offer.hosted.all validateStoredHosted &&
    validateStoredPolicy offer.policy

def validateStoredLifecycle (run : StoredRun) : Bool :=
  run.createdAtMs ≤ run.updatedAtMs &&
    run.deadlineMs == saturatingAdd run.createdAtMs run.offer.policy.runtimeMsLimit

section

variable [FloatText] [OutputText]

/-- How many bytes the events are counted with. -/
def runEventBytesTotal (events : List RunEvent) : Nat := (events.map RunEvent.encodedLength).sum

/-- One event of a record at its place. -/
def validateStoredEvent (run : StoredRun) (index : Nat) (event : RunEvent) : Bool :=
  event.schema == RUN_EVENT_SCHEMA && event.sequence.toNat == index + 1 &&
    event.sequence ≤ MAX_EVENT_SEQUENCE &&
    event.encodedLength ≤ run.offer.policy.eventBytesLimit.toNat &&
    event.encodedLength ≤ MAX_EVENT_BYTES_LIMIT.toNat &&
    (!event.terminal || index + 1 == run.events.length) &&
    match event.backendReport, event.terminal, run.offer.hosted.isSome with
      | some report, true, true => validateBackendReport report
      | none, true, true | some _, false, _ | some _, true, false => false
      | none, _, _ => true

def validateStoredEvents (run : StoredRun) : Bool :=
  run.events.length ≤ MAX_RUN_EVENT_COUNT_LIMIT &&
    (run.events.zipIdx.all fun (event, index) => validateStoredEvent run index event) &&
    runEventBytesTotal run.events ≤ MAX_RUN_EVENT_AGGREGATE_BYTES_LIMIT &&
    run.nextSequence.toNat == run.events.length + 1 &&
    run.status.isTerminal == run.events.any RunEvent.terminal

def validateStoredOutput (run : StoredRun) (output : Json) : Bool :=
  (Json.compact output).length ≤ run.offer.policy.inlineOutputBytesLimit.toNat &&
    (Json.compact output).length ≤ MAX_INLINE_OUTPUT_BYTES_LIMIT.toNat &&
    match output.getStr "schema" with
    | none => false
    | some schema =>
      (schema == RUN_OUTPUT_TEXT_SCHEMA || schema == RUN_OUTPUT_OBJECT_SCHEMA ||
        schema == RUN_OUTPUT_CONTENT_SCHEMA || schema == DECISION_OUTPUT_SCHEMA) &&
      ((schema == DECISION_OUTPUT_SCHEMA) == (run.offer.operation == DECISION_OPERATION)) &&
      (schema != DECISION_OUTPUT_SCHEMA ||
        ((OutputText.decisionModel output).isSome &&
          run.offer.hosted.map HostedOfferDisclosure.requestedSelector ==
            OutputText.decisionModel output))

def validateStoredTerminalState (run : StoredRun) : Bool :=
  if run.status.isTerminal then
    match run.terminalAtMs, run.retentionUntilMs with
    | some terminalAt, some retentionUntil =>
      terminalAt ≤ retentionUntil && run.createdAtMs ≤ terminalAt &&
        terminalAt ≤ run.updatedAtMs &&
        retentionUntil == saturatingAdd terminalAt
          (saturatingMul run.offer.policy.retentionSecs 1000) &&
        run.backendState.isNone &&
        match run.status with
        | .completed => run.error.isNone && run.output.all (validateStoredOutput run)
        | _ => run.output.isNone && run.error.any validateRunError
    | _, _ => false
  else
    (match run.status with
      | .prepared => run.backendState.isNone
      | _ => run.backendState.isSome) &&
      run.terminalAtMs.isNone && run.retentionUntilMs.isNone && run.output.isNone &&
      run.error.isNone && !run.events.any RunEvent.terminal

/-- `validate_stored_run`, but for the file's name. -/
def validateStoredRun (run : StoredRun) : Bool :=
  run.schema == RUN_JOURNAL_SCHEMA && validateRunId run.runId && validateStoredRuntimeBinding run &&
    validateStoredOffer run.offer && validateInputHash run.executionBindingHash &&
    validateStoredLifecycle run && validateStoredEvents run && validateStoredTerminalState run

end

end ElastosRuntime.ModelProvider
