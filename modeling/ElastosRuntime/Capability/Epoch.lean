/-
# Concurrent mass revocations

`advance_epoch` loads the counter, writes and renames the state file and stores the counter,
with nothing that keeps other callers out in between.  Here each of these is a step, any number
of calls of the revoke-all handler are in flight, the process may crash at any moment, and
a start loads the persisted state again.  `persist`, which the runtime calls when it stops, loads
the counter and overwrites the file in place.

If two calls overlap so that one loads the counter before, and the other after, a third has
stored it, the slower one writes back an older epoch, in the file and in memory, and revoked
tokens come back to life (`overlapping_advances_revive`).  `orderly` is the condition under which
that does not happen: calls in flight have all loaded the value the counter still shows.
`EpochInv` is what then ties memory, files and calls together, and `epoch_monotone` is the result.
-/
import ElastosRuntime.Capability.Manager
import ElastosRuntime.Capability.PendingSystem

namespace ElastosRuntime.EpochSystem

open Transition

variable [Crypto]

/-! ## 1. The system -/

/-- Where a call of the revoke-all handler stands. -/
inductive Phase where
  | loaded
  | written
  | renamed
  /-- The write or the rename failed; `advance_epoch` is about to load the counter again. -/
  | failed
  | returned (newEpoch : Nat)
  /-- `revoke_all_granted` has run. -/
  | marked (newEpoch : Nat)
deriving DecidableEq

/-- A call, with the value of the counter it loaded: the epoch at the time of the call. -/
structure AdvanceCall where
  base : Nat
  phase : Phase
deriving DecidableEq

namespace AdvanceCall

/-- The epoch the call moves to. -/
def newEpoch (call : AdvanceCall) : Nat := (call.base + 1) % 2 ^ 64

/-- Whether the call is still to write a file or the counter. -/
def inFlight (call : AdvanceCall) : Bool :=
  match call.phase with
  | .loaded => true
  | .written => true
  | .renamed => true
  | _ => false

end AdvanceCall

/-- A running process. -/
structure Process where
  manager : CapabilityManager
  pending : PendingSystem.World

def Process.epoch (p : Process) : Nat := p.manager.store.currentEpoch

abbrev CallId := Nat

/-- The process, if one is running, its storage directory, the handler calls under way, and the
counter as a `persist` under way has loaded it. -/
structure World where
  process : Option Process
  dir : DataDir
  calls : Table CallId AdvanceCall
  persisting : Option Nat

/-- The operations of the manager that run beside the handler. -/
inductive ManagerOp where
  | validate (clock : ValidationClock) (token : CapabilityToken) (request : AccessRequest)
  | delegate (clock : ValidationClock) (fresh : Issuance) (parent : CapabilityToken)
      (callerCapsuleId toCapsule : String) (resource : ResourceId)
      (expiry : Option SecureTimestamp)
  | revoke (id : TokenId) (ioOk : Bool)

/-- One step. -/
inductive Label where
  /-- The handler calls `advance_epoch`, which loads the counter. -/
  | load (c : CallId)
  | write (c : CallId) (outcome : DataDir.WriteOutcome)
  | rename (c : CallId) (ok : Bool)
  /-- The counter is stored, or loaded again after a failure, and `advance_epoch` returns. -/
  | store (c : CallId)
  | markRevoked (c : CallId)
  | report (c : CallId)
  /-- The stopping runtime calls `persist`, which loads the counter. -/
  | persistLoad
  | persistWrite (outcome : DataDir.WriteOutcome) (revokedOk : Bool)
  | crash
  | start (io : CapabilityManager.KeyIo) (epochReadOk revokedReadOk : Bool) (timeoutSecs : Nat)
  | operate (op : ManagerOp)
  | pending (l : PendingSystem.Label)

def Process.setEpoch (p : Process) (epoch : Nat) : Process :=
  { p with manager := { p.manager with store := p.manager.store.setEpoch epoch } }

/-- The handler's call of `revoke_all_granted`. -/
def Process.revokeAllGranted (p : Process) : Process :=
  { p with pending := p.pending.setStore p.pending.store.revokeAllGranted }

/-- What a manager operation leaves of the process and the directory. -/
def operate (p : Process) (dir : DataDir) : ManagerOp → Process × DataDir
  | .validate clock token request =>
    ({ p with manager := (p.manager.validate clock token request).2 }, dir)
  | .delegate clock fresh parent caller toCapsule resource expiry =>
    ({ p with manager := (p.manager.delegate clock p.manager.epochReads fresh parent caller
        toCapsule resource expiry).2 }, dir)
  | .revoke id ioOk =>
    let (manager, dir) := p.manager.revoke dir id ioOk
    ({ p with manager }, dir)

/-- A process that has just started over the directory. -/
def boot (dir : DataDir) (io : CapabilityManager.KeyIo) (epochReadOk revokedReadOk : Bool)
    (timeoutSecs : Nat) : Process × DataDir :=
  let store := CapabilityStore.withPersistence dir epochReadOk revokedReadOk
  let (manager, dir) := CapabilityManager.loadOrGenerate dir io store
  (⟨manager, PendingSystem.World.initial timeoutSecs⟩, dir)

/-- Put a call at a phase. -/
def World.setPhase (w : World) (c : CallId) (base : Nat) (phase : Phase) : World :=
  { w with calls := w.calls.insert c ⟨base, phase⟩ }

/-- The next step of `advance_epoch` and of the handler around it. -/
def advance (w : World) (p : Process) (c : CallId) (call : AdvanceCall) : Label → Option World
  | .write _ outcome =>
    if call.phase = .loaded ∧ p.manager.store.persistent then
      let dir := w.dir.writeEpochTmp call.newEpoch outcome
      some (({ w with dir } : World).setPhase c call.base
        (if outcome = .done then .written else .failed))
    else none
  | .rename _ ok =>
    if call.phase = .written then
      match ok, w.dir.renameEpoch with
      | true, some dir => some (({ w with dir } : World).setPhase c call.base .renamed)
      | _, _ => some (w.setPhase c call.base .failed)
    else none
  | .store _ =>
    if call.phase = .renamed ∨ (call.phase = .loaded ∧ !p.manager.store.persistent) then
      some (({ w with process := some (p.setEpoch call.newEpoch) } : World).setPhase c call.base
        (.returned call.newEpoch))
    else if call.phase = .failed then
      some (w.setPhase c call.base (.returned p.epoch))
    else none
  | .markRevoked _ =>
    match call.phase with
    | .returned newEpoch =>
      some (({ w with process := some p.revokeAllGranted } : World).setPhase c call.base
        (.marked newEpoch))
    | _ => none
  | .report _ =>
    match call.phase with
    | .marked _ => some { w with calls := w.calls.erase c }
    | _ => none
  | _ => none

/-- The call a label is about, if it is about one that is under way. -/
def Label.call? : Label → Option CallId
  | .write c _ => some c
  | .rename c _ => some c
  | .store c => some c
  | .markRevoked c => some c
  | .report c => some c
  | _ => none

/-- The step function of the system. -/
def step (w : World) (l : Label) : Option World :=
  match w.process, l with
  | none, .start io epochReadOk revokedReadOk timeoutSecs =>
    let (p, dir) := boot w.dir io epochReadOk revokedReadOk timeoutSecs
    some { w with process := some p, dir }
  | none, _ => none
  | some _, .start _ _ _ _ => none
  | some _, .crash => some { w with process := none, calls := ∅, persisting := none }
  | some p, .load c =>
    if (w.calls.lookup c).isSome then none else some (w.setPhase c p.epoch .loaded)
  | some p, .persistLoad => some { w with persisting := some p.epoch }
  | some p, .persistWrite outcome revokedOk =>
    w.persisting.map fun loaded =>
      { w with dir := p.manager.store.persist loaded w.dir outcome revokedOk, persisting := none }
  | some p, .operate op =>
    let (p, dir) := operate p w.dir op
    some { w with process := some p, dir }
  | some p, .pending l =>
    (PendingSystem.step p.pending l).map fun pending =>
      { w with process := some { p with pending } }
  | some p, l =>
    l.call?.bind fun c => (w.calls.lookup c).bind fun call => advance w p c call l

/-- No process has been started yet, and so no call is in flight. -/
def Initial (w : World) : Prop := w.process = none ∧ w.calls = ∅ ∧ w.persisting = none

/-- What the handler answers. -/
structure RevokeAllOutput where
  success : Bool
  newEpoch : Nat
deriving DecidableEq

/-- The handler answers with success whatever the epoch did. -/
def output (w : World) : Label → Option RevokeAllOutput
  | .report c =>
    (w.calls.lookup c).bind fun call =>
      match call.phase with
      | .marked newEpoch => some ⟨true, newEpoch⟩
      | _ => none
  | _ => none

/-! ## 2. What ties memory, files and calls together -/

/-- The epoch a start would load from the directory. -/
def fileEpoch (dir : DataDir) : Nat := dir.readEpoch.getD 0

/-- **The invariant of a running process.**  The file is at the counter or one ahead of it; the
calls that still have to write have all loaded the same value, which is the counter's or the one
before; and what they have written already is that value's successor. -/
structure RunningInv (epoch : Nat) (dir : DataDir) (calls : Table CallId AdvanceCall) : Prop where
  lower : epoch ≤ fileEpoch dir
  upper : fileEpoch dir ≤ epoch + 1
  flight : ∀ c call, calls.lookup c = some call → call.inFlight = true →
    call.base ≤ epoch ∧ epoch ≤ call.base + 1 ∧ fileEpoch dir ≤ call.base + 1 ∧
      call.base + 1 < 2 ^ 64
  together : ∀ c c' call call', calls.lookup c = some call → calls.lookup c' = some call' →
    call.inFlight = true → call'.inFlight = true → call.base = call'.base
  written : ∀ c call, calls.lookup c = some call → call.phase = .written →
    dir.epochTmp = none ∨ dir.epochTmp = some (some (call.base + 1))
  renamed : ∀ c call, calls.lookup c = some call → call.phase = .renamed →
    fileEpoch dir = call.base + 1

variable {call : AdvanceCall}

omit [Crypto] in
theorem inFlight_of_written (h : call.phase = .written) : call.inFlight = true := by
  rw [AdvanceCall.inFlight, h]

omit [Crypto] in
theorem inFlight_of_renamed (h : call.phase = .renamed) : call.inFlight = true := by
  rw [AdvanceCall.inFlight, h]

/-- A directory with the same epochs on file. -/
def SameEpochFiles (dir dir' : DataDir) : Prop :=
  fileEpoch dir' = fileEpoch dir ∧ dir'.epochTmp = dir.epochTmp

namespace RunningInv

variable {epoch : Nat} {dir : DataDir} {calls : Table CallId AdvanceCall}

variable {dir' : DataDir}

omit [Crypto] in
/-- Calls that no longer write may come and go. -/
theorem mono {calls' : Table CallId AdvanceCall} (h : RunningInv epoch dir calls)
    (hdir : SameEpochFiles dir dir')
    (hcalls : ∀ c call, calls'.lookup c = some call → call.inFlight = true → calls.lookup c = some
      call) : RunningInv epoch dir' calls' := by
  have hfile := hdir.1
  constructor
  · rw [hfile]
    exact h.lower
  · rw [hfile]
    exact h.upper
  · intro c call hc hf
    rw [hfile]
    exact h.flight c call (hcalls c call hc hf) hf
  · intro c c' call call' hc hc' hf hf'
    exact h.together c c' call call' (hcalls c call hc hf) (hcalls c' call' hc' hf') hf hf'
  · intro c call hc hw
    rw [hdir.2]
    exact h.written c call (hcalls c call hc (inFlight_of_written hw)) hw
  · intro c call hc hr
    rw [hfile]
    exact h.renamed c call (hcalls c call hc (inFlight_of_renamed hr)) hr

variable {call : AdvanceCall}

omit [Crypto] in
/-- A call moves to a phase in which it writes no more. -/
theorem settle (h : RunningInv epoch dir calls) (c : CallId) (hcall : call.inFlight = false) :
    RunningInv epoch dir (calls.insert c call) := by
  refine h.mono ⟨rfl, rfl⟩ fun c' call' hc' hf => ?_
  rw [Table.lookup_insert_eq] at hc'
  split at hc'
  · cases hc'
    rw [hcall] at hf
    cases hf
  · exact hc'

omit [Crypto] in
/-- A call loads the counter while the others in flight have loaded its present value. -/
theorem load (h : RunningInv epoch dir calls) (c : CallId) (hlt : epoch + 1 < 2 ^ 64)
    (hothers : ∀ c' call, calls.lookup c' = some call → call.inFlight = true →
      call.base = epoch) : RunningInv epoch dir (calls.insert c ⟨epoch, .loaded⟩) := by
  have hbase : ∀ c' call, (calls.insert c ⟨epoch, .loaded⟩).lookup c' = some call →
      call.inFlight = true → call.base = epoch := by
    intro c' call hc' hf
    rw [Table.lookup_insert_eq] at hc'
    split at hc'
    · cases hc'
      rfl
    · exact hothers c' call hc' hf
  have hlower := h.lower
  have hupper := h.upper
  constructor
  · exact hlower
  · exact hupper
  · intro c' call hc' hf
    have heq := hbase c' call hc' hf
    omega
  · intro c₁ c₂ call₁ call₂ h₁ h₂ hf₁ hf₂
    rw [hbase c₁ call₁ h₁ hf₁, hbase c₂ call₂ h₂ hf₂]
  · intro c' call hc' hw
    rw [Table.lookup_insert_eq] at hc'
    split at hc'
    · cases hc'
      cases hw
    · exact h.written c' call hc' hw
  · intro c' call hc' hr
    rw [Table.lookup_insert_eq] at hc'
    split at hc'
    · cases hc'
      cases hr
    · exact h.renamed c' call hc' hr

variable {c : CallId}

omit [Crypto] in
/-- A call moves from one phase in flight to another, with what it wrote. -/
theorem move (h : RunningInv epoch dir calls) (hcall : calls.lookup c = some call)
    (hflight : call.inFlight = true) {phase : Phase} (hlower : epoch ≤ fileEpoch dir')
    (hupper : fileEpoch dir' ≤ call.base + 1)
    (hwritten : ∀ c' call', (calls.insert c ⟨call.base, phase⟩).lookup c' = some call' →
      call'.phase = .written → dir'.epochTmp = none ∨ dir'.epochTmp = some (some (call.base + 1)))
    (hrenamed : ∀ c' call', (calls.insert c ⟨call.base, phase⟩).lookup c' = some call' →
      call'.phase = .renamed → fileEpoch dir' = call.base + 1) :
    RunningInv epoch dir' (calls.insert c ⟨call.base, phase⟩) := by
  have hown := h.flight c call hcall hflight
  have hbase : ∀ c' call', (calls.insert c ⟨call.base, phase⟩).lookup c' = some call' →
      call'.inFlight = true → call'.base = call.base := by
    intro c' call' hc' hf
    rw [Table.lookup_insert_eq] at hc'
    split at hc'
    · cases hc'
      rfl
    · exact h.together c' c call' call hc' hcall hf hflight
  constructor
  · exact hlower
  · omega
  · intro c' call' hc' hf
    have heq := hbase c' call' hc' hf
    omega
  · intro c₁ c₂ call₁ call₂ h₁ h₂ hf₁ hf₂
    rw [hbase c₁ call₁ h₁ hf₁, hbase c₂ call₂ h₂ hf₂]
  · intro c' call' hc' hw
    rw [hbase c' call' hc' (inFlight_of_written hw)]
    exact hwritten c' call' hc' hw
  · intro c' call' hc' hr
    rw [hbase c' call' hc' (inFlight_of_renamed hr)]
    exact hrenamed c' call' hc' hr

omit [Crypto] in
/-- The temporary file is written. -/
theorem write (h : RunningInv epoch dir calls) (hcall : calls.lookup c = some call)
    (hflight : call.inFlight = true) :
    RunningInv epoch (dir.writeEpochTmp (call.base + 1) .done)
      (calls.insert c ⟨call.base, .written⟩) := by
  have hown := h.flight c call hcall hflight
  refine h.move hcall hflight h.lower hown.2.2.1 (fun _ _ _ _ => Or.inr rfl)
    fun c' call' hc' hr => ?_
  rw [Table.lookup_insert_eq] at hc'
  split at hc'
  · cases hc'
    cases hr
  · have heq := h.together c' c call' call hc' hcall (inFlight_of_renamed hr) hflight
    have hfile := h.renamed c' call' hc' hr
    rw [heq] at hfile
    exact hfile

omit [Crypto] in
/-- A write fails and leaves the temporary file as it was, or no other call relies on it. -/
theorem writeFailed (h : RunningInv epoch dir calls) {left : Option EpochText}
    (hleft : left = dir.epochTmp ∨ ∀ c' call', c' ≠ c → calls.lookup c' = some call' → call'.phase
      ≠ .written) :
    RunningInv epoch (dir.writeEpochTmp (call.base + 1) (.failed left))
      (calls.insert c ⟨call.base, .failed⟩) := by
  have hsettled := h.settle c (show (⟨call.base, .failed⟩ : AdvanceCall).inFlight = false from rfl)
  refine { hsettled with written := fun c' call' hc' hw => ?_ }
  rcases hleft with rfl | hnone
  · exact hsettled.written c' call' hc' hw
  · rw [Table.lookup_insert_eq] at hc'
    split at hc'
    · cases hc'
      cases hw
    · next hne => exact absurd hw (hnone c' call' hne hc')

omit [Crypto] in
/-- The temporary file becomes the epoch file. -/
theorem rename (h : RunningInv epoch dir calls) (hcall : calls.lookup c = some call)
    (hphase : call.phase = .written) (hdir : dir.renameEpoch = some dir') :
    RunningInv epoch dir' (calls.insert c ⟨call.base, .renamed⟩) ∧
      fileEpoch dir' = call.base + 1 := by
  have hflight := inFlight_of_written hphase
  have hown := h.flight c call hcall hflight
  obtain ⟨text, htext, rfl⟩ := Option.map_eq_some_iff.mp hdir
  have hnew : text = some (call.base + 1) := by
    rcases h.written c call hcall hphase with hnone | hsome
    · rw [hnone] at htext
      cases htext
    · rw [hsome, Option.some.injEq] at htext
      exact htext.symm
  subst hnew
  have hfile : fileEpoch { dir with epoch := some (some (call.base + 1)), epochTmp := none } =
      call.base + 1 := rfl
  refine ⟨h.move hcall hflight ?_ (Nat.le_of_eq hfile) (fun _ _ _ _ => Or.inl rfl)
    (fun _ _ _ _ => hfile), hfile⟩
  rw [hfile]
  exact hown.2.1

omit [Crypto] in
/-- The counter is stored. -/
theorem store (h : RunningInv epoch dir calls) (hcall : calls.lookup c = some call)
    (hphase : call.phase = .renamed) (result : Nat) :
    RunningInv (call.base + 1) dir (calls.insert c ⟨call.base, .returned result⟩) := by
  have hflight := inFlight_of_renamed hphase
  have hown := h.flight c call hcall hflight
  have hfile := h.renamed c call hcall hphase
  have hold : ∀ c' call', (calls.insert c ⟨call.base, .returned result⟩).lookup c' = some call' →
      call'.inFlight = true → calls.lookup c' = some call' := by
    intro c' call' hc' hf
    rw [Table.lookup_insert_eq] at hc'
    split at hc'
    · cases hc'
      cases hf
    · exact hc'
  constructor
  · omega
  · omega
  · intro c' call' hc' hf
    have heq := h.together c' c call' call (hold c' call' hc' hf) hcall hf hflight
    omega
  · intro c₁ c₂ call₁ call₂ h₁ h₂ hf₁ hf₂
    exact h.together c₁ c₂ call₁ call₂ (hold c₁ call₁ h₁ hf₁) (hold c₂ call₂ h₂ hf₂) hf₁ hf₂
  · intro c' call' hc' hw
    exact h.written c' call' (hold c' call' hc' (inFlight_of_written hw)) hw
  · intro c' call' hc' hr
    exact h.renamed c' call' (hold c' call' hc' (inFlight_of_renamed hr)) hr

omit [Crypto] in
/-- A start finds no calls and takes the counter from the file. -/
theorem boot (dir : DataDir) : RunningInv (fileEpoch dir) dir ∅ where
  lower := Nat.le_refl _
  upper := Nat.le_succ _
  flight := fun c _ h => by rw [AList.lookup_empty] at h; cases h
  together := fun c _ _ _ h => by rw [AList.lookup_empty] at h; cases h
  written := fun c _ h => by rw [AList.lookup_empty] at h; cases h
  renamed := fun c _ h => by rw [AList.lookup_empty] at h; cases h

end RunningInv

/-! ## 3. What one step does -/

/-- The invariant of the system: nothing is in flight while no process runs, and a running one
is tied to its files. -/
def EpochInv (w : World) : Prop :=
  match w.process with
  | none => w.calls = ∅
  | some p => p.manager.store.persistent = true ∧ RunningInv p.epoch w.dir w.calls

/-- The epoch in force: the counter's, or the one a start will load. -/
def level (w : World) : Nat :=
  match w.process with
  | none => fileEpoch w.dir
  | some p => p.epoch

/-- Neither the epoch in force nor the one on file is lower in the second state. -/
def Rises (w w' : World) : Prop := level w ≤ level w' ∧ fileEpoch w.dir ≤ fileEpoch w'.dir

/-- **Revocations run in order.**  A call loads the counter only while the calls still to write
have all loaded its present value (and it has not reached its last value); a failed write of the
shared temporary file leaves it alone while another call is about to rename it; `persist`
completes its write, and no revocation has moved the file past what it loaded; a start can read
the epoch file. -/
def orderly (w : World) : Label → Prop
  | .load _ =>
    match w.process with
    | some p => p.epoch + 1 < 2 ^ 64 ∧ ∀ c call, w.calls.lookup c = some call →
        call.inFlight = true → call.base = p.epoch
    | none => True
  | .write c (.failed left) => left = w.dir.epochTmp ∨ ∀ c' call, c' ≠ c →
      w.calls.lookup c' = some call → call.phase ≠ .written
  | .persistWrite outcome _ => outcome = .done ∧ w.persisting = some (fileEpoch w.dir)
  | .start _ epochReadOk _ _ => epochReadOk = true
  | _ => True

/-- An operation of the manager leaves the counter and the epoch files alone. -/
theorem operate_epoch (p : Process) (dir : DataDir) (op : ManagerOp) :
    (operate p dir op).1.epoch = p.epoch ∧
      (operate p dir op).1.manager.store.persistent = p.manager.store.persistent ∧
      SameEpochFiles dir (operate p dir op).2 := by
  cases op with
  | validate clock token request =>
    obtain ⟨hepoch, hpersistent⟩ := CapabilityManager.validate_epoch p.manager clock token request
    exact ⟨hepoch, hpersistent, rfl, rfl⟩
  | delegate clock fresh parent caller toCapsule resource expiry =>
    obtain ⟨hepoch, hpersistent⟩ := CapabilityManager.validate_epoch p.manager clock parent
      (CapabilityManager.parentRequest parent caller)
    rw [← CapabilityManager.delegate_manager p.manager clock p.manager.epochReads fresh parent
      caller toCapsule resource expiry] at hepoch hpersistent
    exact ⟨hepoch, hpersistent, rfl, rfl⟩
  | revoke id ioOk =>
    refine ⟨rfl, rfl, ?_⟩
    simp only [operate, CapabilityManager.revoke, CapabilityStore.revokeToken,
      CapabilityStore.persistRevokedTokens]
    split
    · exact ⟨rfl, rfl⟩
    · exact ⟨rfl, rfl⟩

/-- A process that starts with a readable epoch file has its epoch. -/
theorem boot_epoch (dir : DataDir) (io : CapabilityManager.KeyIo) (revokedReadOk : Bool)
    (timeoutSecs : Nat) :
    (boot dir io true revokedReadOk timeoutSecs).1.epoch = fileEpoch dir ∧
      (boot dir io true revokedReadOk timeoutSecs).1.manager.store.persistent = true ∧
      SameEpochFiles dir (boot dir io true revokedReadOk timeoutSecs).2 := by
  refine ⟨CapabilityStore.withPersistence_epoch dir revokedReadOk,
    CapabilityStore.withPersistence_persistent dir true revokedReadOk, ?_⟩
  simp only [boot, CapabilityManager.loadOrGenerate, CapabilityManager.loadSigningKey]
  repeat' split
  all_goals exact ⟨rfl, rfl⟩

omit [Crypto] in
/-- A `persist` that loaded the epoch on file writes it back. -/
theorem persist_epochFiles (store : CapabilityStore) (dir : DataDir) (revokedOk : Bool) :
    SameEpochFiles dir (store.persist (fileEpoch dir) dir .done revokedOk) := by
  simp only [CapabilityStore.persist, CapabilityStore.persistRevokedTokens]
  split
  · split
    · exact ⟨rfl, rfl⟩
    · exact ⟨rfl, rfl⟩
  · exact ⟨rfl, rfl⟩

variable {w w' : World}

/-- A label of a handler call is a step of that call. -/
theorem step_call {p : Process} {l : Label} {c : CallId} (hp : w.process = some p)
    (hl : l.call? = some c) :
    step w l = (w.calls.lookup c).bind fun call => advance w p c call l := by
  cases l with
  | write => simp only [step, hp, hl, Option.bind_some]
  | rename => simp only [step, hp, hl, Option.bind_some]
  | store => simp only [step, hp, hl, Option.bind_some]
  | markRevoked => simp only [step, hp, hl, Option.bind_some]
  | report => simp only [step, hp, hl, Option.bind_some]
  | _ => cases hl

omit [Crypto] in
/-- Before the counter's last value, a call moves to the successor of what it loaded. -/
theorem newEpoch_eq (h : call.base + 1 < 2 ^ 64) :
    call.newEpoch = call.base + 1 := Nat.mod_eq_of_lt h

/-- What has to be shown of a step of a running process that leaves it running. -/
theorem EpochInv.running {p p' : Process} (hp : w.process = some p) (hp' : w'.process = some p')
    (hpersistent : p'.manager.store.persistent = true) (hepoch : p.epoch ≤ p'.epoch)
    (hfile : fileEpoch w.dir ≤ fileEpoch w'.dir) (hinv : RunningInv p'.epoch w'.dir w'.calls) :
    EpochInv w' ∧ Rises w w' := by
  simp only [EpochInv, Rises, level, hp, hp']
  exact ⟨⟨hpersistent, hinv⟩, hepoch, hfile⟩

/-- A step of `advance_epoch`, or of the handler after it. -/
theorem EpochInv.advance {p : Process} {c : CallId} {l : Label} (hp : w.process = some p)
    (hpersistent : p.manager.store.persistent = true) (hinv : RunningInv p.epoch w.dir w.calls)
    (hcall : w.calls.lookup c = some call) (hl : l.call? = some c) (hg : orderly w l)
    (h : advance w p c call l = some w') : EpochInv w' ∧ Rises w w' := by
  cases l with
  | write c' outcome =>
    cases hl
    simp only [EpochSystem.advance] at h
    split at h
    · next hphase =>
      cases h
      have hflight : call.inFlight = true := by rw [AdvanceCall.inFlight, hphase.1]
      rw [newEpoch_eq (hinv.flight c call hcall hflight).2.2.2]
      cases outcome with
      | done =>
        exact EpochInv.running hp hp hpersistent (Nat.le_refl _) (Nat.le_refl _)
          (hinv.write hcall hflight)
      | failed left =>
        exact EpochInv.running hp hp hpersistent (Nat.le_refl _) (Nat.le_refl _)
          (hinv.writeFailed hg)
    · cases h
  | rename c' ok =>
    simp only [EpochSystem.advance] at h
    split at h
    · next hphase =>
      split at h
      · next dir hdir =>
        cases h
        obtain ⟨hinv', hfile⟩ := hinv.rename hcall hphase hdir
        refine EpochInv.running hp hp hpersistent (Nat.le_refl _) ?_ hinv'
        have hown := hinv.flight c call hcall (inFlight_of_written hphase)
        exact Nat.le_trans hown.2.2.1 (Nat.le_of_eq hfile.symm)
      · cases h
        exact EpochInv.running hp hp hpersistent (Nat.le_refl _) (Nat.le_refl _)
          (hinv.settle c rfl)
    · cases h
  | store c' =>
    simp only [EpochSystem.advance] at h
    split at h
    · next hphase =>
      cases h
      have hrenamed : call.phase = .renamed := by
        rcases hphase with hphase | ⟨-, hnot⟩
        · exact hphase
        · rw [hpersistent] at hnot
          cases hnot
      have hown := hinv.flight c call hcall (inFlight_of_renamed hrenamed)
      rw [newEpoch_eq hown.2.2.2]
      exact EpochInv.running hp rfl hpersistent hown.2.1 (Nat.le_refl _)
        (hinv.store hcall hrenamed _)
    · split at h
      · cases h
        exact EpochInv.running hp hp hpersistent (Nat.le_refl _) (Nat.le_refl _)
          (hinv.settle c rfl)
      · cases h
  | markRevoked c' =>
    simp only [EpochSystem.advance] at h
    split at h
    · cases h
      exact EpochInv.running hp rfl hpersistent (Nat.le_refl _) (Nat.le_refl _)
        (hinv.settle c rfl)
    · cases h
  | report c' =>
    simp only [EpochSystem.advance] at h
    split at h
    · cases h
      refine EpochInv.running hp hp hpersistent (Nat.le_refl _) (Nat.le_refl _)
        (hinv.mono ⟨rfl, rfl⟩ fun c' call' hc' _ => ?_)
      rw [Table.lookup_erase_eq] at hc'
      split at hc'
      · cases hc'
      · exact hc'
    · cases h
  | _ => cases hl

/-- **An orderly step** keeps the invariant and lowers no epoch. -/
theorem EpochInv.step {l : Label} (hw : EpochInv w) (hg : orderly w l) (h : step w l = some w') :
    EpochInv w' ∧ Rises w w' := by
  cases hp : w.process with
  | none =>
    cases l with
    | start io epochReadOk revokedReadOk timeoutSecs =>
      simp only [EpochSystem.step, hp, Option.some.injEq] at h
      subst h
      cases hg
      obtain ⟨hepoch, hpersistent, hfile, htmp⟩ := boot_epoch w.dir io revokedReadOk timeoutSecs
      simp only [EpochInv, hp] at hw
      simp only [EpochInv, Rises, level, hp, hepoch, hfile, hw]
      exact ⟨⟨hpersistent, (RunningInv.boot w.dir).mono ⟨hfile, htmp⟩ fun _ _ hc _ => hc⟩,
        Nat.le_refl _, Nat.le_refl _⟩
    | _ => simp [EpochSystem.step, hp] at h
  | some p =>
    have hrunning := hw
    simp only [EpochInv, hp] at hrunning
    obtain ⟨hpersistent, hinv⟩ := hrunning
    cases hl : l.call? with
    | some c =>
      rw [step_call hp hl] at h
      obtain ⟨call, hcall, hadvance⟩ := Option.bind_eq_some_iff.mp h
      exact EpochInv.advance hp hpersistent hinv hcall hl hg hadvance
    | none =>
      cases l with
      | start => simp [EpochSystem.step, hp] at h
      | crash =>
        simp only [EpochSystem.step, hp, Option.some.injEq] at h
        subst h
        simp only [EpochInv, Rises, level, hp]
        exact ⟨trivial, hinv.lower, Nat.le_refl _⟩
      | load c =>
        simp only [EpochSystem.step, hp] at h
        split at h
        · cases h
        · cases h
          simp only [orderly, hp] at hg
          exact EpochInv.running hp hp hpersistent (Nat.le_refl _) (Nat.le_refl _)
            (hinv.load c hg.1 hg.2)
      | persistLoad =>
        simp only [EpochSystem.step, hp, Option.some.injEq] at h
        subst h
        exact EpochInv.running hp rfl hpersistent (Nat.le_refl _) (Nat.le_refl _) hinv
      | persistWrite outcome revokedOk =>
        obtain ⟨rfl, hloaded⟩ := hg
        simp only [EpochSystem.step, hp, hloaded, Option.map_some, Option.some.injEq] at h
        subst h
        have hsame := persist_epochFiles p.manager.store w.dir revokedOk
        exact EpochInv.running hp rfl hpersistent (Nat.le_refl _) (Nat.le_of_eq hsame.1.symm)
          (hinv.mono hsame fun _ _ hc _ => hc)
      | operate op =>
        simp only [EpochSystem.step, hp, Option.some.injEq] at h
        subst h
        obtain ⟨hepoch, hkeep, hsame⟩ := operate_epoch p w.dir op
        refine EpochInv.running hp rfl (hkeep.trans hpersistent) (Nat.le_of_eq hepoch.symm)
          (Nat.le_of_eq hsame.1.symm) ?_
        rw [hepoch]
        exact hinv.mono hsame fun _ _ hc _ => hc
      | pending l =>
        simp only [EpochSystem.step, hp, Option.map_eq_some_iff] at h
        obtain ⟨pending, -, rfl⟩ := h
        exact EpochInv.running hp rfl hpersistent (Nat.le_refl _) (Nat.le_refl _) hinv
      | _ => cases hl

/-! ## 4. Whole runs -/

/-- No process and nothing in flight. -/
theorem Initial.epochInv (h : Initial w) : EpochInv w := by
  simp only [EpochInv, h.1]
  exact h.2.1

/-- **Epochs only rise.**  In every orderly run, whatever is interleaved, restarted or crashed
in it, the epoch on file and the epoch in memory are at any later moment at least what they were,
and a token below the epoch at one moment is refused at every later one. -/
theorem epoch_monotone (w₀ u v : World) (ls ks : List Label) (h₀ : Initial w₀)
    (hg : Guarded step orderly w₀ (ls ++ ks)) (hu : run step w₀ ls = some u)
    (hv : run step u ks = some v) :
    fileEpoch u.dir ≤ fileEpoch v.dir ∧
      ∀ p q, u.process = some p → v.process = some q → p.epoch ≤ q.epoch ∧
        ∀ token : CapabilityToken, token.constraints.epoch < p.epoch → ∀ clock request,
          (q.manager.validate clock token request).1 ≠ .ok () := by
  obtain ⟨hgls, hgks⟩ := hg.of_append hu
  have huinv : EpochInv u := run_invariant (fun s l t hs hgl hst => (hs.step hgl hst).1)
    h₀.epochInv hgls hu
  obtain ⟨-, hlevel, hfile⟩ := run_relation
    (fun s _ => (⟨Nat.le_refl _, Nat.le_refl _⟩ : Rises s s))
    (fun s t u _ hst htu => ⟨Nat.le_trans hst.1 htu.1, Nat.le_trans hst.2 htu.2⟩)
    (fun s l t hs hgl hst => hs.step hgl hst) huinv hgks hv
  refine ⟨hfile, fun p q hp hq => ?_⟩
  simp only [level, hp, hq] at hlevel
  exact ⟨hlevel, fun token htoken clock request =>
    CapabilityManager.validate_ne_ok_of_epoch_lt (Nat.lt_of_lt_of_le htoken hlevel) clock request⟩

section Examples

def firstStart : Label := .start ⟨true, true, true, List.Vector.replicate 32 7⟩ true true 300

def nothing : World := ⟨none, DataDir.empty, ∅, none⟩

def advanceFully (c : CallId) : List Label := [.load c, .write c .done, .rename c true, .store c]

/-- Two revocations complete while the first call has only loaded the counter. -/
def overtaken : List Label := [firstStart, .load 1] ++ advanceFully 2 ++ advanceFully 3

def goesOn : List Label := [.write 1 .done, .rename 1 true, .store 1]

/-- A token granted at an epoch by the key of `firstStart`. -/
def tokenOfEpoch (epoch : Nat) : CapabilityToken :=
  (CapabilityManager.withKey (List.Vector.replicate 32 7) CapabilityStore.new).grant ⟨epoch, epoch⟩
    ⟨List.Vector.replicate 16 1, ⟨1000, 1⟩⟩ "reader" ⟨"localhost://docs/*"⟩ .read
    ⟨0, false, none, none⟩ none

/-- The two epochs after a run, and whether the process would accept the token. -/
def observe (token : CapabilityToken) (ls : List Label) : Option (Option (Nat × Bool) × Nat) :=
  (run step nothing ls).map fun w =>
    (w.process.map fun p => (p.epoch, (p.manager.validate ⟨⟨1000, 2⟩, ⟨1000, 3⟩⟩ token
      ⟨"reader", .read, ⟨"localhost://docs/a"⟩, none⟩).1.isOk), fileEpoch w.dir)

omit [Crypto] in
/-- The slow call takes both epochs from 2 back to 1, and a revoked token is accepted again. -/
theorem overlapping_advances_revive :
    letI := keyEchoCrypto
    observe (tokenOfEpoch 1) overtaken = some (some (2, false), 2) ∧
      observe (tokenOfEpoch 1) (overtaken ++ goesOn) = some (some (1, true), 1) := by
  decide

omit [Crypto] in
theorem refused_after_restart :
    letI := keyEchoCrypto
    ∃ u v, run step nothing (firstStart :: advanceFully 1) = some u ∧
      run step u [.crash, firstStart] = some v ∧
      ∃ p q, u.process = some p ∧ v.process = some q ∧
        (q.manager.validate ⟨⟨1000, 2⟩, ⟨1000, 3⟩⟩ (tokenOfEpoch 0)
          ⟨"reader", .read, ⟨"localhost://docs/a"⟩, none⟩).1 ≠ .ok () := by
  let _ := keyEchoCrypto
  have hguard : Guarded step orderly nothing
      ((firstStart :: advanceFully 1) ++ [.crash, firstStart]) :=
    Guarded.cons rfl rfl <| Guarded.cons rfl ⟨by decide, fun _ _ h => nomatch h⟩ <|
      Guarded.cons rfl trivial <| Guarded.cons rfl trivial <| Guarded.cons rfl trivial <|
      Guarded.cons rfl trivial <| Guarded.cons rfl rfl trivial
  refine ⟨_, _, rfl, rfl, _, _, rfl, rfl, ?_⟩
  exact ((epoch_monotone nothing _ _ _ _ ⟨rfl, rfl, rfl⟩ hguard rfl rfl).2 _ _ rfl rfl).2 _
    (by decide) _ _

end Examples

end ElastosRuntime.EpochSystem
