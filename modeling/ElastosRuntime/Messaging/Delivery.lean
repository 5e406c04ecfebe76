/-
# What a message channel guarantees

Two things can go wrong between the two locks of `send` and around `register`.  A destination
that is unregistered after the look-up is silently skipped by the delivery, which returns
success all the same; and registering a capsule again replaces its inbox, with every accepted
message that was still in it (`accepted_messages_lost`).

Without these two (`keepsInboxes`), what is in a queue and what is appended to it is always what
is received from it and what remains (`conserves_step`), so every accepted message was appended
once, and messages are received once and in order.
-/
import ElastosRuntime.Messaging.Channel

namespace ElastosRuntime.MessageSystem

open Transition

variable [Crypto]

/-! ## 1. Reading a trace -/

/-- The messages appended to a capsule's queue, in order. -/
def appendedTo (capsuleId : String) (es : List Event) : List Message :=
  es.filterMap fun
    | .appended _ message => if message.toCapsule = capsuleId then some message else none
    | _ => none

/-- The messages a capsule has received, in order. -/
def receivedBy (capsuleId : String) (es : List Event) : List Message :=
  es.flatMap fun
    | .received capsuleId' messages => if capsuleId' = capsuleId then messages else []
    | _ => []

/-- The calls that appended their message, in order. -/
def appendingCalls (es : List Event) : List (CallId × Message) :=
  es.filterMap fun
    | .appended c message => some (c, message)
    | _ => none

/-- The calls that returned success, in order. -/
def acceptedCalls (es : List Event) : List (CallId × Message) :=
  es.filterMap fun
    | .returned c message (.ok _) => some (c, message)
    | _ => none

/-- Whether an event is the start of a call. -/
def isSent (c : CallId) : Event → Bool
  | .sent c' _ => c' == c
  | _ => false

/-- Whether an event is the end of a call. -/
def isReturned (c : CallId) : Event → Bool
  | .returned c' _ _ => c' == c
  | _ => false

omit [Crypto] in
theorem appendedTo_append (d : String) (es fs : List Event) :
    appendedTo d (es ++ fs) = appendedTo d es ++ appendedTo d fs := List.filterMap_append

omit [Crypto] in
theorem receivedBy_append (d : String) (es fs : List Event) :
    receivedBy d (es ++ fs) = receivedBy d es ++ receivedBy d fs := List.flatMap_append

omit [Crypto] in
theorem acceptedCalls_append (es fs : List Event) :
    acceptedCalls (es ++ fs) = acceptedCalls es ++ acceptedCalls fs := List.filterMap_append

omit [Crypto] in
theorem appendingCalls_append (es fs : List Event) :
    appendingCalls (es ++ fs) = appendingCalls es ++ appendingCalls fs := List.filterMap_append

/-! ## 2. What the critical sections do to a queue -/

namespace World

def queue (w : World) (capsuleId : String) : List Message := w.channel.queue capsuleId

end World

theorem queue_insert (ch : MessageChannel) (capsuleId d : String) (q : List Message) :
    ({ ch with inboxes := ch.inboxes.insert capsuleId q } : MessageChannel).queue d =
      if d = capsuleId then q else ch.queue d := by
  simp only [MessageChannel.queue, Table.lookup_insert_eq]
  split <;> rfl

theorem queue_unregister (ch : MessageChannel) (capsuleId d : String) :
    (ch.unregister capsuleId).queue d = if d = capsuleId then [] else ch.queue d := by
  simp only [MessageChannel.queue, MessageChannel.unregister, Table.lookup_erase_eq]
  split <;> rfl

/-- A delivery appends its message when it finds room, and else changes no queue. -/
theorem queue_deliver (ch : MessageChannel) (message : Message) (d : String) :
    (ch.deliver message).2.queue d = ch.queue d ++
      if hasRoom ch message ∧ message.toCapsule = d then [message] else [] := by
  unfold MessageChannel.deliver hasRoom
  cases h : ch.inboxes.lookup message.toCapsule with
  | none => simp
  | some q =>
    dsimp only
    split
    · next hfull => simp [Nat.not_lt_of_le hfull]
    · next hroom =>
      rw [queue_insert]
      by_cases heq : message.toCapsule = d
      · subst heq
        simp [Nat.lt_of_not_le hroom, MessageChannel.queue, h]
      · simp [heq, Ne.symm heq]

/-- Checking a token leaves the inboxes alone. -/
theorem authorize_inboxes (ch : MessageChannel) (clock : ValidationClock) (message : Message)
    (token : CapabilityToken) :
    (ch.authorize clock message token).2.inboxes = ch.inboxes := by
  unfold MessageChannel.authorize
  split <;> rfl

/-- **A critical section of a call** appends the call's message if it is a delivery that finds
room, and else changes no queue. -/
theorem queue_proceed (ch : MessageChannel) (clock : ValidationClock) (call : SendCall)
    (d : String) :
    (proceed ch clock call).2.queue d = ch.queue d ++
      if (call.isDelivering && hasRoom ch call.message) = true ∧ call.message.toCapsule = d then
        [call.message] else [] := by
  cases hphase : call.phase with
  | readingShellId =>
    simp only [proceed, hphase, SendCall.isDelivering]
    split
    · simp
    · split <;> simp
  | authorizing token =>
    have hinboxes := authorize_inboxes ch clock call.message token
    simp only [proceed, hphase, SendCall.isDelivering]
    split
    · next heq =>
      rw [heq] at hinboxes
      dsimp only at hinboxes ⊢
      simp [MessageChannel.queue, hinboxes]
    · next heq =>
      rw [heq] at hinboxes
      dsimp only at hinboxes ⊢
      simp [MessageChannel.queue, hinboxes]
  | checkingDestination =>
    simp only [proceed, hphase, SendCall.isDelivering]
    split <;> simp
  | delivering =>
    simp only [proceed, hphase, SendCall.isDelivering, Bool.true_and]
    exact queue_deliver ch call.message d

/-- What is received from a queue and what is left of it. -/
theorem queue_receive (ch : MessageChannel) (capsuleId d : String) :
    ch.queue d = (if capsuleId = d then (ch.receive capsuleId).1 else []) ++
      (ch.receive capsuleId).2.queue d := by
  unfold MessageChannel.receive
  cases h : ch.inboxes.lookup capsuleId with
  | none => simp
  | some q =>
    dsimp only
    rw [queue_insert]
    by_cases heq : capsuleId = d
    · subst heq
      simp [MessageChannel.queue, h]
    · simp [heq, Ne.symm heq]

theorem queue_receiveOne (ch : MessageChannel) (capsuleId d : String) :
    ch.queue d = (if capsuleId = d then (ch.receiveOne capsuleId).1.toList else []) ++
      (ch.receiveOne capsuleId).2.queue d := by
  unfold MessageChannel.receiveOne
  cases h : ch.inboxes.lookup capsuleId with
  | none => simp
  | some q =>
    cases q with
    | nil => simp
    | cons message q =>
      dsimp only
      rw [queue_insert]
      by_cases heq : capsuleId = d
      · subst heq
        simp [MessageChannel.queue, h]
      · simp [heq, Ne.symm heq]

/-! ## 3. What one step does -/

theorem resume_channel (w : World) (c : CallId) (call : SendCall) (clock : ValidationClock) :
    (w.resume c call clock).channel = (proceed w.channel clock call).2 := by
  unfold World.resume
  rcases proceed w.channel clock call with ⟨_ | _, channel⟩
  · rfl
  · rfl

theorem resume_calls (w : World) (c : CallId) (call : SendCall) (clock : ValidationClock) :
    (w.resume c call clock).calls =
      match (proceed w.channel clock call).1 with
      | .goOn phase => w.calls.insert c { call with phase }
      | .return _ => w.calls.erase c := by
  unfold World.resume
  rcases proceed w.channel clock call with ⟨_ | _, channel⟩
  · rfl
  · rfl

variable {w w' : World}

/-- A call that goes on appends its own message, if any. -/
theorem appendedTo_resume {c : CallId} {call : SendCall} (clock : ValidationClock) (d : String)
    (hcall : w.calls.lookup c = some call) :
    appendedTo d (events w (.resume c clock)) =
      if (call.isDelivering && hasRoom w.channel call.message) = true ∧
        call.message.toCapsule = d then [call.message] else [] := by
  have hnext : appendedTo d ((proceed w.channel clock call).1.events c call.message) = [] := by
    cases (proceed w.channel clock call).1 <;> rfl
  simp only [events, hcall, appendedTo_append, hnext, List.append_nil]
  cases call.isDelivering && hasRoom w.channel call.message with
  | false => simp [appendedTo]
  | true =>
    by_cases heq : call.message.toCapsule = d
    · simp [appendedTo, heq]
    · simp [appendedTo, heq]

theorem receivedBy_resume (w : World) (c : CallId) (clock : ValidationClock) (d : String) :
    receivedBy d (events w (.resume c clock)) = [] := by
  simp only [events, receivedBy]
  split
  · rfl
  · next call _ =>
    rw [List.flatMap_append]
    cases call.isDelivering && hasRoom w.channel call.message <;>
      cases (proceed w.channel clock call).1 <;> rfl

/-- What a step adds to and takes from a queue; `register` and `unregister` are left out. -/
def Conserves (capsuleId : String) (w : World) (es : List Event) (w' : World) : Prop :=
  w.queue capsuleId ++ appendedTo capsuleId es = receivedBy capsuleId es ++ w'.queue capsuleId

/-- A step that throws away what is in a capsule's queue. -/
def discards (capsuleId : String) (w : World) : Label → Prop
  | .register capsuleId' => capsuleId' = capsuleId ∧ w.queue capsuleId ≠ []
  | .unregister capsuleId' => capsuleId' = capsuleId
  | _ => False

variable {l : Label}

/-- **Conservation**: unless the step discards the queue, what was in it and what is appended to
it is what is received from it and what remains. -/
theorem conserves_step (d : String) (hkeep : ¬ discards d w l) (h : step w l = some w') :
    Conserves d w (events w l) w' := by
  unfold Conserves
  cases l with
  | send c message token limited =>
    simp only [step] at h
    split at h
    · cases h
    · split at h
      · next hlimits =>
        cases h
        simp [events, hlimits, appendedTo, receivedBy]
      · next hlimits =>
        cases h
        simp [events, hlimits, appendedTo, receivedBy, World.queue]
  | resume c clock =>
    simp only [step, Option.map_eq_some_iff] at h
    obtain ⟨call, hcall, rfl⟩ := h
    rw [appendedTo_resume clock d hcall, receivedBy_resume, List.nil_append]
    simp only [World.queue, resume_channel]
    exact (queue_proceed w.channel clock call d).symm
  | register capsuleId =>
    cases h
    simp only [discards, not_and, not_not] at hkeep
    simp only [World.queue, World.setChannel, MessageChannel.register, queue_insert, events,
      appendedTo, receivedBy, List.filterMap_nil, List.flatMap_nil, List.append_nil,
      List.nil_append]
    split
    · next heq => exact hkeep heq.symm
    · rfl
  | unregister capsuleId =>
    cases h
    simp only [discards] at hkeep
    simp [World.queue, World.setChannel, queue_unregister, events, appendedTo, receivedBy,
      Ne.symm hkeep]
  | receive capsuleId =>
    cases h
    simpa [World.queue, World.setChannel, events, appendedTo, receivedBy]
      using queue_receive w.channel capsuleId d
  | receiveOne capsuleId =>
    cases h
    simpa [World.queue, World.setChannel, events, appendedTo, receivedBy]
      using queue_receiveOne w.channel capsuleId d
  | setShellId id =>
    cases h
    simp [World.queue, World.setChannel, MessageChannel.queue, MessageChannel.setShellId, events,
      appendedTo, receivedBy]
  | manager capabilityManager =>
    cases h
    simp [World.queue, World.setChannel, MessageChannel.queue, events, appendedTo, receivedBy]

/-- A step that discards a queue leaves it empty and is not seen. -/
theorem discards_step {d : String} (hdiscards : discards d w l) (h : step w l = some w') :
    events w l = [] ∧ w'.queue d = [] := by
  cases l with
  | register capsuleId =>
    obtain ⟨rfl, -⟩ := hdiscards
    cases h
    refine ⟨rfl, ?_⟩
    simp only [World.queue, World.setChannel, MessageChannel.register]
    rw [queue_insert, if_pos rfl]
  | unregister capsuleId =>
    cases hdiscards
    cases h
    refine ⟨rfl, ?_⟩
    simp only [World.queue, World.setChannel]
    rw [queue_unregister, if_pos rfl]
  | _ => exact hdiscards.elim

/-- **Order**: what a step receives from a queue and what remains of it are, in this order, among
what was in it and what was appended. -/
theorem sublist_step (d : String) (h : step w l = some w') :
    List.Sublist (receivedBy d (events w l) ++ w'.queue d)
      (w.queue d ++ appendedTo d (events w l)) := by
  by_cases hdiscards : discards d w l
  · obtain ⟨hevents, hqueue⟩ := discards_step hdiscards h
    rw [hevents, hqueue]
    exact List.nil_sublist _
  · rw [← conserves_step d hdiscards h]

/-- No queue is longer than allowed. -/
def Bounded (w : World) : Prop := ∀ d, (w.queue d).length ≤ MAX_QUEUE_SIZE

/-- **Capacity**: a message is appended only where there is room. -/
theorem Bounded.step (hw : Bounded w) (h : step w l = some w') : Bounded w' := by
  intro d
  have hle := (sublist_step d h).length_le
  rw [List.length_append, List.length_append] at hle
  have hbound := hw d
  cases l with
  | resume c clock =>
    obtain ⟨call, hcall, -⟩ := Option.map_eq_some_iff.mp h
    rw [appendedTo_resume clock d hcall] at hle
    split at hle
    · next hroom =>
      obtain ⟨hroom, rfl⟩ := hroom
      rw [Bool.and_eq_true] at hroom
      have hlt := hroom.2
      unfold hasRoom at hlt
      split at hlt
      · next q hq =>
        have hqueue : w.queue call.message.toCapsule = q := by
          simp only [World.queue, MessageChannel.queue, hq, Option.getD_some]
        rw [hqueue] at hle
        have hq' := of_decide_eq_true hlt
        simp only [List.length_singleton] at hle
        omega
      · cases hlt
    · simp only [List.length_nil] at hle
      omega
  | send c message token limited =>
    have hnone : appendedTo d (events w (.send c message token limited)) = [] := by
      simp only [events]
      split <;> rfl
    rw [hnone, List.length_nil] at hle
    omega
  | _ => exact Nat.le_trans (Nat.le_trans (Nat.le_add_left _ _) hle) (by simpa [events, appendedTo])

/-- **The inboxes are kept**: a delivery finds its destination registered, and a capsule is
registered only while no message waits for it. -/
def keepsInboxes (w : World) : Label → Prop
  | .resume c _ => ∀ call, w.calls.lookup c = some call → call.isDelivering = true →
      w.channel.isRegistered call.message.toCapsule = true
  | .register capsuleId => w.queue capsuleId = []
  | _ => True

/-- Only a delivery returns success. -/
theorem accepted_proceed {c : CallId} (ch : MessageChannel) (clock : ValidationClock)
    {call : SendCall} (h : call.isDelivering = false) :
    acceptedCalls ((proceed ch clock call).1.events c call.message) = [] := by
  cases hphase : call.phase with
  | readingShellId =>
    simp only [proceed, hphase]
    split
    · rfl
    · split
      · rfl
      · rfl
  | authorizing token =>
    simp only [proceed, hphase]
    split
    · rfl
    · rfl
  | checkingDestination =>
    simp only [proceed, hphase]
    split
    · rfl
    · rfl
  | delivering =>
    rw [SendCall.isDelivering, hphase] at h
    cases h

/-- **What success means**: while the inboxes are kept, a step returns success to a call exactly
when it appends the call's message. -/
theorem accepted_step (hg : keepsInboxes w l) :
    acceptedCalls (events w l) = appendingCalls (events w l) := by
  cases l with
  | send c message token limited =>
    simp only [events]
    split <;> rfl
  | resume c clock =>
    simp only [events]
    split
    · rfl
    · next call hcall =>
      rw [acceptedCalls_append, appendingCalls_append]
      cases hdelivering : call.isDelivering with
      | false =>
        rw [accepted_proceed w.channel clock hdelivering]
        cases (proceed w.channel clock call).1 <;> rfl
      | true =>
        obtain ⟨q, hq⟩ := Option.isSome_iff_exists.mp (hg call hcall hdelivering)
        have hphase : call.phase = .delivering := by
          unfold SendCall.isDelivering at hdelivering
          split at hdelivering
          · assumption
          · cases hdelivering
        simp only [proceed, hphase, hasRoom, MessageChannel.deliver, hq, Bool.true_and]
        by_cases hroom : q.length < MAX_QUEUE_SIZE
        · simp [hroom, Nat.not_le_of_lt hroom, Next.events, acceptedCalls, appendingCalls]
        · simp [hroom, Nat.le_of_not_lt hroom, Next.events, acceptedCalls, appendingCalls]
  | _ => rfl

/-- One for a call under way, and none otherwise. -/
def underWay (c : CallId) (w : World) : Nat := if (w.calls.lookup c).isSome then 1 else 0

/-- **A call returns once**: starts and returns of a call alternate. -/
theorem returns_step (c : CallId) (h : step w l = some w') :
    (events w l).countP (isReturned c) + underWay c w' =
      (events w l).countP (isSent c) + underWay c w := by
  cases l with
  | send c' message token limited =>
    simp only [step] at h
    split at h
    · cases h
    · next hidle =>
      split at h
      · next hlimits =>
        cases h
        simp [events, hlimits, List.countP_cons, isReturned, isSent]
      · next hlimits =>
        cases h
        simp only [events, hlimits, underWay, Table.lookup_insert_eq]
        by_cases heq : c = c'
        · subst heq
          simp [isReturned, isSent, hidle]
        · simp [isReturned, isSent, heq, Ne.symm heq]
  | resume c' clock =>
    obtain ⟨call, hcall, rfl⟩ := Option.map_eq_some_iff.mp h
    have happended : ∀ p : Event → Bool, (∀ m, p (.appended c' m) = false) →
        (events w (.resume c' clock)).countP p =
          ((proceed w.channel clock call).1.events c' call.message).countP p := by
      intro p hp
      simp only [events, hcall, List.countP_append]
      split
      · simp [hp]
      · simp
    rw [happended (isReturned c) fun _ => rfl, happended (isSent c) fun _ => rfl, underWay,
      underWay, resume_calls]
    cases (proceed w.channel clock call).1 with
    | goOn phase =>
      by_cases heq : c = c'
      · subst heq
        simp [Next.events, hcall]
      · simp [Next.events, heq]
    | «return» result =>
      by_cases heq : c = c'
      · subst heq
        simp [Next.events, isReturned, isSent, hcall]
      · simp [Next.events, isReturned, isSent, heq, Ne.symm heq]
  | _ =>
    cases h
    rfl

/-! ## 4. Whole runs -/

/-- **Delivery over every interleaving.**  Let the inboxes be kept in a run of a new channel.  No
queue is ever too long; the calls that returned success are, in order, those that appended their
message, each of them returning once; between any two moments what a capsule received and still
has queued is, in order, among what was queued and appended; and it is all of that if the capsule
was not unregistered in between. -/
theorem delivery_of_keepsInboxes (w₀ u v : World) (ls ks : List Label) (h₀ : Initial w₀)
    (hg : Guarded step keepsInboxes w₀ (ls ++ ks)) (hu : run step w₀ ls = some u)
    (hv : run step u ks = some v) :
    (∀ d, (v.queue d).length ≤ MAX_QUEUE_SIZE) ∧
      acceptedCalls (trace step events w₀ (ls ++ ks)) =
        appendingCalls (trace step events w₀ (ls ++ ks)) ∧
      (∀ c, (trace step events w₀ (ls ++ ks)).countP (isReturned c) ≤
        (trace step events w₀ (ls ++ ks)).countP (isSent c)) ∧
      ∀ d, List.Sublist (receivedBy d (trace step events u ks) ++ v.queue d)
          (u.queue d ++ appendedTo d (trace step events u ks)) ∧
        ((∀ l ∈ ks, l ≠ .unregister d) →
          u.queue d ++ appendedTo d (trace step events u ks) =
            receivedBy d (trace step events u ks) ++ v.queue d) := by
  obtain ⟨hgls, hgks⟩ := hg.of_append hu
  have hrun := run_append_eq_some.mpr ⟨u, hu, hv⟩
  have hbounded₀ : Bounded w₀ := fun d => by
    simp [World.queue, MessageChannel.queue, h₀.1]
  have hbounded : Bounded v := run_invariant (fun w l w' hw _ hst => hw.step hst) hbounded₀ hg hrun
  have haccepted := run_trace (R := fun _ es _ => acceptedCalls es = appendingCalls es)
    (fun _ => rfl)
    (fun _ es _ fs _ hes hfs => by rw [acceptedCalls_append, appendingCalls_append, hes, hfs])
    (fun w l w' hgl _ => accepted_step hgl) hg hrun
  have hreturns : ∀ c, (trace step events w₀ (ls ++ ks)).countP (isReturned c) + underWay c v =
      (trace step events w₀ (ls ++ ks)).countP (isSent c) + underWay c w₀ := fun c =>
    run_trace (R := fun w es w' => es.countP (isReturned c) + underWay c w' =
        es.countP (isSent c) + underWay c w) (fun _ => rfl)
      (fun _ es _ fs _ hes hfs => by
        rw [List.countP_append, List.countP_append]
        omega)
      (fun w l w' _ hst => returns_step c hst) hg hrun
  refine ⟨hbounded, haccepted, fun c => ?_, fun d => ⟨?_, fun hkept => ?_⟩⟩
  · have hidle : underWay c w₀ = 0 := by simp [underWay, h₀.2]
    have hreturn := hreturns c
    omega
  · exact run_trace (R := fun w es w' => List.Sublist (receivedBy d es ++ w'.queue d)
        (w.queue d ++ appendedTo d es)) (fun w => by simp [receivedBy, appendedTo])
      (fun s es t fs u hes hfs => by
        rw [receivedBy_append, appendedTo_append, List.append_assoc,
          ← List.append_assoc (s.queue d)]
        exact (List.Sublist.append_left hfs _).trans (by
          rw [← List.append_assoc]
          exact hes.append_right _))
      (fun w l w' _ hst => sublist_step d hst) hgks hv
  · have hlabels : Guarded step (fun w l => ¬ discards d w l) u ks := by
      refine hgks.mono_mem (fun w l hgl hne hdiscards => ?_) hkept
      cases l with
      | register capsuleId =>
        obtain ⟨rfl, hqueue⟩ := hdiscards
        exact hqueue hgl
      | unregister capsuleId => exact hne (congrArg Label.unregister hdiscards)
      | _ => exact hdiscards.elim
    exact run_trace (R := Conserves d) (fun w => by simp [Conserves, receivedBy, appendedTo])
      (fun s es t fs u hes hfs => by
        unfold Conserves at hes hfs ⊢
        rw [receivedBy_append, appendedTo_append, ← List.append_assoc, hes, List.append_assoc,
          hfs, List.append_assoc])
      (fun w l w' hgl hst => conserves_step d hgl hst) hlabels hv

section Examples

def newChannel : World :=
  ⟨⟨∅, none, CapabilityManager.withKey (List.Vector.replicate 32 7) CapabilityStore.new⟩, ∅⟩

def registered : List Label := [.setShellId "shell", .register "shell", .register "app"]

def messageOf (n : UInt8) : Message :=
  ⟨List.Vector.replicate 16 n, "shell", "app", [n], ⟨1000, 1⟩, none⟩

def resumeCall (c : CallId) : Label := .resume c ⟨⟨1000, 2⟩, ⟨1000, 3⟩⟩

/-- A call of `send` up to its last critical section. -/
def beforeDelivery (c : CallId) (n : UInt8) : List Label :=
  [.send c (messageOf n) none false, resumeCall c, resumeCall c]

/-- Two calls that overlap, the second delivered first. -/
def overlappingCalls : List Label :=
  beforeDelivery 0 1 ++ beforeDelivery 1 2 ++ [resumeCall 1, resumeCall 0, .receive "app"]

/-- What the calls accepted and appended, what the app received and what it has queued. -/
def outcome (ls : List Label) :
    List (CallId × Message) × List (CallId × Message) × List Message × Option (List Message) :=
  let es := trace step events newChannel ls
  (acceptedCalls es, appendingCalls es, receivedBy "app" es,
    (run step newChannel ls).map (·.queue "app"))

omit [Crypto] in
/-- A message is accepted and never appended, because its destination is unregistered before the
delivery; another is accepted and lost, because its destination is registered again. -/
theorem accepted_messages_lost :
    letI := keyEchoCrypto
    outcome (registered ++ beforeDelivery 0 1 ++ [.unregister "app", resumeCall 0]) =
        ([(0, messageOf 1)], [], [], some []) ∧
      outcome (registered ++ beforeDelivery 0 1 ++
          [resumeCall 0, .register "app", .receive "app"]) =
        ([(0, messageOf 1)], [(0, messageOf 1)], [], some []) := by
  decide

omit [Crypto] in
/-- Of two overlapping calls, what the app receives is what was appended, in order. -/
theorem overlapping_calls_delivered :
    letI := keyEchoCrypto
    ∃ u v, run step newChannel registered = some u ∧
      run step u overlappingCalls = some v ∧
      u.queue "app" ++ appendedTo "app" (trace step events u overlappingCalls) =
        receivedBy "app" (trace step events u overlappingCalls) ++ v.queue "app" := by
  let _ := keyEchoCrypto
  have hnotDelivering : ∀ {w : World} {c : CallId} {clock : ValidationClock},
      (w.calls.lookup c).all (fun call => !call.isDelivering ||
        w.channel.isRegistered call.message.toCapsule) = true →
      keepsInboxes w (.resume c clock) := by
    intro w c clock hall call hcall hdelivering
    rw [hcall, Option.all_some, hdelivering, Bool.not_true, Bool.false_or] at hall
    exact hall
  have hguard : Guarded step keepsInboxes newChannel (registered ++ overlappingCalls) :=
    Guarded.cons rfl trivial <| Guarded.cons rfl rfl <| Guarded.cons rfl rfl <|
      Guarded.cons rfl trivial <| Guarded.cons rfl (hnotDelivering (by decide)) <|
      Guarded.cons rfl (hnotDelivering (by decide)) <| Guarded.cons rfl trivial <|
      Guarded.cons rfl (hnotDelivering (by decide)) <|
      Guarded.cons rfl (hnotDelivering (by decide)) <|
      Guarded.cons rfl (hnotDelivering (by decide)) <|
      Guarded.cons rfl (hnotDelivering (by decide)) <| Guarded.cons rfl trivial trivial
  refine ⟨_, _, rfl, rfl, ?_⟩
  exact ((delivery_of_keepsInboxes newChannel _ _ registered _ ⟨rfl, rfl⟩ hguard rfl rfl).2.2.2
    "app").2 (by simp [overlappingCalls, beforeDelivery, resumeCall])

end Examples

end ElastosRuntime.MessageSystem
