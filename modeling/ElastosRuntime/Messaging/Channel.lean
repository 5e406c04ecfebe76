/-
# The message channel

Per-capsule queues behind one lock (`messaging/channel.rs`).  `send` takes that lock twice: the
destination is looked up under a read lock and the message appended under a later write lock, so
here a call of `send` is a sequence of steps (`SendPhase`) between which anything may happen.

The capability manager is shared, so other components may change it at any step.  What the rate
limiter answers is an argument; the notification channel, the metrics and the audit log are left
out, as nothing here reads them.
-/
import ElastosRuntime.Capability.Manager
import ElastosRuntime.Lib.Transition

namespace ElastosRuntime

/-! ## 1. Messages -/

/-- Maximum message size in bytes. -/
def MAX_MESSAGE_SIZE : Nat := 1024 * 1024

/-- Maximum queued messages per capsule. -/
def MAX_QUEUE_SIZE : Nat := 1000

abbrev MessageId := Bytes 16

/-- A message between capsules. -/
structure Message where
  id : MessageId
  fromCapsule : String
  toCapsule : String
  payload : List UInt8
  timestamp : SecureTimestamp
  replyTo : Option MessageId
deriving DecidableEq

def Message.size (m : Message) : Nat := m.payload.length

/-- Why a message was not sent. -/
inductive MessageError where
  | notAuthorized
  | messageTooLarge (size max : Nat)
  | queueFull
  | destinationNotFound
  | senderNotRegistered
  | rateLimitExceeded
deriving DecidableEq

variable [Crypto]

/-- The inboxes by capsule, the capsule that needs no token, and the shared manager. -/
structure MessageChannel where
  inboxes : Table String (List Message)
  shellId : Option String
  capabilityManager : CapabilityManager

namespace MessageChannel

/-! ## 2. The critical sections -/

def setShellId (ch : MessageChannel) (id : String) : MessageChannel :=
  { ch with shellId := some id }

/-- Register a capsule to receive messages, with an empty inbox. -/
def register (ch : MessageChannel) (capsuleId : String) : MessageChannel :=
  { ch with inboxes := ch.inboxes.insert capsuleId [] }

def unregister (ch : MessageChannel) (capsuleId : String) : MessageChannel :=
  { ch with inboxes := ch.inboxes.erase capsuleId }

def isRegistered (ch : MessageChannel) (capsuleId : String) : Bool :=
  (ch.inboxes.lookup capsuleId).isSome

/-- The messages queued for a capsule, none if it is not registered. -/
def queue (ch : MessageChannel) (capsuleId : String) : List Message :=
  (ch.inboxes.lookup capsuleId).getD []

/-- The checks before any lock is taken. -/
def checkLimits (message : Message) (limited : Bool) : Except MessageError Unit :=
  if MAX_MESSAGE_SIZE < message.size then .error (.messageTooLarge message.size MAX_MESSAGE_SIZE)
  else if limited then .error .rateLimitExceeded
  else .ok ()

/-- Whether the sender is the shell, which needs no token. -/
def isShell (ch : MessageChannel) (message : Message) : Bool :=
  ch.shellId == some message.fromCapsule

/-- What a token for sending the message has to authorize. -/
def messageRequest (message : Message) : AccessRequest :=
  ⟨message.fromCapsule, .message, ⟨"elastos://message/" ++ message.toCapsule⟩, none⟩

/-- Validate the token of a message. -/
def authorize (ch : MessageChannel) (clock : ValidationClock) (message : Message)
    (token : CapabilityToken) : Except MessageError Unit × MessageChannel :=
  match ch.capabilityManager.validate clock token (messageRequest message) with
  | (.ok (), capabilityManager) => (.ok (), { ch with capabilityManager })
  | (.error _, capabilityManager) => (.error .notAuthorized, { ch with capabilityManager })

/-- The look-up under the read lock. -/
def checkDestination (ch : MessageChannel) (message : Message) : Except MessageError Unit :=
  if !ch.isRegistered message.toCapsule then .error .destinationNotFound
  else if !ch.isRegistered message.fromCapsule then .error .senderNotRegistered
  else .ok ()

/-- The delivery under the write lock.  A destination that is gone by now is no error. -/
def deliver (ch : MessageChannel) (message : Message) :
    Except MessageError MessageId × MessageChannel :=
  match ch.inboxes.lookup message.toCapsule with
  | some queue =>
    if MAX_QUEUE_SIZE ≤ queue.length then (.error .queueFull, ch)
    else (.ok message.id,
      { ch with inboxes := ch.inboxes.insert message.toCapsule (queue ++ [message]) })
  | none => (.ok message.id, ch)

/-- All queued messages; the queue is cleared. -/
def receive (ch : MessageChannel) (capsuleId : String) : List Message × MessageChannel :=
  match ch.inboxes.lookup capsuleId with
  | some queue => (queue, { ch with inboxes := ch.inboxes.insert capsuleId [] })
  | none => ([], ch)

/-- The oldest queued message. -/
def receiveOne (ch : MessageChannel) (capsuleId : String) : Option Message × MessageChannel :=
  match ch.inboxes.lookup capsuleId with
  | some (message :: queue) =>
    (some message, { ch with inboxes := ch.inboxes.insert capsuleId queue })
  | some [] => (none, ch)
  | none => (none, ch)

end MessageChannel

namespace MessageSystem

/-! ## 3. The system -/

/-- What a call of `send` does next. -/
inductive SendPhase where
  | readingShellId
  | authorizing (token : CapabilityToken)
  | checkingDestination
  | delivering

/-- A call of `send` under way. -/
structure SendCall where
  message : Message
  token : Option CapabilityToken
  phase : SendPhase

abbrev CallId := Nat

/-- The channel and the calls of `send` under way. -/
structure World where
  channel : MessageChannel
  calls : Table CallId SendCall

/-- One step. -/
inductive Label where
  | send (c : CallId) (message : Message) (token : Option CapabilityToken) (limited : Bool)
  /-- The next critical section of a call. -/
  | resume (c : CallId) (clock : ValidationClock)
  | register (capsuleId : String)
  | unregister (capsuleId : String)
  | receive (capsuleId : String)
  | receiveOne (capsuleId : String)
  | setShellId (id : String)
  /-- Another component has used the shared manager. -/
  | manager (capabilityManager : CapabilityManager)

/-- What a critical section of a call leads to: another one, or the call's result. -/
inductive Next where
  | goOn (phase : SendPhase)
  | return (result : Except MessageError MessageId)

/-- A critical section of a call. -/
def proceed (ch : MessageChannel) (clock : ValidationClock) (call : SendCall) :
    Next × MessageChannel :=
  match call.phase with
  | .readingShellId =>
    if ch.isShell call.message then (.goOn .checkingDestination, ch)
    else match call.token with
      | none => (.return (.error .notAuthorized), ch)
      | some token => (.goOn (.authorizing token), ch)
  | .authorizing token =>
    match ch.authorize clock call.message token with
    | (.ok (), ch) => (.goOn .checkingDestination, ch)
    | (.error e, ch) => (.return (.error e), ch)
  | .checkingDestination =>
    match ch.checkDestination call.message with
    | .ok () => (.goOn .delivering, ch)
    | .error e => (.return (.error e), ch)
  | .delivering =>
    let (result, ch) := ch.deliver call.message
    (.return result, ch)

def World.setChannel (w : World) (channel : MessageChannel) : World := { w with channel }

/-- A call runs its next critical section. -/
def World.resume (w : World) (c : CallId) (call : SendCall) (clock : ValidationClock) : World :=
  match proceed w.channel clock call with
  | (.goOn phase, channel) => ⟨channel, w.calls.insert c { call with phase }⟩
  | (.return _, channel) => ⟨channel, w.calls.erase c⟩

/-- The step function of the system. -/
def step (w : World) : Label → Option World
  | .send c message token limited =>
    if (w.calls.lookup c).isSome then none
    else match MessageChannel.checkLimits message limited with
      | .error _ => some w
      | .ok () => some { w with calls := w.calls.insert c ⟨message, token, .readingShellId⟩ }
  | .resume c clock => (w.calls.lookup c).map fun call => w.resume c call clock
  | .register capsuleId => some (w.setChannel (w.channel.register capsuleId))
  | .unregister capsuleId => some (w.setChannel (w.channel.unregister capsuleId))
  | .receive capsuleId => some (w.setChannel (w.channel.receive capsuleId).2)
  | .receiveOne capsuleId => some (w.setChannel (w.channel.receiveOne capsuleId).2)
  | .setShellId id => some (w.setChannel (w.channel.setShellId id))
  | .manager capabilityManager => some (w.setChannel { w.channel with capabilityManager })

/-- No capsule is registered and no call under way. -/
def Initial (w : World) : Prop := w.channel.inboxes = ∅ ∧ w.calls = ∅

/-! ## 4. What a step does to the queues -/

/-- What is seen of a step from outside, and what it appends to a queue. -/
inductive Event where
  | sent (c : CallId) (message : Message)
  | appended (c : CallId) (message : Message)
  | returned (c : CallId) (message : Message) (result : Except MessageError MessageId)
  | received (capsuleId : String) (messages : List Message)

/-- Whether a delivery finds the destination's queue, with room in it. -/
def hasRoom (ch : MessageChannel) (message : Message) : Bool :=
  match ch.inboxes.lookup message.toCapsule with
  | some queue => decide (queue.length < MAX_QUEUE_SIZE)
  | none => false

def SendCall.isDelivering (call : SendCall) : Bool :=
  match call.phase with
  | .delivering => true
  | _ => false

/-- The return of a call, if its critical section is the last. -/
def Next.events (c : CallId) (message : Message) : Next → List Event
  | .goOn _ => []
  | .return result => [.returned c message result]

/-- The events of a step. -/
def events (w : World) : Label → List Event
  | .send c message _ limited =>
    match MessageChannel.checkLimits message limited with
    | .error e => [.sent c message, .returned c message (.error e)]
    | .ok () => [.sent c message]
  | .resume c clock =>
    match w.calls.lookup c with
    | none => []
    | some call =>
      (if call.isDelivering && hasRoom w.channel call.message then [.appended c call.message]
        else []) ++
      (proceed w.channel clock call).1.events c call.message
  | .receive capsuleId => [.received capsuleId (w.channel.receive capsuleId).1]
  | .receiveOne capsuleId => [.received capsuleId (w.channel.receiveOne capsuleId).1.toList]
  | _ => []

end MessageSystem

end ElastosRuntime
