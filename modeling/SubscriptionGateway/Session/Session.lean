import SubscriptionGateway.Relay
import SubscriptionGateway.Wire.Decoding

/-! One connection. Its own task owns the phase, the deadline of the handshake and the life of the
registry. In each turn it looks, in this order, for an overflow of the outbound queue, something
from the peer, the deadline of the handshake while that is still open, a shutdown of the server, and
the keep-alive tick once the handshake is done. -/
namespace SubscriptionGateway

/-- What a connection is run with, times in milliseconds. -/
structure SessionConfig where
  /-- How long the client has for its `connection_init`. -/
  initTimeout : Nat
  /-- The period of the server's pings, if it sends any. -/
  keepAlive : Option Nat
  /-- How many outbound messages may wait. -/
  outboundBuffer : Nat
  /-- How long a closing connection may take to write what is queued. -/
  closeTimeout : Nat
deriving DecidableEq, Repr

def SessionConfig.default : SessionConfig := ⟨60000, none, 256, 5000⟩

inductive Phase where
  | uninitialized
  | initialized
  /-- Closing or closed; no input is processed. -/
  | closed
deriving DecidableEq, Repr

/-- Where the task of the connection stands. -/
inductive Stage where
  | running
  /-- Waiting for the writer to send the close frame, up to the given time. -/
  | closing (reason : CloseReason) (deadline : Nat)
  | ended (outcome : Outcome)
deriving DecidableEq, Repr

structure Session extends Relay where
  config : SessionConfig
  connectionId : String
  interceptors : InterceptorChain
  phase : Phase
  context : Option Context
  stage : Stage
  inbound : Inbound
  /-- Whether the server's shutdown has been requested. -/
  shutdown : Bool
  initDeadline : Nat
  /-- The time of the next keep-alive tick. -/
  nextTick : Option Nat

/-- The tasks of a connection. -/
inductive SessionTask where
  | connection
  | relay (task : RelayTask)
deriving DecidableEq, Repr

namespace Session

/-- A connection that has just been accepted, at the given time. -/
def new (config : SessionConfig) (connectionId : String) (engine : Engine)
    (interceptors : InterceptorChain) (half : WriteHalf) (now : Nat) (shutdown : Bool) :
    Session where
  toRelay := { Relay.new engine config.outboundBuffer with now, writer := some (.new half) }
  config := config
  connectionId := connectionId
  interceptors := interceptors
  phase := .uninitialized
  context := none
  stage := .running
  inbound := .empty
  shutdown := shutdown
  initDeadline := now + config.initTimeout
  nextTick := config.keepAlive.map fun period => now + period

def send (s : Session) (message : Message) : Session × List Event :=
  let (relay, events) := s.toRelay.send message
  ({ s with toRelay := relay }, events)

/-- Closes the phase and cancels every live operation. -/
def windDown (s : Session) : Session :=
  { s with phase := .closed, toRelay := s.toRelay.closeRegistry }

/-- Tears down and orders the writer to close. -/
def close (s : Session) (reason : CloseReason) : Session × List Event :=
  let torn := s.windDown
  ({ torn with
      toRelay := torn.toRelay.orderClose ⟨reason.code, reason.text⟩
      stage := .closing reason (s.now + s.config.closeTimeout) }, [.closing reason])

/-- The end of the connection's task: nobody reads what arrives any more. -/
def finish (s : Session) (outcome : Outcome) : Session × List Event :=
  ({ s with stage := .ended outcome, inbound := s.inbound.dropReader }, [.ended outcome])

/-- Tears down without another word to the peer. -/
def endWith (s : Session) (outcome : Outcome) : Session × List Event :=
  let torn := s.windDown
  { torn with toRelay := torn.toRelay.abortWriter }.finish outcome

/-- The handshake: the context is decorated once and kept, and the client is told. -/
def handshake (s : Session) (payload : Option Members) : Session × List Event :=
  let context := s.interceptors.apply (.new s.connectionId payload)
  let (after, events) :=
    { s with context := some context, phase := .initialized }.send (.connectionAck none)
  (after, .initialized context :: events)

/-- Registers an operation and starts its producer. -/
def subscribe (s : Session) (id : String) (payload : SubscribePayload) : Session × List Event :=
  match s.registry.register id with
  | .error (.alreadyExists id) => s.close (.subscriberExists id)
  | .error .closed => (s, [])
  | .ok (seq, registry) =>
    let relay := { s.toRelay with registry }
    match s.context with
    | none => { s with toRelay := relay }.close .unauthorized
    | some context =>
      ({ s with toRelay := relay.startProducer seq (.ofSubscribe id payload) context },
        [.registered id seq])

def takeMessage (s : Session) (message : Message) : Session × List Event :=
  match s.phase, message with
  | .uninitialized, .connectionInit payload => s.handshake payload
  | .uninitialized, _ => s.close .unauthorized
  | .initialized, .connectionInit _ => s.close .tooManyInitRequests
  | .initialized, .subscribe id payload => s.subscribe id payload
  | .initialized, .complete id => ({ s with toRelay := s.toRelay.cancelId id }, [])
  | .initialized, .ping payload => s.send (.pong payload)
  | .initialized, .pong _ => (s, [])
  | .initialized, .connectionAck _ | .initialized, .next _ _ | .initialized, .error _ _ =>
    s.close .invalidMessage
  | .closed, _ => (s, [])

/-- Why a frame that cannot be decoded closes the connection. Before the handshake a message of any
type but `connection_init` is unauthorized even if it is wrong in itself. -/
def rejection (phase : Phase) (error : DecodeError) : CloseReason :=
  match phase, error.type? with
  | .uninitialized, some type => if type = .connectionInit then .invalidMessage else .unauthorized
  | _, _ => .invalidMessage

def takeDecoded (s : Session) : Except DecodeError Message → Session × List Event
  | .ok message => s.takeMessage message
  | .error error => s.close (rejection s.phase error)

def takeItem (s : Session) : InboundItem → Session × List Event
  | .ok (.text content) => s.takeDecoded (Message.decode content)
  | .ok (.binary content) => s.takeDecoded (Message.decodeBinary content)
  | .ok .close => s.endWith .peerClosed
  | .error cause => s.endWith (.transportFailed cause)

/-- How much later than its deadline a tick may be taken before the ones after it are put off. -/
def tickTolerance : Nat := 5

/-- The tick after one that was due at `due` and is taken at `now`: a period after its deadline, or
a period from now if it is taken too late. -/
def tickAfter (period due now : Nat) : Nat :=
  if due + tickTolerance < now then now + period else due + period

/-- The keep-alive ping, if its tick is due. -/
def tick (s : Session) : Option (Session × List Event) :=
  match s.config.keepAlive, s.nextTick with
  | some period, some due =>
    if due ≤ s.now then
      some ({ s with nextTick := some (tickAfter period due s.now) }.send (.ping none))
    else none
  | _, _ => none

/-- A turn of the connection while nothing has come from the peer. -/
def idleTurn (s : Session) : Option (Session × List Event) :=
  if s.phase = .uninitialized ∧ s.initDeadline ≤ s.now then some (s.close .initTimeout)
  else if s.shutdown then some (s.close .goingAway)
  else if s.phase = .initialized then s.tick
  else none

def withArrival (item : Option InboundItem) (result : Session × List Event) :
    Session × List Event :=
  (result.1, .arrived item :: result.2)

/-- A turn of the connection's own task; none when it has to wait or is over. -/
def connectionTurn (s : Session) : Option (Session × List Event) :=
  match s.stage with
  | .running =>
    if s.queue.overflowed then some (s.close .outboundOverflow)
    else
      match s.inbound.next with
      | .item item rest =>
        some (withArrival (some item) ({ s with inbound := rest }.takeItem item))
      | .ended => some (withArrival none (s.endWith .peerClosed))
      | .pending => s.idleTurn
  | .closing reason deadline =>
    if s.writerStopped then some (s.finish (.serverClosed reason))
    else if deadline ≤ s.now then
      some ({ s with toRelay := s.toRelay.abortWriter }.finish (.serverClosed reason))
    else none
  | .ended _ => none

def turn (s : Session) : SessionTask → Option (Session × List Event)
  | .connection => s.connectionTurn
  | .relay task =>
    (s.toRelay.turn task).map fun (relay, events) => ({ s with toRelay := relay }, events)

/-- What the surroundings of a connection may do between the turns of its tasks. -/
inductive Stimulus where
  | deliver (item : InboundItem)
  /-- The peer goes away; what it has sent stays. -/
  | disconnect
  /-- The peer drops its end, so that writes fail as well. -/
  | losePeer
  | requestShutdown
  /-- Somebody else closes the registry. -/
  | closeRegistry
  /-- The engine comes to answer differently; executions that have begun go on as they are. -/
  | changeEngine (engine : Engine)
  /-- The clock moves on to the given time, and never back. -/
  | clock (time : Nat)

def setNow (s : Session) (time : Nat) : Session :=
  { s with toRelay := { s.toRelay with now := max s.now time } }

def losePeer (s : Session) : Session :=
  { s with
    inbound := s.inbound.disconnect
    toRelay := { s.toRelay with
      writer := s.writer.map fun w => { w with half := { w.half with peerGone := true } } } }

def stimulate (s : Session) : Stimulus → Session
  | .deliver item => { s with inbound := (s.inbound.deliver item).1 }
  | .disconnect => { s with inbound := s.inbound.disconnect }
  | .losePeer => s.losePeer
  | .requestShutdown => { s with shutdown := true }
  | .closeRegistry => { s with toRelay := s.toRelay.closeRegistry }
  | .changeEngine engine => { s with toRelay := { s.toRelay with engine } }
  | .clock time => s.setNow time

/-- One step of a connection among its surroundings, with the events that it causes. -/
inductive Step : Session → List Event → Session → Prop where
  | task {s after : Session} {task : SessionTask} {events : List Event}
      (taken : s.turn task = some (after, events)) : Step s events after
  | stimulus (s : Session) (cause : Stimulus) : Step s [] (s.stimulate cause)

/-- Steps in any order, with the events in their order. -/
inductive Reaches : Session → List Event → Session → Prop where
  | refl (s : Session) : Reaches s [] s
  | step {s middle last : Session} {first rest : List Event}
      (head : Step s first middle) (tail : Reaches middle rest last) :
      Reaches s (first ++ rest) last

/-- Every task waits. -/
def Idle (s : Session) : Prop := ∀ task, s.turn task = none

theorem Reaches.trans {s middle last : Session} {first rest : List Event}
    (h : Reaches s first middle) (t : Reaches middle rest last) :
    Reaches s (first ++ rest) last := by
  induction h with
  | refl => exact t
  | step head _ ih => simpa only [List.append_assoc] using Reaches.step head (ih t)

theorem Reaches.invariant {P : Session → Prop}
    (preserved : ∀ {s after : Session} {events : List Event}, P s → Step s events after → P after)
    {s last : Session} {events : List Event} (run : Reaches s events last) (holds : P s) :
    P last := by
  induction run with
  | refl => exact holds
  | step head _ ih => exact ih (preserved holds head)

theorem turn_connection_of_ended {s : Session} {outcome : Outcome} (h : s.stage = .ended outcome) :
    s.turn .connection = none := by
  simp [turn, connectionTurn, h]

end Session

end SubscriptionGateway
