import SubscriptionGateway.Operation.Producer
import SubscriptionGateway.Outbound.Writer

/-! The part of a connection that relays results: the producers of its operations, the registry
they end through, the queue they fill and the writer that drains it. Each producer and the writer
is a task of its own; a step of a task is one turn, and turns may come in any order. -/
namespace SubscriptionGateway

structure Relay where
  engine : Engine
  /-- Milliseconds since the clock was started. -/
  now : Nat
  registry : Registry
  queue : OutboundQueue
  /-- None until a writer is given the queue. -/
  writer : Option Writer
  /-- The producers that have not ended, in the order in which they were started. -/
  producers : List Producer

/-- The tasks of a relay. -/
inductive RelayTask where
  | writer
  /-- The producer of the registration with this number. -/
  | producer (seq : Nat)
deriving DecidableEq, Repr

namespace Relay

def new (engine : Engine) (capacity : Nat) : Relay :=
  ⟨engine, 0, .empty, .new capacity, none, []⟩

def tasks (r : Relay) : List RelayTask :=
  .writer :: r.producers.map fun p => .producer p.seq

/-- A producer after its step takes the place of the one before; one that has ended leaves. -/
def replace (producers : List Producer) (seq : Nat) (state : ProducerState) : List Producer :=
  match state with
  | .running after => producers.map fun p => if p.seq = seq then after else p
  | .ended _ => producers.filter fun p => p.seq != seq

def turn (r : Relay) : RelayTask → Option (Relay × List Event)
  | .writer =>
    match r.writer with
    | none => none
    | some writer =>
      (writer.turn r.now r.queue).map fun taken =>
        ({ r with writer := some taken.writer, queue := taken.queue }, taken.events)
  | .producer seq =>
    match r.producers.find? fun p => p.seq == seq with
    | none => none
    | some producer =>
      (producer.turn r.engine r.now r.registry r.queue).map fun taken =>
        ({ r with
            registry := taken.registry, queue := taken.queue,
            producers := replace r.producers seq taken.state }, taken.events)

/-- What the next turn of a task takes from its allowance. -/
def toll (r : Relay) : RelayTask → Option Nat
  | .writer => r.writer.bind Writer.toll
  | .producer seq => (r.producers.find? fun p => p.seq == seq).bind Producer.toll

/-- When a task that waits may go on by itself. -/
def due? (r : Relay) : RelayTask → Option Nat
  | .writer => r.writer.bind fun writer => writer.due? r.now
  | .producer seq =>
    (r.producers.find? fun p => p.seq == seq).bind fun p => p.due? r.engine r.now

/-- Hands the queue to a writer of its own. -/
def startWriter (r : Relay) (half : WriteHalf) : Relay :=
  { r with writer := some (.new half) }

def addProducer (r : Relay) (producer : Producer) : Relay :=
  { r with producers := r.producers ++ [producer] }

/-- Starts the producer of a registration. -/
def startProducer (r : Relay) (seq : Nat) (request : Request) (context : Context) : Relay :=
  r.addProducer (.new request.operationId seq request context)

/-- Enqueues a message of the connection itself, whatever becomes of it. -/
def send (r : Relay) (message : Message) : Relay × List Event :=
  let (queue, _, events) := r.queue.enqueue .connection message
  ({ r with queue }, events)

/-- Takes an id out and cancels its registration, if there is one. -/
def cancelId (r : Relay) (id : String) : Relay :=
  match r.registry.remove id with
  | none => r
  | some (seq, registry) => { r with registry := registry.cancel seq }

/-- Closes the registry, which cancels all that is live. -/
def closeRegistry (r : Relay) : Relay := { r with registry := r.registry.close }

/-- Whether the writer has stopped, or there is none. -/
def writerStopped (r : Relay) : Bool :=
  match r.writer with
  | none => true
  | some writer => writer.isStopped

def orderClose (r : Relay) (frame : CloseFrame) : Relay :=
  { r with writer := r.writer.map fun writer => writer.orderClose frame }

/-- Stops the writer without another write. -/
def abortWriter (r : Relay) : Relay :=
  match r.writer with
  | none => r
  | some writer =>
    let taken := writer.stop r.queue []
    { r with writer := some taken.writer, queue := taken.queue }

def isLive (r : Relay) (id : String) : Bool := r.registry.contains id

end Relay

end SubscriptionGateway
