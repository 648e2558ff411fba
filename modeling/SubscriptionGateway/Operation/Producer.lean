import SubscriptionGateway.Event
import SubscriptionGateway.Execution.Results
import SubscriptionGateway.Operation.Registry
import SubscriptionGateway.Wire.Encoding

/-! The producer of one operation: it turns results into `next` messages and ends with exactly one
`complete` or `error`, unless it is cancelled first or the outbound queue refuses a message. The
terminal message is enqueued in the same step that frees the id. -/
namespace SubscriptionGateway

structure Producer where
  id : String
  seq : Nat
  results : Results
  /-- Whether it has run before. -/
  started : Bool
  /-- Whether it is about to ask for the next element. -/
  asking : Bool

/-- A running producer after a step of it, or the way it ended. -/
inductive ProducerState where
  | running (producer : Producer)
  | ended (how : OperationFate)

/-- A step of a producer, with the registry and the queue after it. -/
structure ProducerTurn where
  state : ProducerState
  registry : Registry
  queue : OutboundQueue
  events : List Event

namespace OutboundQueue

/-- Encodes a message and offers it. -/
def enqueue (q : OutboundQueue) (source : Source) (message : Message) :
    OutboundQueue × Option Refusal × List Event :=
  let (after, refusal) := q.offer message.encode
  match refusal with
  | none => (after, none, [.accepted source message])
  | some .overflow =>
    let signal := if q.overflowed then [] else [Event.overflowed]
    (after, some .overflow, .refused source message .overflow :: signal)
  | some .closed => (after, some .closed, [.refused source message .closed])

end OutboundQueue

namespace Producer

def new (id : String) (seq : Nat) (request : Request) (context : Context) : Producer :=
  ⟨id, seq, .unasked request context, false, true⟩

/-- The producer of a stream that is already open. -/
def ofSteps (id : String) (seq : Nat) (steps : Nat → StreamStep) : Producer :=
  ⟨id, seq, .streaming steps 0 none, false, true⟩

/-- Ends the producer, dropping its results in the state they are in. -/
def finish (p : Producer) (results : Results) (how : OperationFate) (registry : Registry)
    (queue : OutboundQueue) (events : List Event) : ProducerTurn :=
  let abandoned := if results.isUnfinished then [Event.abandoned p.id] else []
  ⟨.ended how, registry, queue, events ++ [.operationEnded p.seq p.id how] ++ abandoned⟩

/-- Goes on towards the next element. -/
def proceed (p : Producer) (results : Results) (registry : Registry) (queue : OutboundQueue)
    (events : List Event) : ProducerTurn :=
  ⟨.running { p with results, asking := false }, registry, queue, events⟩

/-- Enqueues a result while the registration is live. -/
def emit (p : Producer) (value : ExecutionResult) (results : Results) (registry : Registry)
    (queue : OutboundQueue) : ProducerTurn :=
  match registry.emit p.id p.seq fun _ => queue.enqueue (.operation p.seq) (.next p.id value) with
  | none => p.finish results .cancelled registry queue []
  | some (queue, none, events) =>
    ⟨.running { p with results, asking := true }, registry, queue, events⟩
  | some (queue, some _, events) => p.finish results .refused registry queue events

/-- Frees the id and enqueues the terminal message in one step. -/
def terminate (p : Producer) (message : Message) (how : OperationFate) (results : Results)
    (registry : Registry) (queue : OutboundQueue) : ProducerTurn :=
  match registry.finish p.id p.seq fun _ => queue.enqueue (.operation p.seq) message with
  | none => p.finish results .cancelled registry queue []
  | some ((queue, none, events), registry) => p.finish results how registry queue events
  | some ((queue, some _, events), registry) => p.finish results .refused registry queue events

/-- A step of a producer that has started; none when it has to wait. Being cancelled comes before
everything else. -/
def advance (p : Producer) (engine : Engine) (now : Nat) (registry : Registry)
    (queue : OutboundQueue) : Option ProducerTurn :=
  if registry.isCancelled p.seq then some (p.finish p.results .cancelled registry queue [])
  else
    match p.results.poll engine now with
    | .waiting _ => none
    | .called next =>
      let events := match p.results with
        | .unasked request context =>
          [Event.called p.seq request context (engine request context)]
        | _ => []
      some (p.proceed next registry queue events)
    | .progressed next => some (p.proceed next registry queue [])
    | .element (.ok value) next => some (p.emit value next registry queue)
    | .element (.error cause) next =>
      some (p.terminate (.error p.id cause.errors) .failed next registry queue)
    | .ended => some (p.terminate (.complete p.id) .completed p.results registry queue)

/-- The first step only counts the operation as started. -/
def start (p : Producer) (registry : Registry) (queue : OutboundQueue) : ProducerTurn :=
  ⟨.running { p with started := true }, registry, queue, [.operationStarted p.seq]⟩

/-- One step; none when the producer has to wait. -/
def turn (p : Producer) (engine : Engine) (now : Nat) (registry : Registry)
    (queue : OutboundQueue) : Option ProducerTurn :=
  if p.started then p.advance engine now registry queue else some (p.start registry queue)

/-- What the next turn takes from the producer's allowance: asking for an element needs some of it,
and the end of a pause takes one. -/
def toll (p : Producer) : Option Nat :=
  if !p.started then none
  else if p.asking then some 0
  else if p.results.hasPause then some 1
  else none

/-- When a producer that waits may go on by itself. -/
def due? (p : Producer) (engine : Engine) (now : Nat) : Option Nat := p.results.due? engine now

end Producer

end SubscriptionGateway
