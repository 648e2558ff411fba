import SubscriptionGateway.Event

/-! The writer of a connection, which owns the write half of the transport. It writes what is
queued, one text after the other. Once it is asked to close, it writes what is left in the queue,
then the close frame, and stops; a write that fails stops it at once. -/
namespace SubscriptionGateway

/-- The code and the text of a close frame. -/
structure CloseFrame where
  code : Nat
  reason : String
deriving DecidableEq, Repr

inductive WriterActivity where
  /-- Waiting for a message or for the order to close. -/
  | serving
  /-- Inside the write of a text, which takes until the given time. -/
  | writing (text : String) (due : Nat) (closing : Option CloseFrame)
  /-- Emptying the queue ahead of the close frame. -/
  | flushing (frame : CloseFrame)
  | stopped
deriving DecidableEq, Repr

structure Writer where
  half : WriteHalf
  activity : WriterActivity
  /-- The order to close, until the writer has seen it. -/
  closeOrder : Option CloseFrame

/-- A step of the writer, with the queue after it. -/
structure WriterTurn where
  writer : Writer
  queue : OutboundQueue
  events : List Event

namespace Writer

def new (half : WriteHalf) : Writer := ⟨half, .serving, none⟩

def isStopped (w : Writer) : Bool := w.activity == .stopped

/-- Stops the writer; what is queued is lost. -/
def stop (w : Writer) (q : OutboundQueue) (events : List Event) : WriterTurn :=
  ⟨{ w with activity := .stopped }, q.close, events⟩

def orderClose (w : Writer) (frame : CloseFrame) : Writer := { w with closeOrder := some frame }

/-- Takes the next message, if there is one, and begins to write it. -/
def begin? (w : Writer) (now : Nat) (q : OutboundQueue) (closing : Option CloseFrame) :
    Option WriterTurn :=
  q.take?.map fun (text, rest) =>
    ⟨{ w with activity := .writing text (now + w.half.nextFate.delay) closing }, rest, []⟩

/-- The state to go back to after a write. -/
def afterWrite : Option CloseFrame → WriterActivity
  | none => .serving
  | some frame => .flushing frame

def complete (w : Writer) (text : String) (closing : Option CloseFrame) (q : OutboundQueue) :
    WriterTurn :=
  let half := { w.half with delivered := w.half.delivered + 1 }
  ⟨{ w with half, activity := afterWrite closing }, q, [.delivered (.text text)]⟩

def sendClose (w : Writer) (frame : CloseFrame) (q : OutboundQueue) : WriterTurn :=
  if w.half.acceptsClose && !w.half.peerGone then
    w.stop q [.delivered (.close frame.code frame.reason)]
  else w.stop q []

/-- One step; none when the writer has to wait or has stopped. -/
def turn (w : Writer) (now : Nat) (q : OutboundQueue) : Option WriterTurn :=
  match w.activity with
  | .serving =>
    match w.closeOrder with
    | some frame => some ⟨{ w with activity := .flushing frame, closeOrder := none }, q, []⟩
    | none =>
      match w.begin? now q none with
      | some started => some started
      | none => if q.hasProducers then none else some (w.stop q [])
  | .writing text due closing =>
    if now < due then none
    else
      match w.half.nextFate.outcome with
      | .delivered => some (w.complete text closing q)
      | .failed => some (w.stop q [])
      | .stalled => none
  | .flushing frame =>
    match w.begin? now q (some frame) with
    | some started => some started
    | none => some (w.sendClose frame q)
  | .stopped => none

/-- What the next turn takes from the writer's allowance: one for a message or an order to close,
and one for the end of a slow write. Emptying the queue ahead of the close frame is free. -/
def toll (w : Writer) : Option Nat :=
  match w.activity with
  | .serving => some 1
  | .writing _ _ _ => if w.half.nextFate.delay = 0 then none else some 1
  | .flushing _ | .stopped => none

/-- When a writer that waits may go on by itself. -/
def due? (w : Writer) (now : Nat) : Option Nat :=
  match w.activity with
  | .writing _ due _ => if now < due then some due else none
  | _ => none

theorem activity_stop (w : Writer) (q : OutboundQueue) (events : List Event) :
    (w.stop q events).writer.activity = .stopped := rfl

end Writer

end SubscriptionGateway
