/-! The bounded queue between those who produce messages and the writer. Enqueuing never waits: a
full queue refuses the message and raises the overflow signal, which stays raised. -/
namespace SubscriptionGateway

/-- Why a message was not enqueued. -/
inductive Refusal where
  | overflow
  /-- The writer is gone. -/
  | closed
deriving DecidableEq, Repr

def Refusal.message : Refusal → String
  | .overflow => "outbound buffer overflow"
  | .closed => "outbound sink closed"

structure OutboundQueue where
  capacity : Nat
  /-- Encoded messages, the oldest first. -/
  messages : List String
  overflowed : Bool
  /-- Whether there is a consumer, running or yet to come. -/
  isOpen : Bool
  /-- Whether anyone is left who could enqueue. -/
  hasProducers : Bool
deriving DecidableEq, Repr

namespace OutboundQueue

/-- A queue holds at least one message. -/
def new (capacity : Nat) : OutboundQueue := ⟨max capacity 1, [], false, true, true⟩

def isFull (q : OutboundQueue) : Bool := q.capacity ≤ q.messages.length

/-- The queue after an attempt to enqueue, and the refusal if there was one. -/
def offer (q : OutboundQueue) (text : String) : OutboundQueue × Option Refusal :=
  if !q.isOpen then (q, some .closed)
  else if q.isFull then ({ q with overflowed := true }, some .overflow)
  else ({ q with messages := q.messages ++ [text] }, none)

/-- Without a consumer everything that waits is lost. -/
def close (q : OutboundQueue) : OutboundQueue := { q with isOpen := false, messages := [] }

def take? (q : OutboundQueue) : Option (String × OutboundQueue) :=
  match q.messages with
  | [] => none
  | text :: rest => some (text, { q with messages := rest })

end OutboundQueue

end SubscriptionGateway
