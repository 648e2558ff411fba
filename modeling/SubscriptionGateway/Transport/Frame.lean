/-! Frames, and the two directions of a connection: what arrives from the peer waits in an inbound
stream, and what goes to the peer passes through a write half that may be slow, stall or fail. -/
namespace SubscriptionGateway

inductive TransportError where
  | webSocket (description : String)
  /-- The other side is gone. -/
  | closed
deriving DecidableEq, Repr

def TransportError.message : TransportError → String
  | .webSocket description => "websocket error: " ++ description
  | .closed => "transport closed"

inductive InboundFrame where
  | text (content : String)
  | binary (content : ByteArray)
  /-- The peer's close frame. -/
  | close

inductive OutboundFrame where
  | text (content : String)
  | close (code : Nat) (reason : String)
deriving DecidableEq, Repr

abbrev InboundItem := Except TransportError InboundFrame

/-- What has arrived and has not been taken, the oldest first. -/
structure Inbound where
  items : List InboundItem
  /-- Whether the peer can still send. -/
  connected : Bool
  /-- Whether anyone still reads. -/
  isRead : Bool

/-- What a reader finds. -/
inductive Arrival where
  | item (value : InboundItem) (rest : Inbound)
  | pending
  | ended

namespace Inbound

def empty : Inbound := ⟨[], true, true⟩

/-- Sends an item, and tells whether it was taken. -/
def deliver (i : Inbound) (item : InboundItem) : Inbound × Bool :=
  if i.connected && i.isRead then ({ i with items := i.items ++ [item] }, true) else (i, false)

/-- Ends the stream behind what has already arrived. -/
def disconnect (i : Inbound) : Inbound := { i with connected := false }

/-- Gives up reading; what has arrived is lost. -/
def dropReader (i : Inbound) : Inbound := { i with items := [], isRead := false }

def next (i : Inbound) : Arrival :=
  match i.items with
  | item :: rest => .item item { i with items := rest }
  | [] => if i.connected then .pending else .ended

end Inbound

inductive WriteOutcome where
  | delivered
  | failed
  /-- The write never ends. -/
  | stalled
deriving DecidableEq, Repr

/-- What becomes of one text write. -/
structure WriteFate where
  /-- Milliseconds before anything happens. -/
  delay : Nat
  outcome : WriteOutcome
deriving DecidableEq, Repr

/-- The write half of a transport. -/
structure WriteHalf where
  /-- The fate of a text write, by the number of texts delivered before it. -/
  fate : Nat → WriteFate
  /-- Whether a close frame gets through. -/
  acceptsClose : Bool
  /-- How many texts have been delivered. -/
  delivered : Nat
  /-- Whether the peer has dropped its end, so that every write fails. -/
  peerGone : Bool

namespace WriteHalf

/-- Delivers everything at once. -/
def direct : WriteHalf := ⟨fun _ => ⟨0, .delivered⟩, true, 0, false⟩

/-- Delivers with a delay; stalls or fails after some number of texts. -/
def scripted (delay : Nat) (stallAfter failAfter : Option Nat) (acceptsClose : Bool) :
    WriteHalf where
  fate delivered :=
    let passed (limit : Option Nat) : Bool := limit.any fun n => n ≤ delivered
    ⟨delay,
      if passed stallAfter then .stalled else if passed failAfter then .failed else .delivered⟩
  acceptsClose := acceptsClose
  delivered := 0
  peerGone := false

/-- The fate of the next text write, the peer's end considered. -/
def nextFate (w : WriteHalf) : WriteFate :=
  let fate := w.fate w.delivered
  if w.peerGone && fate.outcome != .stalled then { fate with outcome := .failed } else fate

end WriteHalf

end SubscriptionGateway
