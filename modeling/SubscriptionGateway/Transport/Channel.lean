import SubscriptionGateway.Transport.Frame

/-! A transport in memory: a client end and the two halves of the server's end, each of which can
be dropped on its own. -/
namespace SubscriptionGateway

structure Channel where
  inbound : Inbound
  /-- Frames of the server that the client has not taken. -/
  outbound : List OutboundFrame
  /-- Whether the client's end is there. -/
  hasClient : Bool
  /-- Whether the server's write half is there. -/
  hasWriter : Bool

/-- What a client that asks for a frame gets. -/
inductive ClientReading where
  | frame (value : OutboundFrame)
  | pending
  /-- Nothing is left, and nothing can come. -/
  | gone

namespace Channel

def new : Channel := ⟨.empty, [], true, true⟩

def clientSend (c : Channel) (item : InboundItem) : Channel × Bool :=
  let (inbound, taken) := c.inbound.deliver item
  ({ c with inbound }, taken)

def clientDisconnect (c : Channel) : Channel := { c with inbound := c.inbound.disconnect }

def clientReceive (c : Channel) : ClientReading × Channel :=
  match c.outbound with
  | frame :: rest => (.frame frame, { c with outbound := rest })
  | [] => (if c.hasWriter then .pending else .gone, c)

/-- Writes a frame; refused once the client's end is gone. -/
def serverWrite (c : Channel) (frame : OutboundFrame) : Except TransportError Channel :=
  if c.hasClient then .ok { c with outbound := c.outbound ++ [frame] } else .error .closed

/-- Dropping the client's end also ends the inbound stream. -/
def dropClient (c : Channel) : Channel :=
  { c with inbound := c.inbound.disconnect, outbound := [], hasClient := false }

def dropWriter (c : Channel) : Channel := { c with hasWriter := false }

def dropReader (c : Channel) : Channel := { c with inbound := c.inbound.dropReader }

end Channel

end SubscriptionGateway
