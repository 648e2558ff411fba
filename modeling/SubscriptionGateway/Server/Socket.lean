import SubscriptionGateway.Event

/-! Frames of the WebSocket protocol between a client and its connection. Control frames are short:
one that is too long breaks the stream for whoever receives it. -/
namespace SubscriptionGateway

/-- What a client sends over the wire. Pings and pongs are the transport's own affair. -/
inductive SocketFrame where
  | text (content : String)
  | binary (content : ByteArray)
  | close
  | ping (payload : String)
  | pong (payload : String)

/-- What a client sees. -/
inductive ClientView where
  | frame (content : OutboundFrame)
  | pong (payload : String)
  /-- The stream is over. -/
  | ended
deriving DecidableEq, Repr

/-- The bytes that a control frame can carry. -/
def controlLimit : Nat := 125

/-- The bytes of text that a close frame can carry beside its code. -/
def closeTextLimit : Nat := controlLimit - 2

namespace SocketFrame

/-- A message that is longer than the limit is a failure of the transport. -/
def sized (limit size : Nat) (frame : InboundFrame) : InboundItem :=
  if limit < size then
    .error (.webSocket ("Space limit exceeded: Message too long: " ++ toString size ++ " > "
      ++ toString limit))
  else .ok frame

/-- What a connection receives of a control frame of the transport: nothing, unless it is too
long. -/
def control? (payload : String) : Option InboundItem :=
  if controlLimit < payload.utf8ByteSize then
    some (.error (.webSocket
      "WebSocket protocol error: Control frame too big (payload must be 125 bytes or less)"))
  else none

/-- What a connection receives for a frame of its client. -/
def inboundItem? (limit : Nat) : SocketFrame → Option InboundItem
  | .text content => some (sized limit content.utf8ByteSize (.text content))
  | .binary content => some (sized limit content.size (.binary content))
  | .close => some (.ok .close)
  | .ping payload | .pong payload => control? payload

end SocketFrame

/-- What a client sees of an event of its connection. A close frame whose text is too long is not
understood, and only the end of the stream is seen. -/
def ClientView.ofEvent? : Event → Option ClientView
  | .delivered (.close code reason) =>
    if closeTextLimit < reason.utf8ByteSize then none else some (.frame (.close code reason))
  | .delivered (.text content) => some (.frame (.text content))
  | .ponged payload => some (.pong payload)
  | .ended _ => some .ended
  | _ => none

end SubscriptionGateway
