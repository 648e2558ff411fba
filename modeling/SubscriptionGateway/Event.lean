import SubscriptionGateway.Execution.Engine
import SubscriptionGateway.Outbound.Queue
import SubscriptionGateway.Transport.Frame
import SubscriptionGateway.Wire.CloseReason

/-! What happens on a connection, as far as anyone can tell: each step of the connection and of its
tasks reports the events that it causes, and the counters of the gateway are sums over them. -/
namespace SubscriptionGateway

/-- How an operation ended. -/
inductive OperationFate where
  /-- The results are exhausted and `complete` is on its way. -/
  | completed
  /-- Execution failed and `error` is on its way. -/
  | failed
  /-- Cancelled by the client or by the end of the connection; nothing more is sent. -/
  | cancelled
  /-- The outbound queue refused a message. -/
  | refused
deriving DecidableEq, Repr

/-- How a connection ended. -/
inductive Outcome where
  | serverClosed (reason : CloseReason)
  | peerClosed
  | transportFailed (cause : TransportError)
deriving DecidableEq, Repr

/-- Who offers a message to the outbound queue. -/
inductive Source where
  | connection
  /-- The operation of the registration with this number. -/
  | operation (seq : Nat)
deriving DecidableEq, Repr

inductive Event where
  | opened
  /-- The connection takes what has arrived, or finds that nothing more can arrive. -/
  | arrived (item : Option InboundItem)
  | initialized (context : Context)
  | registered (id : String) (seq : Nat)
  /-- The engine is called for a registration, and begins the execution given. -/
  | called (seq : Nat) (request : Request) (context : Context) (execution : Execution)
  | accepted (source : Source) (message : Message)
  | refused (source : Source) (message : Message) (why : Refusal)
  /-- The outbound queue is found full for the first time. -/
  | overflowed
  /-- The producer of a registration runs for the first time. -/
  | operationStarted (seq : Nat)
  | operationEnded (seq : Nat) (id : String) (how : OperationFate)
  /-- An execution is dropped before its stream has come to its end. -/
  | abandoned (id : String)
  /-- The server decides to close. -/
  | closing (reason : CloseReason)
  | delivered (frame : OutboundFrame)
  /-- The transport answers a ping of its own level, of which the connection knows nothing. -/
  | ponged (payload : String)
  | ended (outcome : Outcome)

namespace Event

def delivered? : Event → Option OutboundFrame
  | .delivered frame => some frame
  | _ => none

/-- The id of an execution that was cut short. -/
def abandoned? : Event → Option String
  | .abandoned id => some id
  | _ => none

def isCall : Event → Bool
  | .called _ _ _ _ => true
  | _ => false

def operationFate? : Event → Option OperationFate
  | .operationEnded _ _ how => some how
  | _ => none

end Event

end SubscriptionGateway
