/-! Conditions that are fatal to a connection, with the code and the text of the close frame. -/
namespace SubscriptionGateway

inductive CloseReason where
  /-- A frame that cannot be decoded, or a message type only the server may send. -/
  | invalidMessage
  /-- Anything but `connection_init` before the handshake. -/
  | unauthorized
  /-- No `connection_init` in time. -/
  | initTimeout
  /-- A `subscribe` with the id of a live operation. -/
  | subscriberExists (id : String)
  /-- A second `connection_init`. -/
  | tooManyInitRequests
  /-- The server shuts down. -/
  | goingAway
  /-- The client does not drain its messages fast enough. -/
  | outboundOverflow
deriving DecidableEq, Repr

namespace CloseReason

def code : CloseReason → Nat
  | .invalidMessage => 4400
  | .unauthorized => 4401
  | .initTimeout => 4408
  | .subscriberExists _ => 4409
  | .tooManyInitRequests => 4429
  | .goingAway => 1001
  | .outboundOverflow => 1013

def text : CloseReason → String
  | .invalidMessage => "Invalid message"
  | .unauthorized => "Unauthorized"
  | .initTimeout => "Connection initialisation timeout"
  | .subscriberExists id => "Subscriber for " ++ id ++ " already exists"
  | .tooManyInitRequests => "Too many initialisation requests"
  | .goingAway => "Server shutting down"
  | .outboundOverflow => "Outbound buffer overflow"

/-- Every kind of condition has a code of its own. -/
theorem code_eq_iff {a b : CloseReason} :
    a.code = b.code ↔ a = b ∨ ∃ i j, a = subscriberExists i ∧ b = subscriberExists j := by
  cases a <;> cases b <;> simp [code]

end CloseReason

end SubscriptionGateway
