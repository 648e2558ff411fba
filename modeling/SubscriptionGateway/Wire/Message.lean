import SubscriptionGateway.Json.Value

/-! The messages of the `graphql-transport-ws` protocol. The first four types belong to the
connection and carry an optional object; the last four belong to one operation and carry its id. -/
namespace SubscriptionGateway

/-- The name negotiated in the upgrade. -/
def subprotocol : String := "graphql-transport-ws"

inductive MessageType where
  | connectionInit
  | connectionAck
  | ping
  | pong
  | subscribe
  | next
  | error
  | complete
deriving DecidableEq, Repr

namespace MessageType

def all : List MessageType :=
  [.connectionInit, .connectionAck, .ping, .pong, .subscribe, .next, .error, .complete]

def name : MessageType → String
  | .connectionInit => "connection_init"
  | .connectionAck => "connection_ack"
  | .ping => "ping"
  | .pong => "pong"
  | .subscribe => "subscribe"
  | .next => "next"
  | .error => "error"
  | .complete => "complete"

/-- Names are matched exactly, with their case. -/
def ofName? (name : String) : Option MessageType := all.find? fun t => t.name == name

/-- Whether messages of the type carry an operation id. -/
def hasId : MessageType → Bool
  | .subscribe | .next | .error | .complete => true
  | _ => false

/-- Whether a client may send the type. -/
def isFromClient : MessageType → Bool
  | .connectionInit | .ping | .pong | .subscribe | .complete => true
  | _ => false

theorem ofName?_name (t : MessageType) : ofName? t.name = some t := by cases t <;> rfl

theorem ofName?_eq_some_iff {name : String} {t : MessageType} :
    ofName? name = some t ↔ t.name = name := by
  constructor
  · intro h
    simpa using List.find?_some h
  · rintro rfl
    exact ofName?_name t

end MessageType

/-- The request of a `subscribe` message. -/
structure SubscribePayload where
  query : String
  operationName : Option String
  variableValues : Option Members
  extensions : Option Members
deriving DecidableEq, Repr

structure Location where
  line : Nat
  column : Nat
deriving DecidableEq, Repr

/-- An error as it stands in a list of errors. -/
structure GraphQlError where
  message : String
  locations : List Location
  path : Option (List Json)
  extensions : Option Members
deriving DecidableEq, Repr

namespace GraphQlError

def ofMessage (message : String) : GraphQlError := ⟨message, [], none, none⟩

/-- Adds an entry to the extensions, which begin empty. -/
def addExtension (e : GraphQlError) (key : String) (value : Json) : GraphQlError :=
  { e with extensions := some (Members.insert key value (e.extensions.getD [])) }

end GraphQlError

/-- One element of the results of an operation. Data that is null differs from absent data. -/
structure ExecutionResult where
  data : Option Json
  errors : List GraphQlError
  extensions : Option Members
deriving DecidableEq, Repr

def ExecutionResult.ofData (data : Json) : ExecutionResult := ⟨some data, [], none⟩

inductive Message where
  | connectionInit (payload : Option Members)
  | connectionAck (payload : Option Members)
  | ping (payload : Option Members)
  | pong (payload : Option Members)
  | subscribe (id : String) (payload : SubscribePayload)
  | next (id : String) (payload : ExecutionResult)
  | error (id : String) (payload : List GraphQlError)
  | complete (id : String)
deriving DecidableEq, Repr

namespace Message

def type : Message → MessageType
  | .connectionInit _ => .connectionInit
  | .connectionAck _ => .connectionAck
  | .ping _ => .ping
  | .pong _ => .pong
  | .subscribe _ _ => .subscribe
  | .next _ _ => .next
  | .error _ _ => .error
  | .complete _ => .complete

def id? : Message → Option String
  | .subscribe id _ | .next id _ | .error id _ | .complete id => some id
  | _ => none

theorem id?_isSome (m : Message) : m.id?.isSome = m.type.hasId := by
  cases m <;> rfl

end Message

end SubscriptionGateway
