import SubscriptionGateway.Execution.Engine
import SubscriptionGateway.Wire.Encoding

/-! A stand-in engine that follows a script for each query. -/
namespace SubscriptionGateway

def Request.members (r : Request) : Members :=
  Members.ofList [("operation_id", .string r.operationId), ("query", .string r.query),
    ("operation_name", (r.operationName.map Json.string).getD .null),
    ("variables", .object r.variableValues), ("extensions", .object r.extensions)]

def Context.toJson (c : Context) : Json :=
  .object (Members.ofList [("connection_id", .string c.connectionId),
    ("init_payload", (c.initPayload.map Json.object).getD .null),
    ("attributes", .object c.attributes)])

inductive ScriptItem where
  | result (value : ExecutionResult)
  /-- So many results, each with its number. -/
  | numbered (count : Nat)
  | failure (cause : ExecutionFailure)
  | wait (duration : Nat)
  | panic (cause : Panic)
  /-- A result with the attributes of the context. -/
  | attributes
  /-- A result with the request and its context. -/
  | echo

structure Script where
  /-- Milliseconds until the answer. -/
  delay : Nat
  /-- What comes instead of a stream of results. -/
  fault : Option Answer
  items : List ScriptItem
  /-- Whether the stream stays open after the last item. -/
  stalls : Bool

namespace ScriptItem

/-- How many steps an item takes. -/
def size : ScriptItem → Nat
  | .numbered count => count
  | _ => 1

/-- The step of an item at a position below its size. -/
def step (request : Request) (context : Context) (position : Nat) : ScriptItem → StreamStep
  | .result value => .result value
  | .numbered _ => .result (.ofData (.object [("n", .integer position)]))
  | .failure cause => .failure cause
  | .wait duration => .wait duration
  | .panic cause => .panic cause
  | .attributes => .result (.ofData (.object context.attributes))
  | .echo => .result (.ofData (.object (Members.insert "context" context.toJson request.members)))

/-- The steps of some items one after the other, and after them always the same one. -/
def stepAt (request : Request) (context : Context) (last : StreamStep) :
    List ScriptItem → Nat → StreamStep
  | [], _ => last
  | item :: rest, position =>
    if position < item.size then item.step request context position
    else stepAt request context last rest (position - item.size)

end ScriptItem

namespace Script

/-- The steps of the stream of results. -/
def steps (s : Script) (request : Request) (context : Context) : Nat → StreamStep :=
  ScriptItem.stepAt request context (if s.stalls then .stall else .finish) s.items

def execution (s : Script) (request : Request) (context : Context) : Execution :=
  ⟨s.delay, s.fault.getD (.streaming (s.steps request context))⟩

/-- The engine that knows the queries for which there is a script. -/
def engine (scripts : List (String × Script)) : Engine := fun request context =>
  match List.lookup request.query scripts with
  | some script => script.execution request context
  | none => .refusing (.ofRequest ("Cannot query field \"" ++ request.query ++ "\""))

end Script

end SubscriptionGateway
