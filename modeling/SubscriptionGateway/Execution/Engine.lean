import SubscriptionGateway.Execution.Context
import SubscriptionGateway.Wire.Message

/-! Engines. The gateway does not interpret GraphQL: an engine says, for a request and a context,
how long it takes to answer and what its stream of results does, step by step. A failure of a
single operation puts errors on the wire. -/
namespace SubscriptionGateway

inductive ExecutionFailure where
  /-- The engine rejects the request. -/
  | request (errors : List GraphQlError)
  /-- The source of the results fails. -/
  | backend (description : String)
  /-- Anything unexpected inside the engine, panics included. -/
  | internal (description : String)
deriving DecidableEq, Repr

namespace ExecutionFailure

def ofRequest (message : String) : ExecutionFailure := .request [GraphQlError.ofMessage message]

def message : ExecutionFailure → String
  | .request errors => "; ".intercalate (errors.map GraphQlError.message)
  | .backend description => description
  | .internal description => "internal error: " ++ description

/-- The payload of the `error` message, which is never empty. -/
def errors : ExecutionFailure → List GraphQlError
  | .request [] => [GraphQlError.ofMessage "Invalid request"]
  | .request (e :: rest) => e :: rest
  | .backend description => [GraphQlError.ofMessage description]
  | .internal description => [GraphQlError.ofMessage (message (.internal description))]

theorem errors_ne_nil (f : ExecutionFailure) : f.errors ≠ [] := by
  unfold errors
  split <;> simp

end ExecutionFailure

/-- A request, detached from the message that carried it. -/
structure Request where
  operationId : String
  query : String
  operationName : Option String
  variableValues : Members
  extensions : Members
deriving DecidableEq, Repr

/-- Variables and extensions that the client did not send are empty. -/
def Request.ofSubscribe (operationId : String) (payload : SubscribePayload) : Request where
  operationId := operationId
  query := payload.query
  operationName := payload.operationName
  variableValues := payload.variableValues.getD []
  extensions := payload.extensions.getD []

/-- What a panic leaves behind: its text, if it has one. -/
structure Panic where
  text : Option String
deriving DecidableEq, Repr

def Panic.failure (p : Panic) : ExecutionFailure := .internal (p.text.getD "execution panicked")

/-- One step of a stream of results. -/
inductive StreamStep where
  | result (value : ExecutionResult)
  | failure (cause : ExecutionFailure)
  | panic (cause : Panic)
  /-- Nothing for so many milliseconds. -/
  | wait (duration : Nat)
  /-- Nothing ever again. -/
  | stall
  | finish
deriving Repr

/-- How an engine answers a request; a stream gives its step for each position. -/
inductive Answer where
  | refused (cause : ExecutionFailure)
  | panicked (cause : Panic)
  | streaming (steps : Nat → StreamStep)

structure Execution where
  /-- Milliseconds until the answer. -/
  delay : Nat
  answer : Answer

abbrev Engine := Request → Context → Execution

namespace Execution

/-- The steps of a list, and after them always the same one. -/
def stepsOf (steps : List StreamStep) (last : StreamStep) : Nat → StreamStep :=
  fun position => steps.getD position last

def ofSteps (steps : List StreamStep) (last : StreamStep) : Execution :=
  ⟨0, .streaming (stepsOf steps last)⟩

def refusing (cause : ExecutionFailure) : Execution := ⟨0, .refused cause⟩

def panicking (cause : Panic) : Execution := ⟨0, .panicked cause⟩

end Execution

end SubscriptionGateway
