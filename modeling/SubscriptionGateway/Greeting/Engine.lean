import SubscriptionGateway.Execution.Engine
import SubscriptionGateway.Greeting.Document

/-! An engine that greets whoever the context names: one greeting, all greetings in one result, or
all greetings one after the other. -/
namespace SubscriptionGateway.Greeting

def salutations : List String := ["Hi", "Bonjour", "Hola", "Ciao", "Zdravo"]

/-- Milliseconds between the greetings of a subscription, unless another interval is chosen. -/
def defaultInterval : Nat := 500

/-- The `name` attribute if it is a string. -/
def nameOf (context : Context) : String :=
  match context.attribute? "name" with
  | some (.string name) => name
  | _ => "World"

def greetingsTo (name : String) : List String := salutations.map fun s => s ++ " " ++ name

/-- A result whose data has the one field. -/
def resultOf (field : String) (value : Json) : ExecutionResult := .ofData (.object [(field, value)])

/-- Results with a pause between them. -/
def spaced (interval : Nat) : List ExecutionResult → List StreamStep
  | [] => []
  | [last] => [.result last]
  | first :: rest => .result first :: .wait interval :: spaced interval rest

def typeName : OperationKind → String
  | .query => "Query"
  | .subscription => "Subscription"

def unknownField (d : Document) : ExecutionFailure :=
  .ofRequest ("Cannot query field \"" ++ d.field ++ "\" on type \"" ++ typeName d.kind ++ "\"")

def execute (interval : Nat) (d : Document) (name : String) : Execution :=
  match d.kind, d.field with
  | .query, "greeting" =>
    .ofSteps [.result (resultOf "greeting" (.string ("Hello " ++ name)))] .finish
  | .query, "greetings" =>
    .ofSteps [.result (resultOf "greetings" (.array ((greetingsTo name).map .string)))] .finish
  | .subscription, "greetings" =>
    .ofSteps
      (spaced interval ((greetingsTo name).map fun text => resultOf "greetings" (.string text)))
      .finish
  | _, _ => .refusing (unknownField d)

def engine (interval : Nat) : Engine := fun request context =>
  match parse request.query with
  | .error _ => .panicking ⟨none⟩
  | .ok none => .refusing (.ofRequest "Unsupported document")
  | .ok (some d) => execute interval d (nameOf context)

end SubscriptionGateway.Greeting
