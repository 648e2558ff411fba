import SubscriptionGateway.Text.Cuts

/-! The documents of the greeting engine: a single field in braces, after an optional operation
type and an optional name. -/
namespace SubscriptionGateway.Greeting

inductive OperationKind where
  | query
  | subscription
deriving DecidableEq, Repr

structure Document where
  kind : OperationKind
  field : String
deriving DecidableEq, Repr

def isFieldChar (c : Char) : Bool := c.isAlphanum || c == '_'

def OperationKind.ofKeyword? (word : String) : Option OperationKind :=
  if word = "query" then some .query
  else if word = "subscription" then some .subscription
  else none

/-- The operation type that a head stands for: at most two words, the first of them a keyword; no
word at all is a query. -/
def headKind? (head : List Char) : Option OperationKind :=
  match Text.words head with
  | [] => some .query
  | first :: rest =>
    if rest.length ≤ 1 then OperationKind.ofKeyword? (.ofList first) else none

/-- A field name with white space around it. -/
def field? (body : List Char) : Option String :=
  let field := Text.trim body
  if !field.isEmpty && field.all isFieldChar then some (String.ofList field) else none

/-- The head ends at the first opening brace, and the body at the last closing brace, behind which
only white space may stand. -/
def parse (query : String) : Except Text.BadSlice (Option Document) :=
  match Text.offsetOf? '\x7b' query.toList, Text.lastOffsetOf? '\x7d' query.toList with
  | some opening, some closing =>
    if closing < opening then .ok none
    else do
      let head ← Text.slice query 0 opening
      match headKind? head.toList with
      | none => return none
      | some kind =>
        let tail ← Text.slice query (closing + 1) query.utf8ByteSize
        if tail.toList.all Text.isBlank then
          let body ← Text.slice query (opening + 1) closing
          return (field? body.toList).map (Document.mk kind)
        else return none
  | _, _ => .ok none

example :
    (parse " subscription Hello \x7b greetings \x7d ").toOption =
      some (some ⟨.subscription, "greetings"⟩) := by
  decide +kernel

end SubscriptionGateway.Greeting
