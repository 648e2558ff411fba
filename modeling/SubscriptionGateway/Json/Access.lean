import SubscriptionGateway.Json.Value

/-! Fields of a JSON object by name, for documents of which only some parts matter. A value of the
wrong kind counts as absent. -/
namespace SubscriptionGateway.Json

/-- The value of a field, null included. -/
def field? (value : Json) (name : String) : Option Json :=
  match value with
  | .object members => Members.get? members name
  | _ => none

/-- The value of a field that is not null. -/
def given? (value : Json) (name : String) : Option Json :=
  match value with
  | .object members => Members.given? members name
  | _ => none

def asText? : Json → Option String
  | .string text => some text
  | _ => none

def asNat? : Json → Option Nat
  | .integer n => some n.toNat
  | _ => none

def asBool? : Json → Option Bool
  | .bool b => some b
  | _ => none

def asItems? : Json → Option (List Json)
  | .array items => some items
  | _ => none

def asMembers? : Json → Option Members
  | .object members => some members
  | _ => none

def text? (value : Json) (name : String) : Option String := (value.given? name).bind asText?

def nat? (value : Json) (name : String) : Option Nat := (value.given? name).bind asNat?

def object? (value : Json) (name : String) : Option Members :=
  (value.given? name).bind asMembers?

def text (value : Json) (name : String) : String := (value.text? name).getD ""

def nat (value : Json) (name : String) (default : Nat) : Nat := (value.nat? name).getD default

def flag (value : Json) (name : String) : Bool := ((value.given? name).bind asBool?).getD false

def items (value : Json) (name : String) : List Json :=
  ((value.given? name).bind asItems?).getD []

def texts (value : Json) (name : String) : List String := (value.items name).filterMap asText?

/-- A list of pairs of a name and a value. -/
def pairs (value : Json) (name : String) : List (String × Json) :=
  (value.items name).filterMap fun
    | .array [.string key, entry] => some (key, entry)
    | _ => none

theorem given?_eq_some {value found : Json} {name : String} (h : value.given? name = some found) :
    value.field? name = some found := by
  cases value with
  | object members =>
    simp only [given?, field?, Members.given?] at h ⊢
    split at h
    · cases h
    · exact h
  | _ => simp [given?] at h

end SubscriptionGateway.Json
