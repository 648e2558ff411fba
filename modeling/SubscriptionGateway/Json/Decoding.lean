import SubscriptionGateway.Json.Printer
import SubscriptionGateway.Text.Quoted

/-! Typed values out of JSON. A record is an object of its fields or an array of them in the order
of declaration. The members of an object are read in the order of their keys, and the first one
that does not fit is reported; what is missing is reported after that. -/
namespace SubscriptionGateway

/-- Why a JSON value does not have the type asked for. -/
inductive DataError where
  | wrongType (found : Json) (expected : String)
  | outOfRange (found : Int) (expected : String)
  | missingField (name : String)
  | tooFewItems (count : Nat) (record : String) (fields : Nat)
  | tooManyItems (count : Nat)
  | unknownVariant (name : String) (variants : List String)
  | severalKeys
deriving Repr, DecidableEq

abbrev Decoded (α : Type) := Except DataError α

/-- How a value is called in a diagnostic. -/
def Json.kind : Json → String
  | .null => "null"
  | .bool true => "boolean `true`"
  | .bool false => "boolean `false`"
  | .integer n => "integer `" ++ toString n ++ "`"
  | .real x => "floating point `" ++ String.ofList x.text ++ "`"
  | .string text => "string " ++ Text.quoted text
  | .array _ => "sequence"
  | .object _ => "map"

namespace DataError

def message : DataError → String
  | .wrongType found expected => "invalid type: " ++ found.kind ++ ", expected " ++ expected
  | .outOfRange found expected =>
    "invalid value: integer `" ++ toString found ++ "`, expected " ++ expected
  | .missingField name => "missing field `" ++ name ++ "`"
  | .tooFewItems count record fields =>
    "invalid length " ++ toString count ++ ", expected struct " ++ record ++ " with "
      ++ toString fields ++ " elements"
  | .tooManyItems count =>
    "invalid length " ++ toString count ++ ", expected fewer elements in array"
  | .unknownVariant name variants =>
    "unknown variant `" ++ name ++ "`, expected one of "
      ++ ", ".intercalate (variants.map fun v => "`" ++ v ++ "`")
  | .severalKeys => "invalid value: map, expected map with a single key"

end DataError

/-- The unsigned integers below a bound, and what they are called in a diagnostic. -/
structure Width where
  name : String
  bound : Nat

namespace Width

def u16 : Width := ⟨"u16", UInt16.size⟩
def u32 : Width := ⟨"u32", UInt32.size⟩
def u64 : Width := ⟨"u64", UInt64.size⟩
/-- Sizes and counts, 64 bits wide. -/
def size : Width := ⟨"usize", UInt64.size⟩

end Width

namespace Json

def decodeString : Json → Decoded String
  | .string text => .ok text
  | other => .error (.wrongType other "a string")

def decodeBool : Json → Decoded Bool
  | .bool b => .ok b
  | other => .error (.wrongType other "a boolean")

def decodeUnsigned (width : Width) : Json → Decoded Nat
  | .integer n =>
    if 0 ≤ n ∧ n.toNat < width.bound then .ok n.toNat else .error (.outOfRange n width.name)
  | other => .error (.wrongType other width.name)

def decodeMembers : Json → Decoded Members
  | .object members => .ok members
  | other => .error (.wrongType other "a map")

def decodeList {α : Type} (item : Json → Decoded α) : Json → Decoded (List α)
  | .array items => items.mapM item
  | other => .error (.wrongType other "a sequence")

/-- A null stands for an absent value. -/
def decodeOption {α : Type} (value : Json → Decoded α) : Json → Decoded (Option α)
  | .null => .ok none
  | other => (value other).map some

def decodeAny (value : Json) : Decoded Json := .ok value

/-- A record of some number of fields, as an object or as an array. -/
def decodeRecord {α : Type} (name : String) (fields : Nat) (ofMembers : Members → Decoded α)
    (ofItems : List Json → Decoded α) : Json → Decoded α
  | .object members => ofMembers members
  | .array items => do
    let record ← ofItems items
    if items.length ≤ fields then .ok record else .error (.tooManyItems items.length)
  | other => .error (.wrongType other ("struct " ++ name))

end Json

/-- The value of a member, if there is one. -/
def Members.decode? {α : Type} (members : Members) (key : String) (value : Json → Decoded α) :
    Decoded (Option α) :=
  match members.get? key with
  | none => .ok none
  | some found => (value found).map some

def Members.decodeOr {α : Type} (members : Members) (key : String) (default : α)
    (value : Json → Decoded α) : Decoded α :=
  (members.decode? key value).map fun found => found.getD default

/-- What was read for a field that must be there. -/
def requireField {α : Type} (name : String) (found : Option α) : Decoded α :=
  match found with
  | some value => .ok value
  | none => .error (.missingField name)

/-- The item at a place of a record written as an array. -/
def decodeItemOr {α : Type} (items : List Json) (index : Nat) (default : α)
    (value : Json → Decoded α) : Decoded α :=
  match items[index]? with
  | some found => value found
  | none => .ok default

def requireItem {α : Type} (record : String) (fields : Nat) (items : List Json) (index : Nat)
    (value : Json → Decoded α) : Decoded α :=
  match items[index]? with
  | some found => value found
  | none => .error (.tooFewItems index record fields)

end SubscriptionGateway
