import SubscriptionGateway.Json.Printer
import SubscriptionGateway.Wire.Message

/-! The text of a message: an envelope of `id`, `type` and `payload`, each record listing its
fields in the order of declaration, without the absent ones and without empty lists of errors and
locations. -/
namespace SubscriptionGateway

/-- A member that is left out when there is no value for it. -/
def optionalMember (name : String) (value : Option Json) : Members :=
  match value with
  | none => []
  | some value => [(name, value)]

def Location.toJson (l : Location) : Json :=
  .object [("line", .integer l.line), ("column", .integer l.column)]

/-- A list, unless it is empty. -/
def nonEmpty (items : List Json) : Option Json :=
  if items.isEmpty then none else some (.array items)

def GraphQlError.toJson (e : GraphQlError) : Json :=
  .object (("message", .string e.message)
    :: optionalMember "locations" (nonEmpty (e.locations.map Location.toJson))
    ++ optionalMember "path" (e.path.map Json.array)
    ++ optionalMember "extensions" (e.extensions.map Json.object))

def ExecutionResult.toJson (r : ExecutionResult) : Json :=
  .object (optionalMember "data" r.data
    ++ optionalMember "errors" (nonEmpty (r.errors.map GraphQlError.toJson))
    ++ optionalMember "extensions" (r.extensions.map Json.object))

def SubscribePayload.toJson (p : SubscribePayload) : Json :=
  .object (("query", .string p.query)
    :: optionalMember "operationName" (p.operationName.map Json.string)
    ++ optionalMember "variables" (p.variableValues.map Json.object)
    ++ optionalMember "extensions" (p.extensions.map Json.object))

namespace Message

def payloadJson : Message → Option Json
  | .connectionInit payload | .connectionAck payload | .ping payload | .pong payload =>
    payload.map Json.object
  | .subscribe _ payload => some payload.toJson
  | .next _ payload => some payload.toJson
  | .error _ payload => some (.array (payload.map GraphQlError.toJson))
  | .complete _ => none

def toJson (m : Message) : Json :=
  .object (optionalMember "id" (m.id?.map Json.string)
    ++ ("type", .string m.type.name)
    :: optionalMember "payload" m.payloadJson)

def encode (m : Message) : String := m.toJson.render

example : encode (.complete "1") = "\x7b\"id\":\"1\",\"type\":\"complete\"\x7d" := by decide +kernel

end Message

end SubscriptionGateway
