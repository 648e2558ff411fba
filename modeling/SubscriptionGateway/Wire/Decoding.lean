import SubscriptionGateway.Json.Decoding
import SubscriptionGateway.Json.Reader
import SubscriptionGateway.Wire.Message

/-! Messages out of frames. The envelope is looked at first, type before payload; then, for the
types that belong to an operation, the id; the payload comes last. -/
namespace SubscriptionGateway

/-- Why the text of a frame is not a JSON object. -/
inductive Malformation where
  | syntaxError
  | notAnObject
deriving DecidableEq, Repr

inductive PayloadFault where
  | notAnObject
  | missing
  | data (cause : DataError)
deriving DecidableEq, Repr

inductive DecodeError where
  | notUtf8
  | malformed (cause : Malformation)
  | missingType
  /-- The name as written, or the text of a value that is not a string. -/
  | unknownType (name : String)
  | missingId (type : MessageType)
  | invalidId (type : MessageType)
  | invalidPayload (type : MessageType) (cause : PayloadFault)
deriving DecidableEq, Repr

def Malformation.message : Malformation → String
  | .syntaxError => "<syntax>"
  | .notAnObject => "expected a JSON object"

def PayloadFault.message : PayloadFault → String
  | .notAnObject => "expected a JSON object"
  | .missing => "missing payload"
  | .data cause => cause.message

namespace DecodeError

def message : DecodeError → String
  | .notUtf8 => "frame is not valid UTF-8"
  | .malformed cause => "malformed message: " ++ cause.message
  | .missingType => "message has no type"
  | .unknownType name => "unknown message type: " ++ name
  | .missingId type => type.name ++ " message requires an id"
  | .invalidId type => type.name ++ " message id must be a string"
  | .invalidPayload type cause => "invalid " ++ type.name ++ " payload: " ++ cause.message

/-- The type of the message, if decoding got far enough to know it. -/
def type? : DecodeError → Option MessageType
  | .missingId type | .invalidId type | .invalidPayload type _ => some type
  | _ => none

/-- Whether no type of message could be established. -/
def isOfEnvelope : DecodeError → Bool
  | .notUtf8 | .malformed _ | .missingType | .unknownType _ => true
  | _ => false

theorem isOfEnvelope_eq (e : DecodeError) : e.isOfEnvelope = e.type?.isNone := by
  cases e <;> rfl

end DecodeError

namespace SubscribePayload

def ofMembers (m : Members) : Decoded SubscribePayload := do
  let extensions ← m.decodeOr "extensions" none (Json.decodeOption Json.decodeMembers)
  let operationName ← m.decodeOr "operationName" none (Json.decodeOption Json.decodeString)
  let query ← m.decode? "query" Json.decodeString
  let variableValues ← m.decodeOr "variables" none (Json.decodeOption Json.decodeMembers)
  let query ← requireField "query" query
  pure { query, operationName, variableValues, extensions }

def ofItems (items : List Json) : Decoded SubscribePayload := do
  let query ← requireItem "SubscribePayload" 4 items 0 Json.decodeString
  let operationName ← decodeItemOr items 1 none (Json.decodeOption Json.decodeString)
  let variableValues ← decodeItemOr items 2 none (Json.decodeOption Json.decodeMembers)
  let extensions ← decodeItemOr items 3 none (Json.decodeOption Json.decodeMembers)
  pure { query, operationName, variableValues, extensions }

def decode : Json → Decoded SubscribePayload :=
  Json.decodeRecord "SubscribePayload" 4 ofMembers ofItems

end SubscribePayload

namespace Location

def ofMembers (m : Members) : Decoded Location := do
  let column ← m.decode? "column" (Json.decodeUnsigned Width.u32)
  let line ← m.decode? "line" (Json.decodeUnsigned Width.u32)
  let line ← requireField "line" line
  let column ← requireField "column" column
  pure { line, column }

def ofItems (items : List Json) : Decoded Location := do
  let line ← requireItem "Location" 2 items 0 (Json.decodeUnsigned Width.u32)
  let column ← requireItem "Location" 2 items 1 (Json.decodeUnsigned Width.u32)
  pure { line, column }

def decode : Json → Decoded Location := Json.decodeRecord "Location" 2 ofMembers ofItems

end Location

namespace GraphQlError

def ofMembers (m : Members) : Decoded GraphQlError := do
  let extensions ← m.decodeOr "extensions" none (Json.decodeOption Json.decodeMembers)
  let locations ← m.decodeOr "locations" [] (Json.decodeList Location.decode)
  let message ← m.decode? "message" Json.decodeString
  let path ← m.decodeOr "path" none (Json.decodeOption (Json.decodeList Json.decodeAny))
  let message ← requireField "message" message
  pure { message, locations, path, extensions }

def ofItems (items : List Json) : Decoded GraphQlError := do
  let message ← requireItem "GraphQlError" 4 items 0 Json.decodeString
  let locations ← decodeItemOr items 1 [] (Json.decodeList Location.decode)
  let path ← decodeItemOr items 2 none (Json.decodeOption (Json.decodeList Json.decodeAny))
  let extensions ← decodeItemOr items 3 none (Json.decodeOption Json.decodeMembers)
  pure { message, locations, path, extensions }

def decode : Json → Decoded GraphQlError := Json.decodeRecord "GraphQlError" 4 ofMembers ofItems

end GraphQlError

namespace ExecutionResult

def ofMembers (m : Members) : Decoded ExecutionResult := do
  let data ← m.decodeOr "data" none (Json.decodeOption Json.decodeAny)
  let errors ← m.decodeOr "errors" [] (Json.decodeList GraphQlError.decode)
  let extensions ← m.decodeOr "extensions" none (Json.decodeOption Json.decodeMembers)
  pure { data, errors, extensions }

def ofItems (items : List Json) : Decoded ExecutionResult := do
  let data ← decodeItemOr items 0 none (Json.decodeOption Json.decodeAny)
  let errors ← decodeItemOr items 1 [] (Json.decodeList GraphQlError.decode)
  let extensions ← decodeItemOr items 2 none (Json.decodeOption Json.decodeMembers)
  pure { data, errors, extensions }

def decode : Json → Decoded ExecutionResult :=
  Json.decodeRecord "ExecutionResult" 3 ofMembers ofItems

end ExecutionResult

namespace MessageType

/-- A type by its name, or by an object whose single key is the name and whose value is null. -/
def decode : Json → Decoded MessageType
  | .string name => ofKey name
  | .object [(name, value)] => do
    let type ← ofKey name
    match value with
    | .null => pure type
    | other => .error (.wrongType other "unit")
  | .object _ => .error .severalKeys
  | other => .error (.wrongType other "string or map")
where
  ofKey (name : String) : Decoded MessageType :=
    match ofName? name with
    | some type => .ok type
    | none => .error (.unknownVariant name (all.map MessageType.name))

end MessageType

namespace Message

def decodeId (type : MessageType) (envelope : Members) : Except DecodeError String :=
  match envelope.given? "id" with
  | none => .error (.missingId type)
  | some (.string id) => .ok id
  | some _ => .error (.invalidId type)

/-- The object of a connection message; null and absence are the same. -/
def decodeObject (type : MessageType) (envelope : Members) :
    Except DecodeError (Option Members) :=
  match envelope.given? "payload" with
  | none => .ok none
  | some (.object members) => .ok (some members)
  | some _ => .error (.invalidPayload type .notAnObject)

def decodePayload {α : Type} (type : MessageType) (value : Json → Decoded α)
    (envelope : Members) : Except DecodeError α :=
  match envelope.given? "payload" with
  | none => .error (.invalidPayload type .missing)
  | some payload => (value payload).mapError fun cause => .invalidPayload type (.data cause)

def ofEnvelope (type : MessageType) (envelope : Members) : Except DecodeError Message :=
  match type with
  | .connectionInit => (decodeObject type envelope).map .connectionInit
  | .connectionAck => (decodeObject type envelope).map .connectionAck
  | .ping => (decodeObject type envelope).map .ping
  | .pong => (decodeObject type envelope).map .pong
  | .subscribe => do
    let id ← decodeId type envelope
    let payload ← decodePayload type SubscribePayload.decode envelope
    pure (.subscribe id payload)
  | .next => do
    let id ← decodeId type envelope
    let payload ← decodePayload type ExecutionResult.decode envelope
    pure (.next id payload)
  | .error => do
    let id ← decodeId type envelope
    let payload ← decodePayload type (Json.decodeList GraphQlError.decode) envelope
    pure (.error id payload)
  | .complete => (decodeId type envelope).map .complete

def envelopeType (envelope : Members) : Except DecodeError MessageType :=
  match envelope.given? "type" with
  | none => .error .missingType
  | some (.string name) =>
    match MessageType.ofName? name with
    | some type => .ok type
    | none => .error (.unknownType name)
  | some other => .error (.unknownType other.render)

def decode (text : String) : Except DecodeError Message :=
  match Json.read? text with
  | none => .error (.malformed .syntaxError)
  | some (.object envelope) => do
    let type ← envelopeType envelope
    ofEnvelope type envelope
  | some _ => .error (.malformed .notAnObject)

def decodeBinary (bytes : ByteArray) : Except DecodeError Message :=
  match String.fromUTF8? bytes with
  | none => .error .notUtf8
  | some text => decode text

/-- The type of a message is the one its envelope names. -/
theorem type_ofEnvelope {type : MessageType} {envelope : Members} {m : Message}
    (h : ofEnvelope type envelope = .ok m) : m.type = type := by
  cases type <;>
    simp only [ofEnvelope, bind, Except.bind, pure, Except.pure, Except.map] at h <;>
    (repeat' split at h) <;> cases h <;> rfl

end Message

end SubscriptionGateway
