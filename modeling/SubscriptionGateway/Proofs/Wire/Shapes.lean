import SubscriptionGateway.Proofs.Json.Decoding
import SubscriptionGateway.Wire.Decoding

/-! The shapes of the payloads. Each says which value of which field a record of the protocol stands
for; it is what the decoder accepts, and what it makes of it. -/
namespace SubscriptionGateway

open Json

namespace SubscribePayload

/-- What stands in the fields of a request: its query, which must be there, and three options. -/
structure Fits (field : String → Nat → Option Json) (p : SubscribePayload) : Prop where
  query : field "query" 0 = some (.string p.query)
  operationName : Holds Json.string (field "operationName" 1) p.operationName
  variableValues : Holds Json.object (field "variables" 2) p.variableValues
  extensions : Holds Json.object (field "extensions" 3) p.extensions

def IsRead (value : Json) (p : SubscribePayload) : Prop := value.IsRecord 4 ∧ Fits value.fieldAt? p

theorem ofMembers_eq_ok {members : Members} {p : SubscribePayload} :
    ofMembers members = .ok p ↔ Fits (fun key _ => members.get? key) p := by
  simp only [ofMembers, bind_eq_ok, decodeOr_eq_ok, defaults_optional decodeMembers_eq_ok,
    defaults_optional decodeString_eq_ok, pure, Except.pure, Except.ok.injEq]
  constructor
  · rintro ⟨_, extensions, _, name, found, read, _, values, query, given, rfl⟩
    have isQuery := needs_string.mp (required_eq_ok.mp ⟨found, read, given⟩)
    exact ⟨isQuery, name, values, extensions⟩
  · rintro ⟨query, name, values, extensions⟩
    obtain ⟨found, read, given⟩ := required_eq_ok.mpr (needs_string.mpr query)
    exact ⟨_, extensions, _, name, found, read, _, values, _, given, rfl⟩

theorem ofItems_eq_ok {items : List Json} {p : SubscribePayload} :
    ofItems items = .ok p ↔ Fits (fun _ place => items[place]?) p := by
  simp only [ofItems, bind_eq_ok, decodeItemOr_eq_ok, requireItem_eq_ok, needs_string,
    defaults_optional decodeMembers_eq_ok, defaults_optional decodeString_eq_ok, pure, Except.pure,
    Except.ok.injEq]
  constructor
  · rintro ⟨_, query, _, name, _, values, _, extensions, rfl⟩
    exact ⟨query, name, values, extensions⟩
  · rintro ⟨query, name, values, extensions⟩
    exact ⟨_, query, _, name, _, values, _, extensions, rfl⟩

theorem decode_eq_ok {value : Json} {p : SubscribePayload} :
    decode value = .ok p ↔ IsRead value p :=
  decodeRecord_eq_ok ofMembers_eq_ok ofItems_eq_ok

theorem not_isRead_null (p : SubscribePayload) : ¬ IsRead .null p := And.left

end SubscribePayload

namespace Location

structure Fits (field : String → Nat → Option Json) (l : Location) : Prop where
  line : field "line" 0 = some (.integer l.line) ∧ l.line < UInt32.size
  column : field "column" 1 = some (.integer l.column) ∧ l.column < UInt32.size

def IsRead (value : Json) (l : Location) : Prop := value.IsRecord 2 ∧ Fits value.fieldAt? l

theorem ofMembers_eq_ok {members : Members} {l : Location} :
    ofMembers members = .ok l ↔ Fits (fun key _ => members.get? key) l := by
  simp only [ofMembers, bind_eq_ok, pure, Except.pure, Except.ok.injEq]
  constructor
  · rintro ⟨column, isColumn, line, isLine, _, lineGiven, _, columnGiven, rfl⟩
    have line := needs_unsigned.mp (required_eq_ok.mp ⟨line, isLine, lineGiven⟩)
    have column := needs_unsigned.mp (required_eq_ok.mp ⟨column, isColumn, columnGiven⟩)
    exact ⟨line, column⟩
  · rintro ⟨line, column⟩
    have needsLine : Needs (decodeUnsigned .u32) (members.get? "line") l.line :=
      needs_unsigned.mpr line
    have needsColumn : Needs (decodeUnsigned .u32) (members.get? "column") l.column :=
      needs_unsigned.mpr column
    obtain ⟨line, isLine, lineGiven⟩ := required_eq_ok.mpr needsLine
    obtain ⟨column, isColumn, columnGiven⟩ := required_eq_ok.mpr needsColumn
    exact ⟨column, isColumn, line, isLine, _, lineGiven, _, columnGiven, rfl⟩

theorem ofItems_eq_ok {items : List Json} {l : Location} :
    ofItems items = .ok l ↔ Fits (fun _ place => items[place]?) l := by
  simp only [ofItems, bind_eq_ok, requireItem_eq_ok, needs_unsigned, pure, Except.pure,
    Except.ok.injEq]
  constructor
  · rintro ⟨_, line, _, column, rfl⟩
    exact ⟨line, column⟩
  · rintro ⟨line, column⟩
    exact ⟨_, line, _, column, rfl⟩

theorem decode_eq_ok {value : Json} {l : Location} : decode value = .ok l ↔ IsRead value l :=
  decodeRecord_eq_ok ofMembers_eq_ok ofItems_eq_ok

end Location

namespace GraphQlError

/-- What stands in the fields of an error: its message, which must be there, a list of locations,
and two options. -/
structure Fits (field : String → Nat → Option Json) (e : GraphQlError) : Prop where
  message : field "message" 0 = some (.string e.message)
  locations : HoldsList Location.IsRead (field "locations" 1) e.locations
  path : Holds Json.array (field "path" 2) e.path
  extensions : Holds Json.object (field "extensions" 3) e.extensions

def IsRead (value : Json) (e : GraphQlError) : Prop := value.IsRecord 4 ∧ Fits value.fieldAt? e

theorem ofMembers_eq_ok {members : Members} {e : GraphQlError} :
    ofMembers members = .ok e ↔ Fits (fun key _ => members.get? key) e := by
  simp only [ofMembers, bind_eq_ok, decodeOr_eq_ok, defaults_optional decodeMembers_eq_ok,
    defaults_optional decodeItems_eq_ok, defaults_list Location.decode_eq_ok, pure, Except.pure,
    Except.ok.injEq]
  constructor
  · rintro ⟨_, extensions, _, locations, found, read, _, path, message, given, rfl⟩
    have isMessage := needs_string.mp (required_eq_ok.mp ⟨found, read, given⟩)
    exact ⟨isMessage, locations, path, extensions⟩
  · rintro ⟨message, locations, path, extensions⟩
    obtain ⟨found, read, given⟩ := required_eq_ok.mpr (needs_string.mpr message)
    exact ⟨_, extensions, _, locations, found, read, _, path, _, given, rfl⟩

theorem ofItems_eq_ok {items : List Json} {e : GraphQlError} :
    ofItems items = .ok e ↔ Fits (fun _ place => items[place]?) e := by
  simp only [ofItems, bind_eq_ok, decodeItemOr_eq_ok, requireItem_eq_ok, needs_string,
    defaults_optional decodeMembers_eq_ok, defaults_optional decodeItems_eq_ok,
    defaults_list Location.decode_eq_ok, pure, Except.pure, Except.ok.injEq]
  constructor
  · rintro ⟨_, message, _, locations, _, path, _, extensions, rfl⟩
    exact ⟨message, locations, path, extensions⟩
  · rintro ⟨message, locations, path, extensions⟩
    exact ⟨_, message, _, locations, _, path, _, extensions, rfl⟩

theorem decode_eq_ok {value : Json} {e : GraphQlError} : decode value = .ok e ↔ IsRead value e :=
  decodeRecord_eq_ok ofMembers_eq_ok ofItems_eq_ok

end GraphQlError

namespace ExecutionResult

/-- What stands in the fields of a result: data that is not null, a list of errors, and extensions,
none of which must be there. -/
structure Fits (field : String → Nat → Option Json) (r : ExecutionResult) : Prop where
  data : Holds id (field "data" 0) r.data
  errors : HoldsList GraphQlError.IsRead (field "errors" 1) r.errors
  extensions : Holds Json.object (field "extensions" 2) r.extensions

def IsRead (value : Json) (r : ExecutionResult) : Prop := value.IsRecord 3 ∧ Fits value.fieldAt? r

theorem ofMembers_eq_ok {members : Members} {r : ExecutionResult} :
    ofMembers members = .ok r ↔ Fits (fun key _ => members.get? key) r := by
  simp only [ofMembers, bind_eq_ok, decodeOr_eq_ok, defaults_optional decodeMembers_eq_ok,
    defaults_optional decodeAny_eq_ok, defaults_list GraphQlError.decode_eq_ok, pure, Except.pure,
    Except.ok.injEq]
  constructor
  · rintro ⟨_, data, _, errors, _, extensions, rfl⟩
    exact ⟨data, errors, extensions⟩
  · rintro ⟨data, errors, extensions⟩
    exact ⟨_, data, _, errors, _, extensions, rfl⟩

theorem ofItems_eq_ok {items : List Json} {r : ExecutionResult} :
    ofItems items = .ok r ↔ Fits (fun _ place => items[place]?) r := by
  simp only [ofItems, bind_eq_ok, decodeItemOr_eq_ok, defaults_optional decodeMembers_eq_ok,
    defaults_optional decodeAny_eq_ok, defaults_list GraphQlError.decode_eq_ok, pure, Except.pure,
    Except.ok.injEq]
  constructor
  · rintro ⟨_, data, _, errors, _, extensions, rfl⟩
    exact ⟨data, errors, extensions⟩
  · rintro ⟨data, errors, extensions⟩
    exact ⟨_, data, _, errors, _, extensions, rfl⟩

theorem decode_eq_ok {value : Json} {r : ExecutionResult} : decode value = .ok r ↔ IsRead value r :=
  decodeRecord_eq_ok ofMembers_eq_ok ofItems_eq_ok

theorem not_isRead_null (r : ExecutionResult) : ¬ IsRead .null r := And.left

end ExecutionResult

end SubscriptionGateway
