import Mathlib.Data.Option.Basic
import SubscriptionGateway.Proofs.Wire.Shapes
import SubscriptionGateway.Wire.Encoding

/-! The records of the messages, and that what is written for one has its shape. -/
namespace SubscriptionGateway

section Members

variable {name key : String} {value : Option Json}

@[simp] theorem lookup_optionalMember (name key : String) (value : Option Json) :
    (optionalMember name value).lookup key = if key = name then value else none := by
  cases value with
  | none => simp [optionalMember]
  | some value =>
    by_cases same : key = name
    · simp [optionalMember, same]
    · have other : (key == name) = false := by simpa using same
      simp [optionalMember, List.lookup_cons, other, same]

@[simp] theorem reverse_optionalMember (name : String) (value : Option Json) :
    (optionalMember name value).reverse = optionalMember name value := by
  cases value <;> rfl

@[simp] theorem map_optionalMember (name : String) (value : Option Json) :
    (optionalMember name value).map (fun m => (m.1, m.2.sorted)) =
      optionalMember name (value.map Json.sorted) := by
  cases value <;> rfl

theorem forall_optionalMember {P : Json → Prop} :
    (∀ m ∈ optionalMember name value, P m.2) ↔ ∀ v ∈ value, P v := by
  cases value <;> simp [optionalMember]

@[simp] theorem map_sorted_nonEmpty (items : List Json) :
    (nonEmpty items).map Json.sorted = nonEmpty (items.map Json.sorted) := by
  cases items <;> simp [nonEmpty]

theorem eq_of_mem_nonEmpty {items : List Json} : ∀ v ∈ nonEmpty items, v = .array items := by
  unfold nonEmpty
  split
  · simp
  · simp

end Members

namespace Json

variable {α : Type} {field : Option Json}

theorem holds_map {write : α → Json} {x : Option α} (found : field = x.map write)
    (given : ∀ a ∈ x, write a ≠ .null) : Holds write field x := by
  subst found
  cases x with
  | none => exact .inl rfl
  | some a => exact ⟨rfl, given a rfl⟩

theorem isListOf_map {Shape : Json → α → Prop} {write : α → Json} {xs : List α}
    (each : ∀ x ∈ xs, Shape (write x) x) : IsListOf Shape (.array (xs.map write)) xs :=
  ⟨_, rfl, List.forall₂_map_left_iff.mpr (List.forall₂_same.mpr each)⟩

theorem holdsList_nonEmpty {Shape : Json → α → Prop} {write : α → Json} {xs : List α}
    (found : field = nonEmpty (xs.map write)) (each : ∀ x ∈ xs, Shape (write x) x) :
    HoldsList Shape field xs := by
  subst found
  cases xs with
  | nil => exact .inl ⟨rfl, rfl⟩
  | cons x xs => exact .inr ⟨_, rfl, isListOf_map each⟩

theorem map_sorted_of_canonical {toJson : α → Json} {x : Option α}
    (canonical : ∀ a ∈ x, (toJson a).Canonical) :
    (x.map toJson).map sorted = x.map toJson := by
  cases x with
  | none => rfl
  | some a => exact congrArg some (sorted_of_ordered (canonical a rfl).ordered)

end Json

namespace Location

structure Canonical (l : Location) : Prop where
  line : l.line < UInt32.size
  column : l.column < UInt32.size

theorem integral_toJson {l : Location} (h : l.Canonical) : l.toJson.Integral := by
  obtain ⟨line, column⟩ := h
  refine .object (List.forall_mem_cons.mpr ⟨?_, List.forall_mem_singleton.mpr ?_⟩)
  · exact .integer ⟨by omega, by simp only [UInt64.size, UInt32.size] at *; omega⟩
  · exact .integer ⟨by omega, by simp only [UInt64.size, UInt32.size] at *; omega⟩

theorem isRead_toJson {l : Location} (h : l.Canonical) : IsRead l.toJson.sorted l := by
  let members := Members.ofList [("line", .integer l.line), ("column", .integer l.column)]
  have form : l.toJson.sorted = .object members := by simp [toJson, Json.sorted, members]
  have isLine : members.get? "line" = some (.integer l.line) := by
    simp [members, Members.get?_ofList, List.lookup_cons]
  have isColumn : members.get? "column" = some (.integer l.column) := by
    simp [members, Members.get?_ofList]
  rw [form]
  exact ⟨trivial, ⟨isLine, h.line⟩, ⟨isColumn, h.column⟩⟩

end Location

namespace GraphQlError

structure Canonical (e : GraphQlError) : Prop where
  locations : ∀ l ∈ e.locations, l.Canonical
  path : ∀ items ∈ e.path, (Json.array items).Canonical
  extensions : ∀ members ∈ e.extensions, (Json.object members).Canonical

theorem integral_toJson {e : GraphQlError} (h : e.Canonical) : e.toJson.Integral := by
  refine .object ?_
  simp only [List.forall_mem_append, List.forall_mem_cons, forall_optionalMember, and_assoc]
  refine ⟨.string _, ?_, ?_, ?_⟩
  · rintro v found
    rw [eq_of_mem_nonEmpty v found]
    exact .array (List.forall_mem_map.mpr fun l member =>
      Location.integral_toJson (h.locations l member))
  · exact Option.forall_mem_map.mpr fun items found => (h.path items found).integral
  · exact Option.forall_mem_map.mpr fun members found => (h.extensions members found).integral

theorem isRead_toJson {e : GraphQlError} (h : e.Canonical) : IsRead e.toJson.sorted e := by
  let members := Members.ofList (("message", .string e.message)
    :: optionalMember "locations" (nonEmpty (e.locations.map fun l => l.toJson.sorted))
    ++ optionalMember "path" (e.path.map Json.array)
    ++ optionalMember "extensions" (e.extensions.map Json.object))
  have form : e.toJson.sorted = .object members := by
    simp [toJson, members, Json.sorted, Json.map_sorted_of_canonical h.path,
      Json.map_sorted_of_canonical h.extensions, Function.comp_def]
  have isMessage : members.get? "message" = some (.string e.message) := by
    simp [members, Members.get?_ofList, List.lookup_append]
  have isLocations : members.get? "locations" =
      nonEmpty (e.locations.map fun l => l.toJson.sorted) := by
    simp [members, Members.get?_ofList, List.lookup_append, List.lookup_cons]
  have isPath : members.get? "path" = e.path.map Json.array := by
    simp [members, Members.get?_ofList, List.lookup_append, List.lookup_cons]
  have isExtensions : members.get? "extensions" = e.extensions.map Json.object := by
    simp [members, Members.get?_ofList, List.lookup_append, List.lookup_cons]
  have locations := Json.holdsList_nonEmpty isLocations fun l member =>
    Location.isRead_toJson (h.locations l member)
  rw [form]
  exact ⟨trivial, isMessage, locations, Json.holds_map isPath (by simp),
    Json.holds_map isExtensions (by simp)⟩

end GraphQlError

namespace ExecutionResult

structure Canonical (r : ExecutionResult) : Prop where
  data : ∀ value ∈ r.data, value.Canonical
  errors : ∀ e ∈ r.errors, e.Canonical
  extensions : ∀ members ∈ r.extensions, (Json.object members).Canonical

/-- The result without data that is null, which reading takes for absent. -/
def withoutNull (r : ExecutionResult) : ExecutionResult :=
  { r with data := r.data.filter fun value => !value.isNull }

theorem integral_toJson {r : ExecutionResult} (h : r.Canonical) : r.toJson.Integral := by
  refine .object ?_
  simp only [List.forall_mem_append, forall_optionalMember, and_assoc]
  refine ⟨fun value found => (h.data value found).integral, ?_, ?_⟩
  · rintro v found
    rw [eq_of_mem_nonEmpty v found]
    exact .array (List.forall_mem_map.mpr fun e member =>
      GraphQlError.integral_toJson (h.errors e member))
  · exact Option.forall_mem_map.mpr fun members found => (h.extensions members found).integral

theorem isRead_toJson {r : ExecutionResult} (h : r.Canonical) :
    IsRead r.toJson.sorted r.withoutNull := by
  let members := Members.ofList (optionalMember "data" r.data
    ++ optionalMember "errors" (nonEmpty (r.errors.map fun e => e.toJson.sorted))
    ++ optionalMember "extensions" (r.extensions.map Json.object))
  have same : r.data.map Json.sorted = r.data := by
    have whole : (r.data.map id).map Json.sorted = r.data.map id :=
      Json.map_sorted_of_canonical h.data
    rwa [Option.map_id, id] at whole
  have form : r.toJson.sorted = .object members := by
    simp [toJson, members, same, Json.map_sorted_of_canonical h.extensions, Function.comp_def]
  have isData : members.get? "data" = r.data := by
    simp [members, Members.get?_ofList, List.lookup_append]
  have isErrors : members.get? "errors" = nonEmpty (r.errors.map fun e => e.toJson.sorted) := by
    simp [members, Members.get?_ofList, List.lookup_append]
  have isExtensions : members.get? "extensions" = r.extensions.map Json.object := by
    simp [members, Members.get?_ofList, List.lookup_append]
  have data : Json.Holds id (members.get? "data") (r.data.filter fun value => !value.isNull) := by
    rw [isData]
    cases r.data with
    | none => exact .inl rfl
    | some value => cases value <;> first | exact .inr rfl | exact ⟨rfl, by simp⟩
  have errors := Json.holdsList_nonEmpty isErrors fun e member =>
    GraphQlError.isRead_toJson (h.errors e member)
  rw [form]
  exact ⟨trivial, data, errors, Json.holds_map isExtensions (by simp)⟩

end ExecutionResult

namespace SubscribePayload

structure Canonical (p : SubscribePayload) : Prop where
  variableValues : ∀ members ∈ p.variableValues, (Json.object members).Canonical
  extensions : ∀ members ∈ p.extensions, (Json.object members).Canonical

theorem integral_toJson {p : SubscribePayload} (h : p.Canonical) : p.toJson.Integral := by
  refine .object ?_
  simp only [List.forall_mem_append, List.forall_mem_cons, forall_optionalMember, and_assoc]
  refine ⟨.string _, ?_, ?_, ?_⟩
  · exact Option.forall_mem_map.mpr fun name _ => .string name
  · exact Option.forall_mem_map.mpr fun members found => (h.variableValues members found).integral
  · exact Option.forall_mem_map.mpr fun members found => (h.extensions members found).integral

theorem isRead_toJson {p : SubscribePayload} (h : p.Canonical) : IsRead p.toJson.sorted p := by
  let members := Members.ofList (("query", .string p.query)
    :: optionalMember "operationName" (p.operationName.map Json.string)
    ++ optionalMember "variables" (p.variableValues.map Json.object)
    ++ optionalMember "extensions" (p.extensions.map Json.object))
  have form : p.toJson.sorted = .object members := by
    simp [toJson, members, Json.sorted, Json.map_sorted_of_canonical h.variableValues,
      Json.map_sorted_of_canonical h.extensions, Function.comp_def]
  have isQuery : members.get? "query" = some (.string p.query) := by
    simp [members, Members.get?_ofList, List.lookup_append]
  have isName : members.get? "operationName" = p.operationName.map Json.string := by
    simp [members, Members.get?_ofList, List.lookup_append, List.lookup_cons]
  have isVariables : members.get? "variables" = p.variableValues.map Json.object := by
    simp [members, Members.get?_ofList, List.lookup_append, List.lookup_cons]
  have isExtensions : members.get? "extensions" = p.extensions.map Json.object := by
    simp [members, Members.get?_ofList, List.lookup_append, List.lookup_cons]
  rw [form]
  exact ⟨trivial, isQuery, Json.holds_map isName (by simp), Json.holds_map isVariables (by simp),
    Json.holds_map isExtensions (by simp)⟩

end SubscribePayload

end SubscriptionGateway
