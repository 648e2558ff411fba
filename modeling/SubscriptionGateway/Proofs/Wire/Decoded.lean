import SubscriptionGateway.Proofs.Wire.Records

/-! What decoding yields. The fields of a record are parts of what was decoded, so they are
canonical if that is, and the record is written no deeper than it was found, whether it was an
object or an array of its fields. -/
namespace SubscriptionGateway

open Json (Part)

variable {value : Json}

theorem depth_optionalMember {name : String} {field : Option Json} {n : Nat} :
    (∀ m ∈ optionalMember name field, m.2.depth < n) ↔ ∀ v ∈ field, v.depth < n :=
  forall_optionalMember (P := fun v => v.depth < n)

namespace Json

variable {α : Type} {Shape : Json → α → Prop} {xs : List α} {name : String} {place : Nat}

theorem part_of_fieldAt? {part : Json} (h : value.fieldAt? name place = some part) :
    Part part value := by
  cases value with
  | object members => exact ⟨name, Members.mem_of_get? h⟩
  | array items => exact List.mem_of_getElem? h
  | _ => cases h

theorem IsRecord.depth_pos {fields : Nat} (h : value.IsRecord fields) : 0 < value.depth := by
  cases value with
  | array items | object members => rw [depth]; exact Nat.succ_pos _
  | _ => cases h

theorem Holds.part {write : α → Json} {x : Option α}
    (h : Holds write (value.fieldAt? name place) x) : ∀ a ∈ x, Part (write a) value := by
  rintro a rfl
  exact part_of_fieldAt? h.1

/-- The items of a list stand for parts of what the list was read from. -/
theorem IsListOf.source (h : IsListOf Shape value xs) :
    ∀ x ∈ xs, ∃ item, Part item value ∧ Shape item x := by
  obtain ⟨items, rfl, shapes⟩ := h
  intro x member
  obtain ⟨position, bound, rfl⟩ := List.mem_iff_getElem.mp member
  have same := shapes.length_eq
  exact ⟨items[position], List.getElem_mem _, shapes.get (by omega) bound⟩

/-- A list is written no deeper than it was found, if its items are not. -/
theorem IsListOf.depth_le {toJson : α → Json} (h : IsListOf Shape value xs)
    (each : ∀ item x, Shape item x → (toJson x).depth ≤ item.depth) :
    (array (xs.map toJson)).depth ≤ value.depth := by
  have source := h.source
  obtain ⟨items, rfl, -⟩ := h
  refine depth_array_le.mpr (List.forall_mem_map.mpr fun x member => ?_)
  obtain ⟨item, isItem, shape⟩ := source x member
  exact Nat.le_trans (each item x shape) (itemsDepth_le.mp (Nat.le_refl _) item isItem)

theorem HoldsList.depth_lt {toJson : α → Json}
    (h : HoldsList Shape (value.fieldAt? name place) xs)
    (each : ∀ item x, Shape item x → (toJson x).depth ≤ item.depth) :
    ∀ v ∈ nonEmpty (xs.map toJson), v.depth < value.depth := by
  intro v member
  rw [eq_of_mem_nonEmpty v member]
  rcases h with ⟨-, rfl⟩ | ⟨part, found, list⟩
  · simp [nonEmpty] at member
  · exact Nat.lt_of_le_of_lt (list.depth_le each) (part_of_fieldAt? found).depth_lt

theorem HoldsList.source (h : HoldsList Shape (value.fieldAt? name place) xs)
    (canonical : value.Canonical) : ∀ x ∈ xs, ∃ item, item.Canonical ∧ Shape item x := by
  rcases h with ⟨-, rfl⟩ | ⟨part, found, list⟩
  · simp
  · intro x member
    obtain ⟨item, isPart, shape⟩ := list.source x member
    exact ⟨item, isPart.canonical ((part_of_fieldAt? found).canonical canonical), shape⟩

end Json

namespace Location

theorem IsRead.canonical {l : Location} (h : IsRead value l) : l.Canonical :=
  ⟨h.2.line.2, h.2.column.2⟩

theorem IsRead.depth_le {l : Location} (h : IsRead value l) : l.toJson.depth ≤ value.depth := by
  have flat : l.toJson.depth = 1 := rfl
  rw [flat]
  exact h.1.depth_pos

end Location

namespace GraphQlError

theorem IsRead.canonical {e : GraphQlError} (h : IsRead value e) (canonical : value.Canonical) :
    e.Canonical := by
  obtain ⟨-, fits⟩ := h
  refine ⟨fun l member => ?_, fun items found => ?_, fun members found => ?_⟩
  · obtain ⟨item, -, read⟩ := fits.locations.source canonical l member
    exact read.canonical
  · exact (fits.path.part items found).canonical canonical
  · exact (fits.extensions.part members found).canonical canonical

theorem IsRead.depth_le {e : GraphQlError} (h : IsRead value e) : e.toJson.depth ≤ value.depth := by
  obtain ⟨record, fits⟩ := h
  refine Json.depth_object_le_of_lt record.depth_pos ?_
  simp only [List.forall_mem_append, List.forall_mem_cons, depth_optionalMember, and_assoc]
  refine ⟨record.depth_pos, ?_, ?_, ?_⟩
  · exact fits.locations.depth_lt fun _ _ => Location.IsRead.depth_le
  · exact Option.forall_mem_map.mpr fun items found => (fits.path.part items found).depth_lt
  · exact Option.forall_mem_map.mpr fun members found =>
      (fits.extensions.part members found).depth_lt

end GraphQlError

namespace ExecutionResult

theorem IsRead.canonical {r : ExecutionResult} (h : IsRead value r) (canonical : value.Canonical) :
    r.Canonical := by
  obtain ⟨-, fits⟩ := h
  refine ⟨fun found isFound => ?_, fun e member => ?_, fun members found => ?_⟩
  · exact (fits.data.part found isFound).canonical canonical
  · obtain ⟨item, canonical, read⟩ := fits.errors.source canonical e member
    exact read.canonical canonical
  · exact (fits.extensions.part members found).canonical canonical

theorem IsRead.depth_le {r : ExecutionResult} (h : IsRead value r) :
    r.toJson.depth ≤ value.depth := by
  obtain ⟨record, fits⟩ := h
  refine Json.depth_object_le_of_lt record.depth_pos ?_
  simp only [List.forall_mem_append, depth_optionalMember, and_assoc]
  refine ⟨fun found isFound => (fits.data.part found isFound).depth_lt, ?_, ?_⟩
  · exact fits.errors.depth_lt fun _ _ => GraphQlError.IsRead.depth_le
  · exact Option.forall_mem_map.mpr fun members found =>
      (fits.extensions.part members found).depth_lt

/-- Data that is null is never what was decoded. -/
theorem IsRead.withoutNull_eq {r : ExecutionResult} (h : IsRead value r) : r.withoutNull = r := by
  have data := h.2.data
  have same : r.data.filter (fun value => !value.isNull) = r.data := by
    cases found : r.data with
    | none => rfl
    | some v =>
      rw [found] at data
      have notNull : v ≠ .null := data.2
      cases v <;> first | rfl | exact absurd rfl notNull
  rw [withoutNull, same]

end ExecutionResult

namespace SubscribePayload

theorem IsRead.canonical {p : SubscribePayload} (h : IsRead value p) (canonical : value.Canonical) :
    p.Canonical := by
  obtain ⟨-, fits⟩ := h
  refine ⟨fun members found => ?_, fun members found => ?_⟩
  · exact (fits.variableValues.part members found).canonical canonical
  · exact (fits.extensions.part members found).canonical canonical

theorem IsRead.depth_le {p : SubscribePayload} (h : IsRead value p) :
    p.toJson.depth ≤ value.depth := by
  obtain ⟨record, fits⟩ := h
  refine Json.depth_object_le_of_lt record.depth_pos ?_
  simp only [List.forall_mem_append, List.forall_mem_cons, depth_optionalMember, and_assoc]
  refine ⟨record.depth_pos, Option.forall_mem_map.mpr fun _ _ => record.depth_pos, ?_, ?_⟩
  · exact Option.forall_mem_map.mpr fun members found =>
      (fits.variableValues.part members found).depth_lt
  · exact Option.forall_mem_map.mpr fun members found =>
      (fits.extensions.part members found).depth_lt

end SubscribePayload

end SubscriptionGateway
