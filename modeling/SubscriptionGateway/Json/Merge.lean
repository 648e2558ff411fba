import SubscriptionGateway.Json.Value

/-! Laying one JSON value over another. Two objects are merged member by member; anything else is
replaced by what lies over it. A null member of an object that is laid over another is skipped. -/
namespace SubscriptionGateway

namespace Json

mutual

/-- The value `source` laid over the value `target`. -/
def merge (target : Json) : (source : Json) → Json
  | .object members =>
    match target with
    | .object under => .object (mergeMembers under members)
    | _ => .object members
  | source => source

def mergeMembers (target : Members) : (source : List (String × Json)) → Members
  | [] => target
  | (key, value) :: rest =>
    if value.isNull then mergeMembers target rest
    else
      let merged :=
        match Members.get? target key with
        | some under => merge under value
        | none => value
      mergeMembers (Members.insert key merged target) rest

end

mutual

/-- Without the null members of objects that lie inside objects only; arrays are left alone. -/
def prune : Json → Json
  | .object members => .object (pruneMembers members)
  | other => other

def pruneMembers : List (String × Json) → Members
  | [] => []
  | (key, value) :: rest =>
    if value.isNull then pruneMembers rest else (key, prune value) :: pruneMembers rest

end

theorem merge_of_not_object {target source : Json} (h : target.isObject = false) :
    merge target source = source := by
  cases source <;> simp only [merge]
  cases target <;> first | rfl | simp [isObject] at h

theorem sorted_mergeMembers {target : Members} (sorted : target.Sorted)
    (source : List (String × Json)) : (mergeMembers target source).Sorted := by
  induction source generalizing target with
  | nil => simpa [mergeMembers] using sorted
  | cons member rest ih =>
    obtain ⟨key, value⟩ := member
    rw [mergeMembers]
    split
    · exact ih sorted
    · exact ih (sorted.insert _ _)

end Json

end SubscriptionGateway
