import SubscriptionGateway.Json.Merge
import SubscriptionGateway.Proofs.Json.Decoding

/-! What is read under a key of two objects that have been laid over one another. -/
namespace SubscriptionGateway

namespace Members

theorem get?_of_below {key : String} {members : Members} (below : ∀ m ∈ members, key < m.1) :
    get? members key = none := by
  refine Option.eq_none_iff_forall_ne_some.mpr fun value found => ?_
  exact String.lt_irrefl key (below _ (mem_of_get? found))

theorem given?_of_get?_none {key : String} {members : Members} (absent : get? members key = none) :
    given? members key = none := by
  simp [given?, absent]

theorem given?_cons_self (key : String) (value : Json) (rest : Members) :
    given? ((key, value) :: rest) key = if value.isNull then none else some value := by
  cases value <;> simp [given?, get?, Json.isNull]

theorem given?_cons_of_ne {key other : String} {value : Json} {rest : Members}
    (ne : key ≠ other) : given? ((other, value) :: rest) key = given? rest key := by
  have apart : (key == other) = false := by simpa using ne
  simp [given?, get?, List.lookup_cons, apart]

end Members

namespace Json

def laidOver (value : Json) : Option Json → Json
  | some under => merge under value
  | none => value

theorem mergeMembers_cons (target : Members) (key : String) (value : Json) (rest : Members) :
    mergeMembers target ((key, value) :: rest) =
      if value.isNull then mergeMembers target rest
      else mergeMembers
        (Members.insert key (value.laidOver (Members.get? target key)) target) rest := by
  rw [mergeMembers]
  cases Members.get? target key <;> rfl

theorem get?_mergeMembers {source : Members} (sorted : source.Sorted) (target : Members)
    (key : String) :
    Members.get? (mergeMembers target source) key =
      match Members.given? source key with
      | none => Members.get? target key
      | some value => some (value.laidOver (Members.get? target key)) := by
  induction source generalizing target with
  | nil => rfl
  | cons m rest ih =>
    obtain ⟨k, value⟩ := m
    obtain ⟨below, tail⟩ := List.pairwise_cons.mp sorted
    have absent := Members.given?_of_get?_none (Members.get?_of_below below)
    rw [mergeMembers_cons]
    split
    · next null =>
      rw [ih tail]
      by_cases same : key = k
      · subst same
        rw [Members.given?_cons_self, if_pos null, absent]
      · rw [Members.given?_cons_of_ne same]
    · next given =>
      rw [ih tail]
      by_cases same : key = k
      · subst same
        rw [Members.given?_cons_self, if_neg given, absent]
        exact Members.get?_insert_self ..
      · rw [Members.given?_cons_of_ne same, Members.get?_insert_of_ne same]

theorem get?_mergeMembers_of_plain {source : Members} (sorted : source.Sorted) {target : Members}
    {key : String} {plain : Json} (found : Members.get? target key = some plain)
    (scalar : plain.isObject = false) :
    Members.get? (mergeMembers target source) key =
      some ((Members.given? source key).getD plain) := by
  rw [get?_mergeMembers sorted, found]
  cases Members.given? source key with
  | none => rfl
  | some value => exact congrArg some (merge_of_not_object scalar)

end Json

end SubscriptionGateway
