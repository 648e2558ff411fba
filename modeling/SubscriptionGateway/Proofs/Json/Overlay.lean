import SubscriptionGateway.Proofs.Json.Nulls

/-! Laying a value over another one again and again. What has been laid over a value changes nothing
when it comes a second time, and what it does not mention it leaves alone, however deep that is. -/
namespace SubscriptionGateway

theorem Members.insert_of_get? {key : String} {value : Json} {members : Members}
    (sorted : members.Sorted) (found : members.get? key = some value) :
    insert key value members = members := by
  induction members with
  | nil => cases found
  | cons first rest ih =>
    obtain ⟨name, other⟩ := first
    obtain ⟨below, tail⟩ := List.pairwise_cons.mp sorted
    by_cases same : key = name
    · subst same
      obtain rfl : other = value := by simpa [get?] using found
      rw [insert, if_neg (String.lt_irrefl key), if_pos rfl]
    · have apart : (key == name) = false := by simpa using same
      have later : get? rest key = some value := by
        simpa [get?, List.lookup_cons, apart] using found
      have above : ¬ key < name := String.lt_asymm (below _ (mem_of_get? later))
      rw [insert, if_neg above, if_neg same, ih tail later]

namespace Json

variable {target source : Json} {under members : Members} {path : List String} {key : String}

/-- Members that leave what they lie over as it is leave the object as it is. -/
theorem mergeMembers_eq_self (sorted : under.Sorted)
    (held : ∀ m ∈ members, m.2 ≠ .null →
      ∃ found, under.get? m.1 = some found ∧ merge found m.2 = found) :
    mergeMembers under members = under := by
  induction members with
  | nil => rfl
  | cons first rest ih =>
    obtain ⟨key, value⟩ := first
    obtain ⟨atKey, others⟩ := List.forall_mem_cons.mp held
    rw [mergeMembers_cons]
    split
    · exact ih others
    · next given =>
      have notNull : value ≠ .null := by
        rintro rfl
        exact given rfl
      obtain ⟨found, isUnder, same⟩ := atKey notNull
      rw [isUnder, laidOver, same, Members.insert_of_get? sorted isUnder]
      exact ih others

/-- A value over itself. -/
theorem merge_self {value : Json} (ordered : value.Ordered) : merge value value = value := by
  induction ordered with
  | object sorted all ih =>
    rw [merge, mergeMembers_eq_self sorted]
    intro m member given
    exact ⟨m.2, Members.get?_of_mem sorted member, ih m member⟩
  | _ => rfl

/-- The same value a second time. -/
theorem merge_merge (below : target.Ordered) (above : source.Ordered) :
    merge (merge target source) source = merge target source := by
  induction above generalizing target with
  | @object members sorted all ih =>
    cases below with
    | @object under keys inner =>
      rw [merge, merge, mergeMembers_eq_self (sorted_mergeMembers keys members)]
      intro m member given
      have isField := Members.get?_of_mem sorted member
      refine ⟨_, field?_merge_of_given under sorted isField given, ?_⟩
      cases isUnder : Members.get? under m.1 with
      | none => exact merge_self (all m member)
      | some found => exact ih m member (inner _ (Members.mem_of_get? isUnder))
    | _ => exact merge_self (.object sorted all)
  | _ => rfl

/-- What is neither an object nor null replaces everything. -/
theorem at?_merge_of_scalar {value : Json} (ordered : source.Ordered)
    (isAt : source.at? path = some value) (scalar : value.isObject = false)
    (given : value ≠ .null) : (merge target source).at? path = some value := by
  induction path generalizing target source with
  | nil =>
    obtain rfl := Option.some.inj isAt
    rw [merge_of_source_not_object scalar]
    rfl
  | cons name path ih =>
    obtain ⟨found, isFound, inner⟩ := Option.bind_eq_some_iff.mp isAt
    obtain ⟨members, rfl, isField⟩ := exists_members_of_field? isFound
    cases target with
    | object under =>
      have taken : found ≠ .null := by
        rintro rfl
        cases path with
        | nil => exact given (Option.some.inj inner).symm
        | cons => cases inner
      have innerOrdered := ordered.of_field? isFound
      cases ordered with | object sorted _ =>
      rw [at?_cons (field?_merge_of_given under sorted isField taken)]
      cases Members.get? under name with
      | none => exact inner
      | some below => exact ih innerOrdered inner
    | _ => exact isAt

/-- A value over itself is that value, and over another one it makes no difference the second time.
Where the value above first has no member on a path of objects, or a null one, all that the value
below has there stays as it is, at any depth; and what the value above has on a path, if it is
neither an object nor null, is what is there in the end. -/
theorem merge_is_idempotent_and_local (below : target.Ordered) (above : source.Ordered) :
    merge target target = target ∧
    merge (merge target source) source = merge target source ∧
    (∀ before key rest, target.ObjectAt before → source.ObjectAt before →
      source.at? (before ++ [key]) = none ∨ source.at? (before ++ [key]) = some .null →
        (merge target source).at? (before ++ key :: rest) = target.at? (before ++ key :: rest)) ∧
    ∀ path value, source.at? path = some value → value.isObject = false → value ≠ .null →
      (merge target source).at? path = some value :=
  ⟨merge_self below, merge_merge below above,
    fun _ _ _ isTarget isSource lacks => at?_merge_of_lacking above isTarget isSource lacks,
    fun _ _ isAt scalar given => at?_merge_of_scalar above isAt scalar given⟩

/-- The theorem where nulls lie in both values: one that is skipped, one that comes in with the new
object that it is in, and two that are there before. -/
theorem merge_of_nulls :
    let target := object [("a", .object [("b", .integer 1), ("n", .null)]), ("c", .array [.null])]
    let source := object [("a", .object [("b", .null), ("d", .object [("e", .null)])]),
      ("c", .integer 2)]
    target.Ordered ∧ source.Ordered ∧ merge target target = target ∧
      merge (merge target source) source = merge target source ∧
      (merge target source).at? ["a", "b"] = some (.integer 1) ∧
      (merge target source).at? ["a", "n"] = some .null ∧
      (merge target source).at? ["c"] = some (.integer 2) := by
  intro target source
  obtain ⟨below, above⟩ : target.Canonical ∧ source.Canonical := by
    simp only [target, source, Members.Sorted, canonical_object, canonical_array, canonical_integer,
      canonical_null, List.forall_mem_cons, List.not_mem_nil, false_implies, implies_true, and_true]
    decide
  obtain ⟨self, again, kept, taken⟩ := merge_is_idempotent_and_local below.ordered above.ordered
  exact ⟨below.ordered, above.ordered, self, again, kept ["a"] "b" [] ⟨_, rfl⟩ ⟨_, rfl⟩ (.inr rfl),
    kept ["a"] "n" [] ⟨_, rfl⟩ ⟨_, rfl⟩ (.inl rfl), taken ["c"] _ rfl rfl (by simp)⟩

end Json

end SubscriptionGateway
