import SubscriptionGateway.Json.Access
import SubscriptionGateway.Proofs.Json.Merge

/-! Nulls in a value that is laid over another one. A null member of an object changes nothing where
there is an object under it. Where there is none, the object is taken as it is, with its nulls. -/
namespace SubscriptionGateway

namespace Json

/-- What lies behind some keys, from one object to the next. -/
def at? (value : Json) : List String → Option Json
  | [] => some value
  | key :: path => (value.field? key).bind fun found => at? found path

def NullAt (value : Json) (path : List String) (key : String) : Prop :=
  value.at? (path ++ [key]) = some .null

def ObjectAt (value : Json) (path : List String) : Prop :=
  ∃ members, value.at? path = some (.object members)

/-- There is no null member of an object, unless the object lies inside an array. -/
def NullFree (value : Json) : Prop := ∀ path key, ¬ value.NullAt path key

def NullsOver (source target : Json) : Prop :=
  ∀ path key, source.NullAt path key → target.ObjectAt path

section Paths

variable {value : Json} {path : List String} {key name : String}

theorem nullAt_nil : value.NullAt [] key ↔ value.field? key = some .null := by
  show (value.field? key).bind some = some .null ↔ _
  simp

theorem nullAt_cons :
    value.NullAt (name :: path) key ↔
      ∃ found, value.field? name = some found ∧ found.NullAt path key :=
  Option.bind_eq_some_iff

theorem at?_cons {found : Json} (isField : value.field? name = some found) :
    value.at? (name :: path) = found.at? path := by
  rw [at?, isField, Option.bind_some]

theorem exists_members_of_field? {found : Json} (isField : value.field? key = some found) :
    ∃ members : Members, value = .object members ∧ members.get? key = some found := by
  cases value with
  | object members => exact ⟨members, rfl, isField⟩
  | _ => cases isField

theorem objectAt_nil : value.ObjectAt [] ↔ value.isObject = true := by
  cases value <;> simp [ObjectAt, at?, isObject]

theorem objectAt_cons :
    value.ObjectAt (name :: path) ↔
      ∃ found, value.field? name = some found ∧ found.ObjectAt path := by
  simp only [ObjectAt, at?, Option.bind_eq_some_iff]
  constructor
  · intro ⟨members, found, isField, isAt⟩
    exact ⟨found, isField, members, isAt⟩
  · intro ⟨found, isField, members, isAt⟩
    exact ⟨members, found, isField, isAt⟩

theorem given?_eq_some_iff {found : Json} :
    value.given? key = some found ↔ value.field? key = some found ∧ found ≠ .null := by
  cases value with
  | object members => exact Members.given?_eq_some
  | _ => simp [given?, field?]

theorem field?_of_not_object (scalar : value.isObject = false) : value.field? key = none := by
  cases value <;> first | rfl | cases scalar

theorem not_nullAt_of_not_object (scalar : value.isObject = false) : ¬ value.NullAt path key := by
  intro null
  cases path with
  | nil => simp [nullAt_nil, field?_of_not_object scalar] at null
  | cons name path => simp [nullAt_cons, field?_of_not_object scalar] at null

theorem NullAt.ne_null (null : value.NullAt path key) : value ≠ .null := by
  rintro rfl
  exact not_nullAt_of_not_object rfl null

theorem not_objectAt_of_not_object (scalar : value.isObject = false) : ¬ value.ObjectAt path := by
  intro isObject
  cases path with
  | nil => simp [objectAt_nil, scalar] at isObject
  | cons name path => simp [objectAt_cons, field?_of_not_object scalar] at isObject

theorem objectAt_of_nullAt (null : value.NullAt path key) : value.ObjectAt path := by
  induction path generalizing value with
  | nil =>
    obtain ⟨members, rfl, -⟩ := exists_members_of_field? (nullAt_nil.mp null)
    exact objectAt_nil.mpr rfl
  | cons name path ih =>
    obtain ⟨found, isField, inner⟩ := nullAt_cons.mp null
    exact objectAt_cons.mpr ⟨found, isField, ih inner⟩

theorem NullFree.of_field? (free : value.NullFree) {found : Json}
    (isField : value.field? key = some found) : found.NullFree :=
  fun path name null => free (key :: path) name (nullAt_cons.mpr ⟨found, isField, null⟩)

theorem NullsOver.of_field? {target : Json} (covered : value.NullsOver target) {found : Json}
    (isField : value.field? key = some found) {under : Json}
    (isUnder : target.field? key = some under) : found.NullsOver under := by
  intro path name null
  obtain ⟨other, isOther, isObject⟩ :=
    objectAt_cons.mp (covered (key :: path) name (nullAt_cons.mpr ⟨found, isField, null⟩))
  obtain rfl := Option.some.inj (isUnder.symm.trans isOther)
  exact isObject

/-- Where nothing lies under a member, it has no nulls. -/
theorem NullsOver.nullFree {target : Json} (covered : value.NullsOver target) {found : Json}
    (isField : value.field? key = some found) (bare : target.field? key = none) :
    found.NullFree := by
  intro path name null
  obtain ⟨under, isUnder, -⟩ :=
    objectAt_cons.mp (covered (key :: path) name (nullAt_cons.mpr ⟨found, isField, null⟩))
  simp [bare] at isUnder

theorem NullsOver.nullFree_of_not_object {target : Json} (covered : value.NullsOver target)
    (scalar : target.isObject = false) : value.NullFree :=
  fun path key null => not_objectAt_of_not_object scalar (covered path key null)

end Paths

section Prune

variable {members : Members} {value : Json}

theorem isNull_prune (value : Json) : value.prune.isNull = value.isNull := by
  cases value <;> rfl

theorem eq_null_of_isNull (null : value.isNull = true) : value = .null := by
  cases value <;> first | rfl | cases null

theorem mem_pruneMembers {m : String × Json} :
    m ∈ pruneMembers members ↔ ∃ n ∈ members, n.2.isNull = false ∧ m = (n.1, n.2.prune) := by
  induction members with
  | nil => simp [pruneMembers]
  | cons first rest ih =>
    obtain ⟨key, value⟩ := first
    rw [pruneMembers]
    split
    · next null => simp [ih, null]
    · next given => simp [ih, given]

theorem pruneMembers_eq_self
    (each : ∀ m ∈ members, m.2.isNull = false ∧ m.2.prune = m.2) :
    pruneMembers members = members := by
  induction members with
  | nil => rfl
  | cons first rest ih =>
    obtain ⟨key, value⟩ := first
    obtain ⟨⟨given, same⟩, others⟩ := List.forall_mem_cons.mp each
    simp only at given same
    rw [pruneMembers, if_neg (by simp [given]), same, ih others]

theorem sorted_pruneMembers (sorted : members.Sorted) : Members.Sorted (pruneMembers members) := by
  induction members with
  | nil => exact .nil
  | cons first rest ih =>
    obtain ⟨key, value⟩ := first
    obtain ⟨below, tail⟩ := List.pairwise_cons.mp sorted
    rw [pruneMembers]
    split
    · exact ih tail
    · refine List.pairwise_cons.mpr ⟨fun m member => ?_, ih tail⟩
      obtain ⟨n, isMember, -, rfl⟩ := mem_pruneMembers.mp member
      exact below n isMember

theorem Ordered.prune (ordered : value.Ordered) : value.prune.Ordered := by
  induction ordered with
  | @object members keys all ih =>
    rw [Json.prune]
    refine .object (sorted_pruneMembers keys) fun m member => ?_
    obtain ⟨n, isMember, -, rfl⟩ := mem_pruneMembers.mp member
    exact ih n isMember
  | null => exact .null
  | bool flag => exact .bool flag
  | integer n => exact .integer n
  | real x => exact .real x
  | string text => exact .string text
  | array all _ => exact .array all

theorem get?_pruneMembers (sorted : members.Sorted) (key : String) :
    Members.get? (pruneMembers members) key = (Members.given? members key).map prune := by
  induction members with
  | nil => rfl
  | cons first rest ih =>
    obtain ⟨name, value⟩ := first
    obtain ⟨below, tail⟩ := List.pairwise_cons.mp sorted
    by_cases same : key = name
    · subst same
      rw [Members.given?_cons_self, pruneMembers]
      split
      · rw [ih tail, Members.given?_of_get?_none (Members.get?_of_below below)]
      · simp [Members.get?]
    · have apart : (key == name) = false := by simpa using same
      rw [Members.given?_cons_of_ne same, pruneMembers, ← ih tail]
      split
      · rfl
      · simp [Members.get?, List.lookup_cons, apart]

theorem field?_prune (ordered : value.Ordered) (key : String) :
    value.prune.field? key = (value.given? key).map prune := by
  cases ordered with
  | object keys all =>
    rw [prune]
    exact get?_pruneMembers keys key
  | _ => rfl

theorem Ordered.of_field? (ordered : value.Ordered) {key : String} {found : Json}
    (isField : value.field? key = some found) : found.Ordered := by
  cases ordered with
  | object keys all => exact all _ (Members.mem_of_get? isField)
  | _ => cases isField

theorem nullFree_prune (ordered : value.Ordered) : value.prune.NullFree := by
  intro path
  induction path generalizing value with
  | nil =>
    intro key null
    rw [nullAt_nil, field?_prune ordered, Option.map_eq_some_iff] at null
    obtain ⟨found, given, null⟩ := null
    have isNull : found.isNull = true := by rw [← isNull_prune, null]; rfl
    exact (given?_eq_some_iff.mp given).2 (eq_null_of_isNull isNull)
  | cons name path ih =>
    intro key null
    obtain ⟨found, isField, null⟩ := nullAt_cons.mp null
    rw [field?_prune ordered, Option.map_eq_some_iff] at isField
    obtain ⟨inner, given, rfl⟩ := isField
    exact ih (ordered.of_field? (given?_eq_some given)) key null

theorem prune_eq_self (ordered : value.Ordered) (free : value.NullFree) :
    value.prune = value := by
  induction ordered with
  | @object members keys all ih =>
    rw [prune]
    have each : ∀ m ∈ members, m.2.isNull = false ∧ m.2.prune = m.2 := by
      intro m member
      have isField : (object members).field? m.1 = some m.2 := Members.get?_of_mem keys member
      refine ⟨?_, ih m member (free.of_field? isField)⟩
      by_contra null
      have isNull := eq_null_of_isNull (Bool.not_eq_false _ ▸ null)
      exact free [] m.1 (nullAt_nil.mpr (isField.trans (congrArg some isNull)))
    rw [pruneMembers_eq_self each]
  | _ => rfl

end Prune

section Merge

variable {target source : Json} {under members : Members} {path : List String} {key : String}

theorem merge_of_source_not_object (scalar : source.isObject = false) :
    merge target source = source := by
  cases source <;> first | rfl | cases scalar

theorem laidOver_ne_null {value : Json} (given : value ≠ .null) (found : Option Json) :
    value.laidOver found ≠ .null := by
  cases found with
  | none => exact given
  | some below =>
    cases value with
    | null => exact absurd rfl given
    | object members => cases below <;> simp [laidOver, merge]
    | _ => simp [laidOver, merge]

theorem field?_merge_of_given (under : Members) {value : Json} (sorted : members.Sorted)
    (isField : members.get? key = some value) (given : value ≠ .null) :
    (merge (.object under) (.object members)).field? key =
      some (value.laidOver (under.get? key)) := by
  rw [merge]
  show (mergeMembers under members).get? key = _
  rw [get?_mergeMembers sorted, Members.given?_eq_some.mpr ⟨isField, given⟩]

theorem field?_merge_of_lacking (sorted : members.Sorted) (lacks : Lacks (members.get? key)) :
    (merge (.object under) (.object members)).field? key = under.get? key := by
  rw [merge]
  show (mergeMembers under members).get? key = _
  rw [get?_mergeMembers sorted, Members.given?_eq_none.mpr lacks]

/-- Where the value above has no member, or a null one, everything is as it is below. -/
theorem at?_merge_of_lacking {rest : List String} (ordered : source.Ordered)
    (isTarget : target.ObjectAt path) (isSource : source.ObjectAt path)
    (lacks : Lacks (source.at? (path ++ [key]))) :
    (merge target source).at? (path ++ key :: rest) = target.at? (path ++ key :: rest) := by
  induction path generalizing target source with
  | nil =>
    obtain ⟨under, found⟩ := isTarget
    obtain rfl := Option.some.inj found
    obtain ⟨members, found⟩ := isSource
    obtain rfl := Option.some.inj found
    cases ordered with | object sorted _ =>
    have lacks : Lacks (Members.get? members key) := by simpa [at?, field?] using lacks
    show ((merge _ _).field? key).bind _ = ((object under).field? key).bind _
    rw [field?_merge_of_lacking sorted lacks]
    rfl
  | cons name path ih =>
    obtain ⟨below, isBelow, innerTarget⟩ := objectAt_cons.mp isTarget
    obtain ⟨found, isFound, innerSource⟩ := objectAt_cons.mp isSource
    obtain ⟨under, rfl, isUnder⟩ := exists_members_of_field? isBelow
    obtain ⟨members, rfl, isField⟩ := exists_members_of_field? isFound
    rw [List.cons_append, at?_cons isFound] at lacks
    have same := ih (ordered.of_field? isFound) innerTarget innerSource lacks
    have given : found ≠ .null := by
      rintro rfl
      exact not_objectAt_of_not_object rfl innerSource
    cases ordered with | object sorted _ =>
    have merged := field?_merge_of_given under sorted isField given
    rw [isUnder] at merged
    calc (merge (object under) (object members)).at? (name :: path ++ key :: rest)
        = (merge below found).at? (path ++ key :: rest) := at?_cons merged
      _ = below.at? (path ++ key :: rest) := same
      _ = (object under).at? (name :: path ++ key :: rest) := (at?_cons isBelow).symm

/-- A null with an object under it leaves what is there, or that nothing is there. -/
theorem at?_merge_of_nullAt (ordered : source.Ordered) (null : source.NullAt path key)
    (isObject : target.ObjectAt path) :
    (merge target source).at? (path ++ [key]) = target.at? (path ++ [key]) :=
  at?_merge_of_lacking ordered isObject (objectAt_of_nullAt null) (.inr null)

/-- A null with no object under it is taken with the object that it is in. -/
theorem nullAt_merge (ordered : source.Ordered) (null : source.NullAt path key)
    (bare : ¬ target.ObjectAt path) : (merge target source).NullAt path key := by
  induction path generalizing target source with
  | nil =>
    have scalar : target.isObject = false := by simpa [objectAt_nil] using bare
    rw [merge_of_not_object scalar]
    exact null
  | cons name path ih =>
    obtain ⟨found, isFound, inner⟩ := nullAt_cons.mp null
    obtain ⟨members, rfl, isField⟩ := exists_members_of_field? isFound
    cases target with
    | object under =>
      have innerOrdered := ordered.of_field? isFound
      cases ordered with | object sorted _ =>
      have merged := field?_merge_of_given under sorted isField inner.ne_null
      refine nullAt_cons.mpr ⟨_, merged, ?_⟩
      cases isUnder : Members.get? under name with
      | none => exact inner
      | some below =>
        apply ih innerOrdered inner
        intro isObject
        exact bare (objectAt_cons.mpr ⟨below, isUnder, isObject⟩)
    | _ => exact null

inductive MergedField (target source : Json) (key : String) (found : Json) : Prop where
  | kept (isUnder : target.field? key = some found)
  | alone (isField : source.field? key = some found) (scalar : target.isObject = false)
  | added (isField : source.field? key = some found) (given : found ≠ .null)
      (bare : target.field? key = none)
  | merged {below value : Json} (isUnder : target.field? key = some below)
      (isField : source.field? key = some value) (given : value ≠ .null)
      (isMerged : found = merge below value)

theorem mergedField {found : Json} (ordered : source.Ordered)
    (isField : (merge target source).field? key = some found) :
    MergedField target source key found := by
  cases isTarget : target.isObject with
  | false =>
    rw [merge_of_not_object isTarget] at isField
    exact .alone isField isTarget
  | true =>
    obtain ⟨under, rfl⟩ : ∃ under, target = .object under := by
      cases target <;> first | exact ⟨_, rfl⟩ | cases isTarget
    cases source with
    | object members =>
      cases ordered with | object sorted _ =>
      by_cases lacks : Lacks (Members.get? members key)
      · rw [field?_merge_of_lacking sorted lacks] at isField
        exact .kept isField
      · obtain ⟨value, isValue, given⟩ : ∃ value, Members.get? members key = some value ∧
            value ≠ .null := by
          simp only [Lacks, not_or] at lacks
          obtain ⟨value, isValue⟩ := Option.ne_none_iff_exists'.mp lacks.1
          exact ⟨value, isValue, fun null => lacks.2 (null ▸ isValue)⟩
        rw [field?_merge_of_given under sorted isValue given] at isField
        obtain rfl := Option.some.inj isField
        cases isUnder : Members.get? under key with
        | none => exact .added isValue given isUnder
        | some below => exact .merged isUnder isValue given rfl
    | _ =>
      rw [merge_of_source_not_object rfl] at isField
      cases isField

/-- A null of two values comes from the one below, or from the one above with no object under it. -/
theorem nullAt_of_merge (ordered : source.Ordered) (null : (merge target source).NullAt path key) :
    target.NullAt path key ∨ source.NullAt path key ∧ ¬ target.ObjectAt path := by
  induction path generalizing target source with
  | nil =>
    cases mergedField ordered (nullAt_nil.mp null) with
    | kept isUnder => exact .inl (nullAt_nil.mpr isUnder)
    | alone isField scalar =>
      exact .inr ⟨nullAt_nil.mpr isField, not_objectAt_of_not_object scalar⟩
    | added isField given bare => exact absurd rfl given
    | @merged below value isUnder isField given isMerged =>
      exact absurd isMerged.symm (laidOver_ne_null given (some below))
  | cons name path ih =>
    obtain ⟨found, isFound, inner⟩ := nullAt_cons.mp null
    cases mergedField ordered isFound with
    | kept isUnder => exact .inl (nullAt_cons.mpr ⟨found, isUnder, inner⟩)
    | alone isField scalar =>
      exact .inr ⟨nullAt_cons.mpr ⟨found, isField, inner⟩, not_objectAt_of_not_object scalar⟩
    | added isField given bare =>
      refine .inr ⟨nullAt_cons.mpr ⟨found, isField, inner⟩, fun isObject => ?_⟩
      obtain ⟨below, isBelow, -⟩ := objectAt_cons.mp isObject
      simp [bare] at isBelow
    | @merged below value isUnder isField given isMerged =>
      rw [isMerged] at inner
      rcases ih (ordered.of_field? isField) inner with fromBelow | ⟨fromValue, bare⟩
      · exact .inl (nullAt_cons.mpr ⟨below, isUnder, fromBelow⟩)
      · refine .inr ⟨nullAt_cons.mpr ⟨value, isField, fromValue⟩, fun isObject => ?_⟩
        obtain ⟨other, isOther, innerObject⟩ := objectAt_cons.mp isObject
        obtain rfl := Option.some.inj (isUnder.symm.trans isOther)
        exact bare innerObject

theorem mergeMembers_pruneMembers (sorted : members.Sorted)
    (same : ∀ m ∈ members, m.2.isNull = false →
      m.2.laidOver (Members.get? under m.1) = m.2.prune.laidOver (Members.get? under m.1)) :
    mergeMembers under members = mergeMembers under (pruneMembers members) := by
  induction members generalizing under with
  | nil => rfl
  | cons first rest ih =>
    obtain ⟨key, value⟩ := first
    obtain ⟨below, tail⟩ := List.pairwise_cons.mp sorted
    obtain ⟨atKey, others⟩ := List.forall_mem_cons.mp same
    rw [mergeMembers_cons, pruneMembers]
    split
    · exact ih tail others
    · next given =>
      have isGiven : value.isNull = false := by simpa using given
      rw [mergeMembers_cons, if_neg (by rwa [isNull_prune]), ← atKey isGiven]
      apply ih tail
      intro m member mGiven
      have apart : m.1 ≠ key := (String.ne_of_lt (below m member)).symm
      rw [Members.get?_insert_of_ne apart]
      exact others m member mGiven

/-- Nulls that all have objects under them do not matter. -/
theorem merge_prune (ordered : source.Ordered) (covered : source.NullsOver target) :
    merge target source = merge target source.prune := by
  induction ordered generalizing target with
  | @object members sorted all ih =>
    have ordered : (object members).Ordered := .object sorted all
    cases target with
    | object under =>
      rw [prune, merge, merge]
      congr 1
      apply mergeMembers_pruneMembers sorted
      intro m member given
      have isField : (object members).field? m.1 = some m.2 := Members.get?_of_mem sorted member
      cases isUnder : Members.get? under m.1 with
      | none =>
        have free : m.2.NullFree := covered.nullFree isField isUnder
        rw [prune_eq_self (all m member) free]
      | some below => exact ih m member (covered.of_field? isField isUnder)
    | _ =>
      rw [prune_eq_self ordered (covered.nullFree_of_not_object rfl)]
  | _ => rfl

/-- Which nulls of a value that is laid over another one are skipped: just those with an object
under them, by which nothing is replaced, created or removed; any other one ends up in the result.
So it makes no difference to leave the nulls out before, and nulls do not come in where there were
none, exactly if each of them has an object under it. -/
theorem nulls_are_skipped_iff (target : Json) (ordered : source.Ordered) :
    (merge target source = merge target source.prune ↔ source.NullsOver target) ∧
    (target.NullFree → ((merge target source).NullFree ↔ source.NullsOver target)) ∧
    ∀ path key, source.NullAt path key →
      (target.ObjectAt path →
        (merge target source).at? (path ++ [key]) = target.at? (path ++ [key])) ∧
      (¬ target.ObjectAt path → (merge target source).NullAt path key) := by
  refine ⟨⟨fun same path key null => ?_, merge_prune ordered⟩, fun free => ⟨?_, ?_⟩,
    fun path key null => ⟨at?_merge_of_nullAt ordered null, nullAt_merge ordered null⟩⟩
  · by_contra bare
    have merged := nullAt_merge ordered null bare
    rw [same] at merged
    rcases nullAt_of_merge ordered.prune merged with below | ⟨pruned, -⟩
    · exact bare (objectAt_of_nullAt below)
    · exact nullFree_prune ordered path key pruned
  · intro mergedFree path key null
    by_contra bare
    exact mergedFree path key (nullAt_merge ordered null bare)
  · intro covered path key merged
    rcases nullAt_of_merge ordered merged with below | ⟨null, bare⟩
    · exact free path key below
    · exact bare (covered path key null)

/-- Two nulls over an object, one of which has nothing to replace, and a null in a new member. -/
def holed : Json :=
  .object [("a", .object [("b", .null), ("c", .null)]), ("d", .object [("e", .null)])]

/-- The theorem at these three nulls. -/
theorem nulls_of_holed :
    let target := object [("a", .object [("b", .integer 1)])]
    holed.Ordered ∧
      (merge target holed).at? ["a", "b"] = some (.integer 1) ∧
      (merge target holed).at? ["a", "c"] = none ∧
      (merge target holed).NullAt ["d"] "e" ∧
      merge target holed ≠ merge target holed.prune := by
  intro target
  have ordered : holed.Ordered := by
    refine Canonical.ordered (canonical_object.mpr ⟨by decide, ?_⟩)
    simp only [List.forall_mem_cons, canonical_object, canonical_null, List.not_mem_nil,
      false_implies, implies_true, and_true]
    decide
  obtain ⟨skipped, -, each⟩ := nulls_are_skipped_iff target ordered
  have isObject : target.ObjectAt ["a"] := ⟨_, rfl⟩
  have bare : ¬ target.ObjectAt ["d"] := by
    have absent : target.at? ["d"] = none := rfl
    simp [ObjectAt, absent]
  have added : (merge target holed).NullAt ["d"] "e" := (each ["d"] "e" rfl).2 bare
  exact ⟨ordered, (each ["a"] "b" rfl).1 isObject, (each ["a"] "c" rfl).1 isObject, added,
    fun same => bare (skipped.mp same ["d"] "e" rfl)⟩

/-- An object that replaces a number keeps its null. -/
theorem null_of_new_object :
    let target := object [("a", .integer 1)]
    let source := object [("a", .object [("b", .null), ("c", .integer 2)])]
    merge target source = source ∧
      merge target source.prune = .object [("a", .object [("c", .integer 2)])] ∧
      merge target source ≠ merge target source.prune := by
  decide +kernel

end Merge

end Json

end SubscriptionGateway
