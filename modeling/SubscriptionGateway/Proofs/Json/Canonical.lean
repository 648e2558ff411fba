import SubscriptionGateway.Proofs.Json.Numerals

/-! Values in the form that reading gives them: every object sorted by key, each key once, and
numbers that are integers of 64 bits. -/
namespace SubscriptionGateway

namespace Members

instance (members : Members) : Decidable members.Sorted :=
  inferInstanceAs (Decidable (List.Pairwise (fun a b => a.1 < b.1) members))

theorem get?_foldl_insert (members : List (String × Json)) (start : Members) (key : String) :
    get? (members.foldl (fun sorted member => insert member.1 member.2 sorted) start) key =
      (members.reverse.lookup key).or (get? start key) := by
  induction members generalizing start with
  | nil => rfl
  | cons m rest ih =>
    obtain ⟨k, v⟩ := m
    rw [List.foldl_cons, ih, List.reverse_cons, List.lookup_append, Option.or_assoc]
    congr 1
    by_cases same : key = k
    · subst same
      simp [get?_insert_self]
    · have other : (key == k) = false := by simpa using same
      simp [get?_insert_of_ne same, List.lookup_cons, other]

theorem get?_ofList (members : List (String × Json)) (key : String) :
    get? (ofList members) key = members.reverse.lookup key :=
  (get?_foldl_insert members [] key).trans (Option.or_none)

theorem insert_above {key : String} {members : Members} (below : ∀ m ∈ members, m.1 < key)
    (value : Json) : insert key value members = members ++ [(key, value)] := by
  induction members with
  | nil => rfl
  | cons m rest ih =>
    obtain ⟨k, v⟩ := m
    have lower : k < key := below (k, v) List.mem_cons_self
    have notAbove : ¬key < k := String.lt_asymm lower
    have other : key ≠ k := fun same => String.lt_irrefl k (same ▸ lower)
    have later := ih fun m member => below m (List.mem_cons_of_mem _ member)
    simp [insert, notAbove, other, later]

theorem ofList_of_sorted {members : Members} (sorted : Sorted members) :
    ofList members = members := by
  have step (members start : Members) (sorted : Sorted (start ++ members)) :
      members.foldl (fun sorted member => insert member.1 member.2 sorted) start =
        start ++ members := by
    induction members generalizing start with
    | nil => simp
    | cons m rest ih =>
      have below : ∀ n ∈ start, n.1 < m.1 := fun n member =>
        (List.pairwise_append.mp sorted).2.2 n member m List.mem_cons_self
      rw [List.foldl_cons, insert_above below, ih _ (by simpa using sorted)]
      simp
  exact step members [] sorted

theorem lookup_reverse_of_sorted {members : Members} (sorted : Sorted members) (key : String) :
    members.reverse.lookup key = get? members key := by
  rw [← get?_ofList, ofList_of_sorted sorted]

theorem mem_foldl_insert {members : List (String × Json)} {start : Members} {m : String × Json}
    (h : m ∈ members.foldl (fun sorted member => insert member.1 member.2 sorted) start) :
    m ∈ start ∨ m ∈ members := by
  induction members generalizing start with
  | nil => exact .inl h
  | cons first rest ih =>
    rcases ih h with early | later
    · rcases mem_insert early with rfl | early
      · exact .inr List.mem_cons_self
      · exact .inl early
    · exact .inr (List.mem_cons_of_mem _ later)

theorem mem_ofList {members : List (String × Json)} {m : String × Json}
    (h : m ∈ ofList members) : m ∈ members := by
  simpa using mem_foldl_insert h

theorem mem_of_get? {members : Members} {key : String} {value : Json}
    (h : get? members key = some value) : (key, value) ∈ members := by
  obtain ⟨before, after, rfl, -⟩ := List.lookup_eq_some_iff.mp h
  simp

theorem get?_of_mem {members : Members} (sorted : members.Sorted) {m : String × Json}
    (member : m ∈ members) : get? members m.1 = some m.2 := by
  induction members with
  | nil => cases member
  | cons first rest ih =>
    obtain ⟨below, tail⟩ := List.pairwise_cons.mp sorted
    rcases List.mem_cons.mp member with rfl | later
    · exact List.lookup_cons_self
    · have apart : (m.1 == first.1) = false := by
        simpa using (String.ne_of_lt (below m later)).symm
      rw [get?, List.lookup_cons, apart]
      exact ih tail later

end Members

namespace Json

mutual

/-- How many arrays and objects are open at once where the value is written out. -/
def depth : Json → Nat
  | .array items => itemsDepth items + 1
  | .object members => membersDepth members + 1
  | _ => 0

def itemsDepth : List Json → Nat
  | [] => 0
  | item :: rest => max (depth item) (itemsDepth rest)

def membersDepth : List (String × Json) → Nat
  | [] => 0
  | (_, value) :: rest => max (depth value) (membersDepth rest)

end

mutual

def sorted : Json → Json
  | .array items => .array (sortedItems items)
  | .object members => .object (Members.ofList (sortedMembers members))
  | other => other

def sortedItems : List Json → List Json
  | [] => []
  | item :: rest => sorted item :: sortedItems rest

def sortedMembers : List (String × Json) → List (String × Json)
  | [] => []
  | (key, value) :: rest => (key, sorted value) :: sortedMembers rest

end

/-- All numbers of the value are integers of 64 bits. -/
inductive Integral : Json → Prop where
  | null : Integral .null
  | bool (value : Bool) : Integral (.bool value)
  | integer {n : Int} (word : IsWord n) : Integral (.integer n)
  | string (text : String) : Integral (.string text)
  | array {items : List Json} (all : ∀ item ∈ items, Integral item) : Integral (.array items)
  | object {members : Members} (all : ∀ m ∈ members, Integral m.2) : Integral (.object members)

/-- All objects of the value are sorted by key. -/
inductive Ordered : Json → Prop where
  | null : Ordered .null
  | bool (value : Bool) : Ordered (.bool value)
  | integer (n : Int) : Ordered (.integer n)
  | real (x : Binary64) : Ordered (.real x)
  | string (text : String) : Ordered (.string text)
  | array {items : List Json} (all : ∀ item ∈ items, Ordered item) : Ordered (.array items)
  | object {members : Members} (keys : Members.Sorted members) (all : ∀ m ∈ members, Ordered m.2) :
    Ordered (.object members)

structure Canonical (value : Json) : Prop where
  integral : value.Integral
  ordered : value.Ordered

section Parts

variable {items : List Json} {members : Members} {n : Nat}

theorem itemsDepth_le : itemsDepth items ≤ n ↔ ∀ item ∈ items, item.depth ≤ n := by
  induction items with
  | nil => simp [itemsDepth]
  | cons item rest ih => simp only [itemsDepth, Nat.max_le, ih, List.forall_mem_cons]

theorem membersDepth_le : membersDepth members ≤ n ↔ ∀ m ∈ members, m.2.depth ≤ n := by
  induction members with
  | nil => simp [membersDepth]
  | cons m rest ih =>
    obtain ⟨key, value⟩ := m
    simp only [membersDepth, Nat.max_le, ih, List.forall_mem_cons]

theorem depth_array_le : (array items).depth ≤ n + 1 ↔ ∀ item ∈ items, item.depth ≤ n := by
  rw [depth, Nat.add_le_add_iff_right, itemsDepth_le]

theorem depth_object_le : (object members).depth ≤ n + 1 ↔ ∀ m ∈ members, m.2.depth ≤ n := by
  rw [depth, Nat.add_le_add_iff_right, membersDepth_le]

theorem depth_object_le_of_lt (positive : 0 < n) (inner : ∀ m ∈ members, m.2.depth < n) :
    (object members).depth ≤ n := by
  obtain ⟨k, rfl⟩ := Nat.exists_eq_add_one.mpr positive
  exact depth_object_le.mpr fun m member => Nat.lt_succ_iff.mp (inner m member)

theorem exists_of_depth_array_le (h : (array items).depth ≤ n) :
    ∃ inner, n = inner + 1 ∧ ∀ item ∈ items, item.depth ≤ inner := by
  have positive : n - 1 + 1 = n := by rw [depth] at h; omega
  exact ⟨n - 1, positive.symm, depth_array_le.mp (by rwa [positive])⟩

theorem exists_of_depth_object_le (h : (object members).depth ≤ n) :
    ∃ inner, n = inner + 1 ∧ ∀ m ∈ members, m.2.depth ≤ inner := by
  have positive : n - 1 + 1 = n := by rw [depth] at h; omega
  exact ⟨n - 1, positive.symm, depth_object_le.mp (by rwa [positive])⟩

theorem sortedItems_eq : sortedItems items = items.map sorted := by
  induction items with
  | nil => rfl
  | cons item rest ih => rw [sortedItems, ih, List.map_cons]

theorem sortedMembers_eq :
    sortedMembers members = members.map fun m => (m.1, m.2.sorted) := by
  induction members with
  | nil => rfl
  | cons m rest ih =>
    obtain ⟨key, value⟩ := m
    rw [sortedMembers, ih, List.map_cons]

@[simp] theorem sorted_string (text : String) : (string text).sorted = .string text :=
  rfl

@[simp] theorem sorted_array : (array items).sorted = .array (items.map sorted) := by
  rw [sorted, sortedItems_eq]

@[simp] theorem sorted_object : (object members).sorted =
    .object (Members.ofList (members.map fun m => (m.1, m.2.sorted))) := by
  rw [sorted, sortedMembers_eq]

@[simp] theorem canonical_null : null.Canonical :=
  ⟨.null, .null⟩

@[simp] theorem canonical_bool (value : Bool) : (bool value).Canonical :=
  ⟨.bool value, .bool value⟩

@[simp] theorem canonical_string (text : String) : (string text).Canonical :=
  ⟨.string text, .string text⟩

@[simp] theorem canonical_integer {n : Int} : (integer n).Canonical ↔ IsWord n := by
  constructor
  · rintro ⟨integral, -⟩
    cases integral with | integer word => exact word
  · exact fun word => ⟨.integer word, .integer n⟩

@[simp] theorem canonical_array : (array items).Canonical ↔ ∀ item ∈ items, item.Canonical := by
  constructor
  · rintro ⟨integral, ordered⟩ item member
    cases integral with | array all =>
    cases ordered with | array each =>
    exact ⟨all item member, each item member⟩
  · intro all
    exact ⟨.array fun item member => (all item member).integral,
      .array fun item member => (all item member).ordered⟩

@[simp] theorem canonical_object : (object members).Canonical ↔
    Members.Sorted members ∧ ∀ m ∈ members, m.2.Canonical := by
  constructor
  · rintro ⟨integral, ordered⟩
    cases integral with | object all =>
    cases ordered with | object keys each =>
    exact ⟨keys, fun m member => ⟨all m member, each m member⟩⟩
  · rintro ⟨keys, all⟩
    exact ⟨.object fun m member => (all m member).integral,
      .object keys fun m member => (all m member).ordered⟩

end Parts

theorem sorted_of_ordered {value : Json} (h : value.Ordered) : value.sorted = value := by
  induction h with
  | @array items all ih =>
    have same : items.map sorted = items := List.map_congr_left ih |>.trans (List.map_id _)
    rw [sorted_array, same]
  | @object members keys all ih =>
    have same : members.map (fun m => (m.1, m.2.sorted)) = members :=
      (List.map_congr_left fun m member => by rw [ih m member]; rfl).trans (List.map_id _)
    rw [sorted_object, same, Members.ofList_of_sorted keys]
  | _ => rfl

end Json

end SubscriptionGateway
