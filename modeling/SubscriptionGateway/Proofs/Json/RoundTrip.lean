import SubscriptionGateway.Proofs.Json.Canonical
import SubscriptionGateway.Proofs.Json.Grammar

/-! What is written reads back, with the members of its objects sorted; and what is read is sorted
and nests no deeper than the reader allows. -/
namespace SubscriptionGateway.Json

theorem Reads.skipBlank {depth : Nat} {cs rest : List Char} {reading : Reading}
    (h : Reads depth cs reading rest) : Reads depth (skipBlank cs) reading rest := by
  have same := skipBlank_skipBlank cs
  induction h with
  | string start quoted => exact .string (same.trans start) quoted
  | keyword known start => exact .keyword known (same.trans start)
  | number start => exact .number (by rwa [same])
  | emptyArray start stop => exact .emptyArray (same.trans start) stop
  | array start inside => exact .array (same.trans start) inside
  | emptyObject start stop => exact .emptyObject (same.trans start) stop
  | object start inside => exact .object (same.trans start) inside
  | lastItem first stop ih => exact .lastItem (ih same) stop
  | nextItem first comma later ih => exact .nextItem (ih same) comma later
  | lastMember start quoted named first stop =>
    exact .lastMember (same.trans start) quoted named first stop
  | nextMember start quoted named first comma later =>
    exact .nextMember (same.trans start) quoted named first comma later

section Written

variable {depth : Nat}

theorem reads_integer {n : Int} (word : IsWord n) {rest : List Char} (stop : Stops rest) :
    Reads depth (integerText n ++ rest) (.value (.integer n)) rest := by
  have read := number?_integerText word stop
  obtain ⟨c, tail, split, first, -⟩ := start_of_number? read
  have solid : isBlank c = false := by
    rcases first with digit | rfl
    · by_contra blank
      simp only [isBlank, Bool.not_eq_false, Bool.or_eq_true, beq_iff_eq] at blank
      rcases blank with ((rfl | rfl) | rfl) | rfl <;> simp at digit
    · rfl
  exact .number (by rwa [split, skipBlank_cons solid, ← split])

theorem reads_word (word : String) {found : Json} (known : (word, found) ∈ keywords)
    (rest : List Char) : Reads depth (word.toList ++ rest) (.value found) rest := by
  refine .keyword known ?_
  simp only [keywords, List.mem_cons, Prod.mk.injEq, List.not_mem_nil, or_false] at known
  rcases known with ⟨rfl, -⟩ | ⟨rfl, -⟩ | ⟨rfl, -⟩ <;> simp [Json.skipBlank, isBlank]

theorem reads_quote (text : String) (rest : List Char) :
    Reads depth (quote text ++ rest) (.value (.string text)) rest := by
  obtain ⟨body, split, quoted⟩ := quote_append text rest
  rw [split]
  have read : Reads depth ('"' :: body) (.value (.string (String.ofList text.toList))) rest :=
    .string (skipBlank_cons (by decide) _) quoted
  rwa [String.ofList_toList] at read

theorem reads_itemChars {items : List Json} (filled : items ≠ [])
    (each : ∀ item ∈ items, ∀ rest, Stops rest →
      Reads depth (chars item ++ rest) (.value item.sorted) rest) (rest : List Char) :
    Reads depth (itemChars items ++ ']' :: rest) (.items (items.map sorted)) rest := by
  induction items with
  | nil => exact absurd rfl filled
  | cons item more ih =>
    have first := each item List.mem_cons_self
    cases more with
    | nil => exact .lastItem (first _ (stops_cons (by decide) rest)) (skipBlank_cons (by decide) _)
    | cons next more =>
      have later := ih (by simp) fun item member => each item (List.mem_cons_of_mem _ member)
      have split : itemChars (item :: next :: more) ++ ']' :: rest =
          chars item ++ ',' :: (itemChars (next :: more) ++ ']' :: rest) := by
        simp [itemChars]
      rw [split]
      exact .nextItem (first _ (stops_cons (by decide) _)) (skipBlank_cons (by decide) _) later

theorem reads_memberChars {members : Members} (filled : members ≠ [])
    (each : ∀ m ∈ members, ∀ rest, Stops rest →
      Reads depth (chars m.2 ++ rest) (.value m.2.sorted) rest) (rest : List Char) :
    Reads depth (memberChars members ++ '\x7d' :: rest)
      (.members (members.map fun m => (m.1, m.2.sorted))) rest := by
  induction members with
  | nil => exact absurd rfl filled
  | cons member more ih =>
    obtain ⟨key, value⟩ := member
    have first := each (key, value) List.mem_cons_self
    cases more with
    | nil =>
      obtain ⟨body, split, quoted⟩ := quote_append key (':' :: (chars value ++ '\x7d' :: rest))
      have whole : memberChars [(key, value)] ++ '\x7d' :: rest = '"' :: body := by
        simpa [memberChars, pairChars] using split
      have named := skipBlank_cons (c := ':') (by decide) (chars value ++ '\x7d' :: rest)
      rw [whole]
      have read := Reads.lastMember (skipBlank_cons (by decide) body) quoted named
        (first _ (stops_cons (by decide) rest)) (skipBlank_cons (by decide) _)
      rwa [String.ofList_toList] at read
    | cons next more =>
      have later := ih (by simp) fun m member => each m (List.mem_cons_of_mem _ member)
      let tail := ',' :: (memberChars (next :: more) ++ '\x7d' :: rest)
      obtain ⟨body, split, quoted⟩ := quote_append key (':' :: (chars value ++ tail))
      have whole : memberChars ((key, value) :: next :: more) ++ '\x7d' :: rest = '"' :: body := by
        simpa [memberChars, pairChars, tail] using split
      have named := skipBlank_cons (c := ':') (by decide) (chars value ++ tail)
      rw [whole]
      have read := Reads.nextMember (skipBlank_cons (by decide) body) quoted named
        (first tail (stops_cons (by decide) _)) (skipBlank_cons (by decide) _) later
      rwa [String.ofList_toList] at read

/-- What is written for a value reads back, whatever follows that is no part of a number. -/
theorem reads_chars {value : Json} (integral : value.Integral) (shallow : value.depth ≤ depth)
    {rest : List Char} (stop : Stops rest) :
    Reads depth (chars value ++ rest) (.value value.sorted) rest := by
  induction integral generalizing depth rest with
  | null => exact reads_word "null" (by simp [keywords, sorted]) rest
  | bool value =>
    cases value with
    | true => exact reads_word "true" (by simp [keywords, sorted]) rest
    | false => exact reads_word "false" (by simp [keywords, sorted]) rest
  | integer word => exact reads_integer word stop
  | string text => exact reads_quote text rest
  | @array items all ih =>
    -- Each item has one level less to itself, and is followed by a comma or the bracket.
    obtain ⟨depth, rfl, inner⟩ := exists_of_depth_array_le shallow
    have start := skipBlank_cons (c := '[') (by decide) (itemChars items ++ ']' :: rest)
    have split : chars (.array items) ++ rest = '[' :: (itemChars items ++ ']' :: rest) := by
      simp [chars]
    rw [split, sorted_array]
    cases items with
    | nil => exact .emptyArray start (skipBlank_cons (by decide) _)
    | cons item more =>
      have inside := reads_itemChars (by simp)
        (fun item member _ stop => ih item member (inner item member) stop) rest
      exact .array start inside.skipBlank
  | @object members all ih =>
    obtain ⟨depth, rfl, inner⟩ := exists_of_depth_object_le shallow
    have start := skipBlank_cons (c := '\x7b') (by decide) (memberChars members ++ '\x7d' :: rest)
    have split : chars (.object members) ++ rest =
        '\x7b' :: (memberChars members ++ '\x7d' :: rest) := by
      simp [chars]
    rw [split, sorted_object]
    cases members with
    | nil => exact .emptyObject start (skipBlank_cons (by decide) _)
    | cons member more =>
      have inside := reads_memberChars (by simp)
        (fun m member _ stop => ih m member (inner m member) stop) rest
      exact .object start inside.skipBlank

theorem read?_render {value : Json} (integral : value.Integral) (shallow : value.depth ≤ maxDepth) :
    read? value.render = some value.sorted := by
  have read := reads_chars integral shallow stops_nil
  rw [List.append_nil] at read
  exact read?_eq_some.mpr ⟨[], by rwa [render, String.toList_ofList], rfl⟩

end Written

def Reading.All (P : Json → Prop) : Reading → Prop
  | .value found => P found
  | .items found => ∀ item ∈ found, P item
  | .members found => ∀ m ∈ found, P m.2

section Found

variable {depth : Nat} {cs rest : List Char} {reading : Reading}

/-- What is read is sorted throughout and nests no deeper than was allowed. -/
theorem Reads.all (h : Reads depth cs reading rest) :
    reading.All fun value => value.Ordered ∧ value.depth ≤ depth := by
  induction h with
  | string => exact ⟨.string _, Nat.zero_le _⟩
  | keyword known =>
    simp only [keywords, List.mem_cons, Prod.mk.injEq, List.not_mem_nil, or_false] at known
    rcases known with ⟨-, rfl⟩ | ⟨-, rfl⟩ | ⟨-, rfl⟩
    · exact ⟨.null, Nat.zero_le _⟩
    · exact ⟨.bool true, Nat.zero_le _⟩
    · exact ⟨.bool false, Nat.zero_le _⟩
  | number start =>
    rcases kind_of_number? start with ⟨n, rfl⟩ | ⟨x, rfl⟩
    · exact ⟨.integer n, Nat.zero_le _⟩
    · exact ⟨.real x, Nat.zero_le _⟩
  | emptyArray => exact ⟨.array (by simp), depth_array_le.mpr (by simp)⟩
  | array start inside ih =>
    exact ⟨.array fun item member => (ih item member).1,
      depth_array_le.mpr fun item member => (ih item member).2⟩
  | emptyObject => exact ⟨.object List.Pairwise.nil (by simp), depth_object_le.mpr (by simp)⟩
  | object start inside ih =>
    have inner := fun m member => ih m (Members.mem_ofList member)
    exact ⟨.object (Members.sorted_ofList _) fun m member => (inner m member).1,
      depth_object_le.mpr fun m member => (inner m member).2⟩
  | lastItem first stop ih => exact List.forall_mem_singleton.mpr ih
  | nextItem first comma later ih tail => exact List.forall_mem_cons.mpr ⟨ih, tail⟩
  | lastMember start quoted named first stop ih => exact List.forall_mem_singleton.mpr ih
  | nextMember start quoted named first comma later ih tail =>
    exact List.forall_mem_cons.mpr ⟨ih, tail⟩

theorem ordered_of_read? {text : String} {value : Json} (h : read? text = some value) :
    value.Ordered ∧ value.depth ≤ maxDepth := by
  obtain ⟨rest, reads, -⟩ := read?_eq_some.mp h
  exact reads.all

end Found

end SubscriptionGateway.Json
