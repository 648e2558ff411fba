import Mathlib.Data.List.DropRight
import SubscriptionGateway.Proofs.Json.Numerals
import SubscriptionGateway.Proofs.Json.Strings

/-! The grammar of JSON text as a relation without fuel, and the readers that follow it: what they
find is a derivation, and a derivation is found if the fuel is twice what it consumes. -/
namespace SubscriptionGateway.Json

theorem length_skipBlank_le (cs : List Char) : (skipBlank cs).length ≤ cs.length :=
  (List.dropWhile_sublist _).length_le

theorem skipBlank_cons {c : Char} (solid : isBlank c = false) (cs : List Char) :
    skipBlank (c :: cs) = c :: cs := by
  simp [skipBlank, solid]

/-- What is read: a value, the items of an array, or the members of an object as written. -/
inductive Reading where
  | value (found : Json)
  | items (found : List Json)
  | members (found : List (String × Json))

def keywords : List (String × Json) :=
  [("null", .null), ("true", .bool true), ("false", .bool false)]

/-- Within so many further arrays and objects, a text begins with what is read, and the rest is what
follows it. -/
inductive Reads : Nat → List Char → Reading → List Char → Prop where
  | string {depth : Nat} {cs body rest text : List Char} (start : skipBlank cs = '"' :: body)
      (quoted : stringBody body = some (text, rest)) :
      Reads depth cs (.value (.string (String.ofList text))) rest
  | keyword {depth : Nat} {cs rest : List Char} {word : String} {found : Json}
      (known : (word, found) ∈ keywords) (start : skipBlank cs = word.toList ++ rest) :
      Reads depth cs (.value found) rest
  | number {depth : Nat} {cs rest : List Char} {found : Json}
      (start : number? (skipBlank cs) = some (found, rest)) : Reads depth cs (.value found) rest
  | emptyArray {depth : Nat} {cs inner rest : List Char} (start : skipBlank cs = '[' :: inner)
      (stop : skipBlank inner = ']' :: rest) : Reads (depth + 1) cs (.value (.array [])) rest
  | array {depth : Nat} {cs inner rest : List Char} {items : List Json}
      (start : skipBlank cs = '[' :: inner)
      (inside : Reads depth (skipBlank inner) (.items items) rest) :
      Reads (depth + 1) cs (.value (.array items)) rest
  | emptyObject {depth : Nat} {cs inner rest : List Char} (start : skipBlank cs = '\x7b' :: inner)
      (stop : skipBlank inner = '\x7d' :: rest) : Reads (depth + 1) cs (.value (.object [])) rest
  | object {depth : Nat} {cs inner rest : List Char} {members : List (String × Json)}
      (start : skipBlank cs = '\x7b' :: inner)
      (inside : Reads depth (skipBlank inner) (.members members) rest) :
      Reads (depth + 1) cs (.value (.object (Members.ofList members))) rest
  | lastItem {depth : Nat} {cs next rest : List Char} {item : Json}
      (first : Reads depth cs (.value item) next) (stop : skipBlank next = ']' :: rest) :
      Reads depth cs (.items [item]) rest
  | nextItem {depth : Nat} {cs next more rest : List Char} {item : Json} {items : List Json}
      (first : Reads depth cs (.value item) next) (comma : skipBlank next = ',' :: more)
      (later : Reads depth more (.items items) rest) : Reads depth cs (.items (item :: items)) rest
  | lastMember {depth : Nat} {cs body key colon inner next rest : List Char} {found : Json}
      (start : skipBlank cs = '"' :: body) (quoted : stringBody body = some (key, colon))
      (named : skipBlank colon = ':' :: inner) (first : Reads depth inner (.value found) next)
      (stop : skipBlank next = '\x7d' :: rest) :
      Reads depth cs (.members [(String.ofList key, found)]) rest
  | nextMember {depth : Nat} {cs body key colon inner next more rest : List Char} {found : Json}
      {members : List (String × Json)}
      (start : skipBlank cs = '"' :: body) (quoted : stringBody body = some (key, colon))
      (named : skipBlank colon = ':' :: inner) (first : Reads depth inner (.value found) next)
      (comma : skipBlank next = ',' :: more) (later : Reads depth more (.members members) rest) :
      Reads depth cs (.members ((String.ofList key, found) :: members)) rest

theorem reads_keyword {depth : Nat} {cs next rest : List Char} {word : String} {value found : Json}
    (start : skipBlank cs = next) (known : (word, value) ∈ keywords)
    (h : keyword? word value next = some (found, rest)) : Reads depth cs (.value found) rest := by
  obtain ⟨after, isStart, made⟩ := Option.map_eq_some_iff.mp h
  cases made
  have split := List.isPrefixOf?_eq_some_iff_append_eq.mp isStart
  exact .keyword known (start.trans split.symm)

/-- What the readers find with so much fuel is derived. -/
structure Derives (fuel : Nat) : Prop where
  value : ∀ depth cs found rest, value? fuel depth cs = some (found, rest) →
    Reads depth cs (.value found) rest
  items : ∀ depth cs found rest, items? fuel depth cs = some (found, rest) →
    Reads depth cs (.items found) rest
  members : ∀ depth cs found rest, members? fuel depth cs = some (found, rest) →
    Reads depth cs (.members found) rest

namespace Derives
variable {fuel depth : Nat} {cs rest : List Char}

theorem value_succ (ih : Derives fuel) {found : Json}
    (h : value? (fuel + 1) depth cs = some (found, rest)) : Reads depth cs (.value found) rest := by
  rw [value?] at h
  split at h
  · next body start =>
    obtain ⟨⟨text, after⟩, quoted, made⟩ := Option.map_eq_some_iff.mp h
    cases made
    exact .string start quoted
  · next inner start =>
    split at h
    · cases h
    · next stop => cases h; exact .emptyArray start stop
    · obtain ⟨⟨items, after⟩, inside, made⟩ := Option.map_eq_some_iff.mp h
      cases made
      exact .array start (ih.items _ _ _ _ inside)
  · next inner start =>
    split at h
    · cases h
    · next stop => cases h; exact .emptyObject start stop
    · obtain ⟨⟨members, after⟩, inside, made⟩ := Option.map_eq_some_iff.mp h
      cases made
      exact .object start (ih.members _ _ _ _ inside)
  · next start => exact reads_keyword start (by simp [keywords]) h
  · next start => exact reads_keyword start (by simp [keywords]) h
  · next start => exact reads_keyword start (by simp [keywords]) h
  · exact .number h

theorem items_succ (ih : Derives fuel) {found : List Json}
    (h : items? (fuel + 1) depth cs = some (found, rest)) : Reads depth cs (.items found) rest := by
  rw [items?] at h
  split at h
  · cases h
  · next item next first =>
    have first := ih.value _ _ _ _ first
    split at h
    · next stop => cases h; exact .lastItem first stop
    · next more comma =>
      obtain ⟨⟨items, after⟩, later, made⟩ := Option.map_eq_some_iff.mp h
      cases made
      exact .nextItem first comma (ih.items _ _ _ _ later)
    · cases h

theorem members_succ (ih : Derives fuel) {found : List (String × Json)}
    (h : members? (fuel + 1) depth cs = some (found, rest)) :
    Reads depth cs (.members found) rest := by
  rw [members?] at h
  split at h
  · next body start =>
    split at h
    · cases h
    · next key colon quoted =>
      split at h
      · next inner named =>
        split at h
        · cases h
        · next value next first =>
          have first := ih.value _ _ _ _ first
          split at h
          · next stop => cases h; exact .lastMember start quoted named first stop
          · next more comma =>
            obtain ⟨⟨members, after⟩, later, made⟩ := Option.map_eq_some_iff.mp h
            cases made
            exact .nextMember start quoted named first comma (ih.members _ _ _ _ later)
          · cases h
      · cases h
  · cases h

end Derives

theorem derives (fuel : Nat) : Derives fuel := by
  induction fuel with
  | zero => constructor <;> simp [value?, items?, members?]
  | succ fuel ih =>
    exact ⟨fun _ _ _ _ => ih.value_succ, fun _ _ _ _ => ih.items_succ,
      fun _ _ _ _ => ih.members_succ⟩

theorem length_of_skipBlank {cs inner : List Char} {c : Char} (start : skipBlank cs = c :: inner) :
    inner.length < cs.length := by
  have shorter := length_skipBlank_le cs
  simp only [start, List.length_cons] at shorter
  omega

theorem Reads.length_lt {depth : Nat} {cs rest : List Char} {reading : Reading}
    (h : Reads depth cs reading rest) : rest.length < cs.length := by
  induction h with
  | string start quoted =>
    have shorter := length_of_skipBlank start
    have inside := (spells_of_stringBody quoted).length_lt
    omega
  | @keyword depth cs rest word found known start =>
    have shorter := length_skipBlank_le cs
    have letters : 0 < word.toList.length := by
      simp only [keywords, List.mem_cons, Prod.mk.injEq, List.not_mem_nil, or_false] at known
      rcases known with ⟨rfl, -⟩ | ⟨rfl, -⟩ | ⟨rfl, -⟩ <;> decide
    rw [start, List.length_append] at shorter
    omega
  | number start =>
    obtain ⟨c, tail, split, -, behind⟩ := start_of_number? start
    have shorter := length_of_skipBlank split
    have inside := behind.length_le
    omega
  | emptyArray start stop | emptyObject start stop =>
    have shorter := length_of_skipBlank start
    have inside := length_of_skipBlank stop
    omega
  | @array _ _ inner _ _ start inside ih | @object _ _ inner _ _ start inside ih =>
    have shorter := length_of_skipBlank start
    have blank := length_skipBlank_le inner
    omega
  | lastItem first stop ih =>
    have last := length_of_skipBlank stop
    omega
  | nextItem first comma later ih tail =>
    have shorter := length_of_skipBlank comma
    omega
  | lastMember start quoted named first stop ih =>
    have shorter := length_of_skipBlank start
    have key := (spells_of_stringBody quoted).length_lt
    have colon := length_of_skipBlank named
    have last := length_of_skipBlank stop
    omega
  | nextMember start quoted named first comma later ih tail =>
    have shorter := length_of_skipBlank start
    have key := (spells_of_stringBody quoted).length_lt
    have colon := length_of_skipBlank named
    have last := length_of_skipBlank comma
    omega

def Reading.IsFound (fuel depth : Nat) (cs rest : List Char) : Reading → Prop
  | .value found => value? fuel depth cs = some (found, rest)
  | .items found => items? fuel depth cs = some (found, rest)
  | .members found => members? fuel depth cs = some (found, rest)

theorem value?_of_number? {fuel depth : Nat} {cs rest : List Char} {found : Json}
    (start : number? (skipBlank cs) = some (found, rest)) :
    value? (fuel + 1) depth cs = some (found, rest) := by
  obtain ⟨c, tail, split, first, -⟩ := start_of_number? start
  rw [value?]
  split
  case h_7 => exact start
  all_goals
    next other =>
      obtain rfl : _ = c := by simpa using (List.cons.inj (other.symm.trans split)).1
      simp at first

theorem skipBlank_skipBlank (cs : List Char) : skipBlank (skipBlank cs) = skipBlank cs :=
  List.dropWhile_idempotent isBlank cs

theorem Reads.not_closed {depth : Nat} {cs rest : List Char} {reading : Reading}
    (h : Reads depth cs reading rest) (tail : List Char) :
    skipBlank cs ≠ ']' :: tail ∧ skipBlank cs ≠ '\x7d' :: tail := by
  induction h generalizing tail with
  | string start | emptyArray start | array start | emptyObject start | object start
  | lastMember start | nextMember start => simp [start]
  | keyword known start =>
    simp only [keywords, List.mem_cons, Prod.mk.injEq, List.not_mem_nil, or_false] at known
    rcases known with ⟨rfl, -⟩ | ⟨rfl, -⟩ | ⟨rfl, -⟩ <;> simp [start]
  | number start =>
    obtain ⟨c, more, split, first, -⟩ := start_of_number? start
    rw [split]
    constructor <;> rintro ⟨⟩ <;> simp at first
  | lastItem first stop ih => exact ih tail
  | nextItem first comma later ih => exact ih tail

/-- A reading takes at least one unit of fuel, since it consumes at least one character. -/
theorem isFound_of_succ {depth : Nat} {cs rest : List Char} {reading : Reading}
    (h : Reads depth cs reading rest)
    (found : ∀ fuel, 2 * cs.length ≤ 2 * rest.length + fuel + 1 →
      reading.IsFound (fuel + 1) depth cs rest)
    (fuel : Nat) (enough : 2 * cs.length ≤ 2 * rest.length + fuel) :
    reading.IsFound fuel depth cs rest := by
  have consumed := h.length_lt
  obtain ⟨fuel, rfl⟩ := Nat.exists_eq_succ_of_ne_zero (show fuel ≠ 0 by omega)
  exact found fuel enough

theorem isFound_succ {depth : Nat} {cs rest : List Char} {reading : Reading}
    (h : Reads depth cs reading rest) (fuel : Nat)
    (enough : 2 * cs.length ≤ 2 * rest.length + fuel + 1) :
    reading.IsFound (fuel + 1) depth cs rest := by
  induction h generalizing fuel with
  | string start quoted => simp [Reading.IsFound, value?, start, quoted]
  | keyword known start =>
    simp only [keywords, List.mem_cons, Prod.mk.injEq, List.not_mem_nil, or_false] at known
    rcases known with ⟨rfl, rfl⟩ | ⟨rfl, rfl⟩ | ⟨rfl, rfl⟩ <;>
      simp [Reading.IsFound, value?, start, keyword?]
  | number start => exact value?_of_number? start
  | emptyArray start stop => simp [Reading.IsFound, value?, start, stop]
  | emptyObject start stop => simp [Reading.IsFound, value?, start, stop]
  | @array depth cs inner rest items start inside ih =>
    -- The reader skips the blanks behind the bracket before it reads the items.
    have shorter := length_of_skipBlank start
    have blank := length_skipBlank_le inner
    have read := isFound_of_succ inside ih fuel (by omega)
    have opened := fun tail => (inside.not_closed tail).1
    simp only [Reading.IsFound, skipBlank_skipBlank] at read opened ⊢
    rw [value?, start]
    simp [read]
  | @object depth cs inner rest members start inside ih =>
    have shorter := length_of_skipBlank start
    have blank := length_skipBlank_le inner
    have read := isFound_of_succ inside ih fuel (by omega)
    have opened := fun tail => (inside.not_closed tail).2
    simp only [Reading.IsFound, skipBlank_skipBlank] at read opened ⊢
    rw [value?, start]
    simp [read]
  | @lastItem depth cs next rest item first stop ih =>
    have last := length_of_skipBlank stop
    have read := isFound_of_succ first ih fuel (by omega)
    simp only [Reading.IsFound] at read ⊢
    rw [items?, read]
    simp [stop]
  | @nextItem depth cs next more rest item items first comma later ih tail =>
    have consumed := first.length_lt
    have last := length_of_skipBlank comma
    have behind := later.length_lt
    have read := isFound_of_succ first ih fuel (by omega)
    have readMore := isFound_of_succ later tail fuel (by omega)
    simp only [Reading.IsFound] at read readMore ⊢
    rw [items?, read]
    simp [comma, readMore]
  | @lastMember depth cs body key colon inner next rest found start quoted named first stop ih =>
    have shorter := length_of_skipBlank start
    have spelled := (spells_of_stringBody quoted).length_lt
    have sep := length_of_skipBlank named
    have last := length_of_skipBlank stop
    have read := isFound_of_succ first ih fuel (by omega)
    simp only [Reading.IsFound] at read ⊢
    rw [members?, start]
    simp [quoted, named, read, stop]
  | @nextMember depth cs body key colon inner next more rest found members start quoted named first
      comma later ih tail =>
    have shorter := length_of_skipBlank start
    have spelled := (spells_of_stringBody quoted).length_lt
    have sep := length_of_skipBlank named
    have consumed := first.length_lt
    have last := length_of_skipBlank comma
    have behind := later.length_lt
    have read := isFound_of_succ first ih fuel (by omega)
    have readMore := isFound_of_succ later tail fuel (by omega)
    simp only [Reading.IsFound] at read readMore ⊢
    rw [members?, start]
    simp [quoted, named, read, comma, readMore]

/-- What the grammar derives is found, with two units of fuel for each character of it. -/
theorem isFound_of_reads {depth : Nat} {cs rest : List Char} {reading : Reading}
    (h : Reads depth cs reading rest) (fuel : Nat)
    (enough : 2 * cs.length ≤ 2 * rest.length + fuel) : reading.IsFound fuel depth cs rest :=
  isFound_of_succ h (isFound_succ h) fuel enough

/-- The texts that are read are those of the grammar with only blanks after the value. -/
theorem read?_eq_some {text : String} {found : Json} :
    read? text = some found ↔
      ∃ rest, Reads maxDepth text.toList (.value found) rest ∧ skipBlank rest = [] := by
  constructor
  · intro h
    simp only [read?] at h
    split at h
    · cases h
    · next value rest first =>
      split at h
      · next blank =>
        cases h
        exact ⟨rest, (derives _).value _ _ _ _ first, List.isEmpty_iff.mp blank⟩
      · cases h
  · rintro ⟨rest, reads, blank⟩
    have found := isFound_of_reads reads (2 * text.toList.length + 2) (by omega)
    simp only [Reading.IsFound] at found
    simp [read?, found, blank]

end SubscriptionGateway.Json
