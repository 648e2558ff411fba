import SubscriptionGateway.Proofs.Json.Canonical
import SubscriptionGateway.Proofs.Json.Grammar

/-! Whole texts. An object is read off the members that its text lists, of which the last one of a
key counts. -/
namespace SubscriptionGateway

/-- The value that counts for a key among the members as they are written. -/
def Members.last? (members : Members) (key : String) : Option Json := members.reverse.lookup key

theorem Members.get?_ofList_eq_last? (members : Members) : (ofList members).get? = members.last? :=
  funext (get?_ofList members)

namespace Json

/-- The text is JSON of the value, with blanks around it at most. -/
def Denotes (text : String) (value : Json) : Prop :=
  ∃ rest, Reads maxDepth text.toList (.value value) rest ∧ skipBlank rest = []

/-- Behind the brace of an object stand these members, as they are written, and its other brace. -/
def Encloses (depth : Nat) (inner : List Char) (members : Members) (rest : List Char) : Prop :=
  (members = [] ∧ skipBlank inner = '\x7d' :: rest) ∨
    Reads depth (skipBlank inner) (.members members) rest

/-- The text is an object of these members, as they are written, with blanks around it at most. -/
def Lists (text : String) (members : Members) : Prop :=
  ∃ depth inner rest, maxDepth = depth + 1 ∧ skipBlank text.toList = '\x7b' :: inner ∧
    Encloses depth inner members rest ∧ skipBlank rest = []

theorem read?_eq_none {text : String} : read? text = none ↔ ∀ value, ¬ Denotes text value := by
  simp only [Denotes, ← read?_eq_some, Option.eq_none_iff_forall_ne_some, ne_eq]

/-- Objects are read off what stands between their braces. -/
theorem reads_object {depth : Nat} {cs rest : List Char} {envelope : Members} :
    Reads depth cs (.value (.object envelope)) rest ↔
      ∃ below inner members, depth = below + 1 ∧ skipBlank cs = '\x7b' :: inner ∧
        Encloses below inner members rest ∧ Members.ofList members = envelope := by
  constructor
  · intro h
    cases h with
    | keyword known => simp [keywords] at known
    | number start =>
      rcases kind_of_number? start with ⟨_, other⟩ | ⟨_, other⟩ <;> cases other
    | emptyObject start stop => exact ⟨_, _, [], rfl, start, .inl ⟨rfl, stop⟩, rfl⟩
    | object start inside => exact ⟨_, _, _, rfl, start, .inr inside, rfl⟩
  · rintro ⟨below, inner, members, rfl, start, ⟨rfl, stop⟩ | inside, rfl⟩
    · exact .emptyObject start stop
    · exact .object start inside

theorem denotes_object {text : String} {envelope : Members} :
    Denotes text (.object envelope) ↔
      ∃ members, Lists text members ∧ Members.ofList members = envelope := by
  simp only [Denotes, Lists, reads_object]
  constructor
  · rintro ⟨rest, ⟨below, inner, members, deep, start, enclosed, made⟩, blank⟩
    exact ⟨members, ⟨below, inner, rest, deep, start, enclosed, blank⟩, made⟩
  · rintro ⟨members, ⟨below, inner, rest, deep, start, enclosed, blank⟩, made⟩
    exact ⟨rest, ⟨below, inner, members, deep, start, enclosed, made⟩, blank⟩

theorem Lists.read? {text : String} {members : Members} (h : Lists text members) :
    Json.read? text = some (.object (Members.ofList members)) :=
  read?_eq_some.mpr (denotes_object.mpr ⟨members, h, rfl⟩)

end Json

end SubscriptionGateway
