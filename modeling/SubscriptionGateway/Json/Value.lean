import SubscriptionGateway.Number.Decimal

/-! JSON values. An object is a list of members; objects that come from outside are kept sorted by
key, each key once, and the records of the protocol list their members in a fixed order. -/
namespace SubscriptionGateway

/-- A number stays an integer as long as it fits 64 bits, signed or unsigned. -/
inductive Json where
  | null
  | bool (value : Bool)
  | integer (value : Int)
  | real (value : Binary64)
  | string (value : String)
  | array (items : List Json)
  | object (members : List (String × Json))
deriving Repr, Inhabited

abbrev Members := List (String × Json)

namespace Json

mutual

def decEq : (a b : Json) → Decidable (a = b)
  | .null, .null => isTrue rfl
  | .bool a, .bool b =>
    if h : a = b then isTrue (by rw [h]) else isFalse fun e => h (by injection e)
  | .integer a, .integer b =>
    if h : a = b then isTrue (by rw [h]) else isFalse fun e => h (by injection e)
  | .real a, .real b =>
    if h : a = b then isTrue (by rw [h]) else isFalse fun e => h (by injection e)
  | .string a, .string b =>
    if h : a = b then isTrue (by rw [h]) else isFalse fun e => h (by injection e)
  | .array a, .array b =>
    match decEqItems a b with
    | isTrue h => isTrue (by rw [h])
    | isFalse h => isFalse fun e => h (by injection e)
  | .object a, .object b =>
    match decEqMembers a b with
    | isTrue h => isTrue (by rw [h])
    | isFalse h => isFalse fun e => h (by injection e)
  | .null, .bool _ | .null, .integer _ | .null, .real _ | .null, .string _ | .null, .array _
  | .null, .object _ | .bool _, .null | .bool _, .integer _ | .bool _, .real _ | .bool _, .string _
  | .bool _, .array _ | .bool _, .object _ | .integer _, .null | .integer _, .bool _
  | .integer _, .real _ | .integer _, .string _ | .integer _, .array _ | .integer _, .object _
  | .real _, .null | .real _, .bool _ | .real _, .integer _ | .real _, .string _ | .real _, .array _
  | .real _, .object _ | .string _, .null | .string _, .bool _ | .string _, .integer _
  | .string _, .real _ | .string _, .array _ | .string _, .object _ | .array _, .null
  | .array _, .bool _ | .array _, .integer _ | .array _, .real _ | .array _, .string _
  | .array _, .object _ | .object _, .null | .object _, .bool _ | .object _, .integer _
  | .object _, .real _ | .object _, .string _ | .object _, .array _ => isFalse (by simp)

def decEqItems : (a b : List Json) → Decidable (a = b)
  | [], [] => isTrue rfl
  | [], _ :: _ => isFalse (by simp)
  | _ :: _, [] => isFalse (by simp)
  | x :: xs, y :: ys =>
    match decEq x y, decEqItems xs ys with
    | isTrue h, isTrue t => isTrue (by rw [h, t])
    | isFalse h, _ => isFalse fun e => h (by injection e)
    | _, isFalse t => isFalse fun e => t (by injection e)

def decEqMembers : (a b : List (String × Json)) → Decidable (a = b)
  | [], [] => isTrue rfl
  | [], _ :: _ => isFalse (by simp)
  | _ :: _, [] => isFalse (by simp)
  | (k, x) :: xs, (l, y) :: ys =>
    match decEq x y, decEqMembers xs ys with
    | isTrue h, isTrue t =>
      if e : k = l then isTrue (by rw [h, t, e])
      else isFalse fun q => e (congrArg Prod.fst (List.cons.inj q).1)
    | isFalse h, _ => isFalse fun q => h (congrArg Prod.snd (List.cons.inj q).1)
    | _, isFalse t => isFalse fun q => t (List.cons.inj q).2

end

instance : DecidableEq Json := decEq

def isNull : Json → Bool
  | .null => true
  | _ => false

def isObject : Json → Bool
  | .object _ => true
  | _ => false

end Json

namespace Members

def get? (members : Members) (key : String) : Option Json := List.lookup key members

/-- The value of a member that is present and not null. -/
def given? (members : Members) (key : String) : Option Json :=
  match get? members key with
  | some .null => none
  | found => found

/-- Puts a member in its place by key; a member of that key is replaced. -/
def insert (key : String) (value : Json) : Members → Members
  | [] => [(key, value)]
  | (k, v) :: rest =>
    if key < k then (key, value) :: (k, v) :: rest
    else if key = k then (key, value) :: rest
    else (k, v) :: insert key value rest

/-- Sorted by key, the last of several members of one key winning. -/
def ofList (members : List (String × Json)) : Members :=
  members.foldl (fun sorted member => insert member.1 member.2 sorted) []

/-- Members in increasing order of their keys, which are hence distinct. -/
def Sorted (members : Members) : Prop := members.Pairwise fun a b => a.1 < b.1

theorem get?_insert_self (key : String) (value : Json) (members : Members) :
    get? (insert key value members) key = some value := by
  induction members with
  | nil => simp [insert, get?]
  | cons m rest ih =>
    obtain ⟨k, v⟩ := m
    by_cases lt : key < k
    · simp [insert, get?, lt]
    · by_cases eq : key = k
      · simp [insert, get?, eq]
      · have ne : (key == k) = false := by simpa using eq
        simpa [insert, get?, List.lookup_cons, lt, eq, ne] using ih

theorem get?_insert_of_ne {key other : String} (ne : other ≠ key) (value : Json)
    (members : Members) : get? (insert key value members) other = get? members other := by
  have other_ne : (other == key) = false := by simpa using ne
  induction members with
  | nil => simp [insert, get?, List.lookup_cons, other_ne]
  | cons m rest ih =>
    obtain ⟨k, v⟩ := m
    by_cases lt : key < k
    · simp [insert, get?, List.lookup_cons, lt, other_ne]
    · by_cases eq : key = k
      · subst eq
        simp [insert, get?, List.lookup_cons, other_ne]
      · simp only [insert, if_neg lt, if_neg eq, get?, List.lookup_cons] at ih ⊢
        split <;> simp_all

theorem mem_insert {key : String} {value : Json} {members : Members} {m : String × Json}
    (h : m ∈ insert key value members) : m = (key, value) ∨ m ∈ members := by
  induction members with
  | nil => simpa [insert] using h
  | cons first rest ih =>
    obtain ⟨k, v⟩ := first
    simp only [insert] at h
    split at h
    · simpa using h
    · split at h
      · rcases List.mem_cons.1 h with rfl | h
        · exact .inl rfl
        · exact .inr (List.mem_cons_of_mem _ h)
      · rcases List.mem_cons.1 h with rfl | h
        · exact .inr (List.mem_cons_self ..)
        · exact (ih h).imp id (List.mem_cons_of_mem _)

theorem Sorted.insert {members : Members} (sorted : Sorted members) (key : String)
    (value : Json) : Sorted (Members.insert key value members) := by
  induction members with
  | nil => simp [Members.insert, Sorted]
  | cons first rest ih =>
    obtain ⟨k, v⟩ := first
    obtain ⟨below, tail⟩ := List.pairwise_cons.1 sorted
    simp only [Members.insert]
    split
    · next lt =>
      refine List.pairwise_cons.2 ⟨fun m hm => ?_, sorted⟩
      rcases List.mem_cons.1 hm with rfl | hm
      · exact lt
      · exact String.lt_trans lt (below m hm)
    · next notLt =>
      split
      · next eq => exact List.pairwise_cons.2 ⟨fun m hm => eq ▸ below m hm, tail⟩
      · next ne =>
        refine List.pairwise_cons.2 ⟨fun m hm => ?_, ih tail⟩
        rcases mem_insert hm with rfl | hm
        · rcases Decidable.em (k < key) with h | h
          · exact h
          · exact absurd (String.le_antisymm (String.not_lt.1 h) (String.not_lt.1 notLt)) ne
        · exact below m hm

theorem sorted_ofList (members : List (String × Json)) : Sorted (ofList members) := by
  have step (members : List (String × Json)) (start : Members) (sorted : Sorted start) :
      Sorted (members.foldl (fun acc member => insert member.1 member.2 acc) start) := by
    induction members generalizing start with
    | nil => exact sorted
    | cons m rest ih => exact ih _ (sorted.insert _ _)
  exact step members [] List.Pairwise.nil

end Members

end SubscriptionGateway
