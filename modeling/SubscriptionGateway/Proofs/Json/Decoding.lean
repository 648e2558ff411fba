import Mathlib.Data.List.Forall2
import SubscriptionGateway.Json.Decoding
import SubscriptionGateway.Proofs.Json.Canonical

/-! Typed values out of JSON. A shape relates a value to what it stands for; for each way of
decoding there is one, and it decodes just the values that have the shape. The fields of a record
are given by name or by place. -/
namespace SubscriptionGateway

section Except

variable {ε α β : Type}

theorem bind_eq_ok {x : Except ε α} {f : α → Except ε β} {b : β} :
    (x >>= f) = .ok b ↔ ∃ a, x = .ok a ∧ f a = .ok b := by
  cases x <;> simp [bind, Except.bind]

theorem map_eq_ok {x : Except ε α} {f : α → β} {b : β} :
    x.map f = .ok b ↔ ∃ a, x = .ok a ∧ f a = b := by
  cases x <;> simp [Except.map]

theorem bind_eq_error {x : Except ε α} {f : α → Except ε β} {e : ε} :
    (x >>= f) = .error e ↔ x = .error e ∨ ∃ a, x = .ok a ∧ f a = .error e := by
  cases x <;> simp [bind, Except.bind]

theorem map_eq_error {x : Except ε α} {f : α → β} {e : ε} :
    x.map f = .error e ↔ x = .error e := by
  cases x <;> simp [Except.map]

theorem mapM_eq_ok {f : β → Except ε α} {ys : List β} {xs : List α} :
    ys.mapM f = .ok xs ↔ List.Forall₂ (fun y x => f y = .ok x) ys xs := by
  induction ys generalizing xs with
  | nil => cases xs <;> simp [pure, Except.pure]
  | cons y ys ih =>
    rw [List.mapM_cons, bind_eq_ok]
    cases xs with
    | nil => simp [bind_eq_ok, pure, Except.pure]
    | cons x xs => simp [bind_eq_ok, ih, pure, Except.pure]

end Except

namespace Json

/-- The items of an array and the values of an object's members. -/
def Part (part : Json) : Json → Prop
  | .array items => part ∈ items
  | .object members => ∃ key, (key, part) ∈ members
  | _ => False

theorem Part.canonical {part value : Json} (h : Part part value) (canonical : value.Canonical) :
    part.Canonical := by
  cases value with
  | array items => exact canonical_array.mp canonical part h
  | object members =>
    obtain ⟨key, member⟩ := h
    exact (canonical_object.mp canonical).2 _ member
  | _ => cases h

theorem Part.depth_lt {part value : Json} (h : Part part value) : part.depth < value.depth := by
  cases value with
  | array items => exact Nat.lt_succ_of_le (itemsDepth_le.mp (Nat.le_refl _) part h)
  | object members =>
    obtain ⟨key, member⟩ := h
    exact Nat.lt_succ_of_le (membersDepth_le.mp (Nat.le_refl _) _ member)
  | _ => cases h

/-- The field of a record: the member of its name in an object, or the item at its place in an
array. -/
def fieldAt? (record : Json) (name : String) (place : Nat) : Option Json :=
  match record with
  | .object members => Members.get? members name
  | .array items => items[place]?
  | _ => none

/-- Objects, and arrays of no more items than there are fields. -/
def IsRecord (fields : Nat) : Json → Prop
  | .object _ => True
  | .array items => items.length ≤ fields
  | _ => False

def Lacks (field : Option Json) : Prop := field = none ∨ field = some .null

/-- An optional field: lacking if there is no value, and the value as it is written if there is
one. -/
def Holds {α : Type} (write : α → Json) (field : Option Json) : Option α → Prop
  | none => Lacks field
  | some x => field = some (write x) ∧ write x ≠ .null

def IsListOf {α : Type} (Shape : Json → α → Prop) (value : Json) (xs : List α) : Prop :=
  ∃ items, value = .array items ∧ List.Forall₂ Shape items xs

/-- A field with a list, which is empty where the field is left out; it is never null. -/
def HoldsList {α : Type} (Shape : Json → α → Prop) (field : Option Json) (xs : List α) : Prop :=
  (field = none ∧ xs = []) ∨ ∃ value, field = some value ∧ IsListOf Shape value xs

theorem not_isListOf_null {α : Type} {Shape : Json → α → Prop} (xs : List α) :
    ¬ IsListOf Shape .null xs := by
  rintro ⟨items, ⟨⟩, -⟩

section Values

variable {α : Type} {value : Json}

theorem decodeString_eq_ok {text : String} :
    decodeString value = .ok text ↔ value = .string text := by
  cases value <;> simp [decodeString]

theorem decodeMembers_eq_ok {members : Members} :
    decodeMembers value = .ok members ↔ value = .object members := by
  cases value <;> simp [decodeMembers]

theorem decodeAny_eq_ok {found : Json} : decodeAny value = .ok found ↔ value = found := by
  simp [decodeAny]

theorem decodeUnsigned_eq_ok {width : Width} {n : Nat} :
    decodeUnsigned width value = .ok n ↔ value = .integer n ∧ n < width.bound := by
  cases value with
  | integer i =>
    simp only [decodeUnsigned, integer.injEq]
    split
    · next fits =>
      obtain ⟨k, rfl⟩ := Int.eq_ofNat_of_zero_le fits.1
      simp only [Int.toNat_natCast, Except.ok.injEq, Int.natCast_inj] at fits ⊢
      exact ⟨fun same => ⟨same, same ▸ fits.2⟩, And.left⟩
    · next outside =>
      simp only [reduceCtorEq, false_iff]
      rintro ⟨rfl, fits⟩
      exact outside ⟨Int.natCast_nonneg n, fits⟩
  | _ => simp [decodeUnsigned]

theorem decodeList_eq_ok {item : Json → Decoded α} {Shape : Json → α → Prop}
    (exact : ∀ {part x}, item part = .ok x ↔ Shape part x) {xs : List α} :
    decodeList item value = .ok xs ↔ IsListOf Shape value xs := by
  have same : (fun part x => item part = .ok x) = Shape := by
    funext part x
    exact propext exact
  cases value with
  | array items => simp [decodeList, IsListOf, mapM_eq_ok, same]
  | _ => simp [decodeList, IsListOf]

theorem decodeItems_eq_ok {items : List Json} :
    decodeList decodeAny value = .ok items ↔ value = .array items := by
  simp [decodeList_eq_ok decodeAny_eq_ok, IsListOf]

theorem decodeOption_eq_ok {decoder : Json → Decoded α} {write : α → Json}
    (exact : ∀ {part x}, decoder part = .ok x ↔ part = write x) {found : Option α} :
    decodeOption decoder value = .ok found ↔ Holds write (some value) found := by
  have given (notNull : value ≠ .null) :
      (decoder value).map some = .ok found ↔ Holds write (some value) found := by
    rw [map_eq_ok]
    cases found with
    | none => simp [Holds, Lacks, notNull]
    | some x =>
      simp only [Option.some.injEq, exists_eq_right, exact, Holds]
      exact ⟨fun same => ⟨same, same ▸ notNull⟩, And.left⟩
  cases value with
  | null =>
    cases found with
    | none => simp [decodeOption, Holds, Lacks]
    | some x =>
      simp only [decodeOption, Except.ok.injEq, reduceCtorEq, Holds, Option.some.injEq, false_iff]
      rintro ⟨isNull, notNull⟩
      exact notNull isNull.symm
  | _ => exact given (by simp)

end Values

section Fields

variable {α : Type} {members : Members} {key : String} {items : List Json} {place : Nat}

def Defaults (decoder : Json → Decoded α) (default : α) (field : Option Json) (x : α) : Prop :=
  (field = none ∧ x = default) ∨ ∃ value, field = some value ∧ decoder value = .ok x

def Needs (decoder : Json → Decoded α) (field : Option Json) (x : α) : Prop :=
  ∃ value, field = some value ∧ decoder value = .ok x

variable {decoder : Json → Decoded α} {default x : α} {field : Option Json}

theorem decodeOr_of_get? {source : Json}
    (found : members.get? key = some source) :
    members.decodeOr key default decoder = decoder source := by
  simp only [Members.decodeOr, Members.decode?, found]
  cases decoder source <;> rfl

theorem decodeOr_of_none (absent : members.get? key = none) :
    members.decodeOr key default decoder = .ok default := by
  simp only [Members.decodeOr, Members.decode?, absent]
  rfl

theorem decodeOr_eq_ok : members.decodeOr key default decoder = .ok x ↔
    Defaults decoder default (members.get? key) x := by
  cases found : members.get? key with
  | none => simp [decodeOr_of_none found, Defaults, eq_comm]
  | some value => simp [decodeOr_of_get? found, Defaults]

theorem decodeItemOr_eq_ok : decodeItemOr items place default decoder = .ok x ↔
    Defaults decoder default items[place]? x := by
  unfold decodeItemOr
  cases items[place]? <;> simp [Defaults, eq_comm]

theorem required_eq_ok {name : String} :
    (∃ found, members.decode? key decoder = .ok found ∧ requireField name found = .ok x) ↔
      Needs decoder (members.get? key) x := by
  unfold Members.decode?
  cases members.get? key with
  | none => simp [requireField, Needs]
  | some value => simp [map_eq_ok, requireField, Needs]

theorem requireItem_eq_ok {record : String} {fields : Nat} :
    requireItem record fields items place decoder = .ok x ↔ Needs decoder items[place]? x := by
  unfold requireItem
  cases items[place]? <;> simp [Needs]

theorem needs_string {text : String} :
    Needs decodeString field text ↔ field = some (.string text) := by
  simp [Needs, decodeString_eq_ok]

theorem needs_unsigned {width : Width} {n : Nat} :
    Needs (decodeUnsigned width) field n ↔ field = some (.integer n) ∧ n < width.bound := by
  simp [Needs, decodeUnsigned_eq_ok]

theorem defaults_optional {write : α → Json}
    (exact : ∀ {part x}, decoder part = .ok x ↔ part = write x) {found : Option α} :
    Defaults (decodeOption decoder) none field found ↔ Holds write field found := by
  cases field with
  | none => cases found <;> simp [Defaults, Holds, Lacks]
  | some value => simp [Defaults, decodeOption_eq_ok exact]

theorem defaults_list {Shape : Json → α → Prop}
    (exact : ∀ {part x}, decoder part = .ok x ↔ Shape part x) {xs : List α} :
    Defaults (decodeList decoder) [] field xs ↔ HoldsList Shape field xs := by
  simp only [Defaults, HoldsList, decodeList_eq_ok exact]

/-- A record is decoded to what its fields are the shape of, however they are given. -/
theorem decodeRecord_eq_ok {name : String} {fields : Nat} {ofMembers : Members → Decoded α}
    {ofItems : List Json → Decoded α} {Shape : (String → Nat → Option Json) → α → Prop}
    (byName : ∀ {members x}, ofMembers members = .ok x ↔ Shape (fun key _ => members.get? key) x)
    (byPlace : ∀ {items x}, ofItems items = .ok x ↔ Shape (fun _ place => items[place]?) x)
    {value : Json} :
    decodeRecord name fields ofMembers ofItems value = .ok x ↔
      value.IsRecord fields ∧ Shape value.fieldAt? x := by
  cases value with
  | object members =>
    have fieldsOf : (object members).fieldAt? = fun key _ => Members.get? members key := rfl
    simp [decodeRecord, IsRecord, byName, fieldsOf]
  | array items =>
    have fieldsOf : (array items).fieldAt? = fun _ place => items[place]? := rfl
    simp only [decodeRecord, IsRecord, bind_eq_ok, byPlace, fieldsOf]
    constructor
    · rintro ⟨record, shape, h⟩
      split at h
      · next few => cases h; exact ⟨few, shape⟩
      · cases h
    · rintro ⟨few, shape⟩
      exact ⟨x, shape, if_pos few⟩
  | _ => simp [decodeRecord, IsRecord]

end Fields

end Json

section Given

variable {members : Members} {key : String}

theorem Members.given?_eq_none : members.given? key = none ↔ Json.Lacks (members.get? key) := by
  unfold Members.given? Json.Lacks
  cases members.get? key with
  | none => simp
  | some value => cases value <;> simp

theorem Members.given?_eq_some {value : Json} :
    members.given? key = some value ↔ members.get? key = some value ∧ value ≠ .null := by
  unfold Members.given?
  cases members.get? key with
  | none => simp
  | some found => cases found <;> simp <;> rintro rfl <;> simp

end Given

end SubscriptionGateway
