import Mathlib.Data.Nat.Digits.Defs
import SubscriptionGateway.Settings.Override

/-! What a variable of the environment has to hold to be taken for a setting, and for which value it
is taken then. -/
namespace SubscriptionGateway

def digitValue (c : Char) : Nat := c.toNat - '0'.toNat

/-- A decimal numeral of a number: some digits, which may stand behind a plus sign. -/
def IsNumeral (text : String) (n : Nat) : Prop :=
  ∃ digits : List Char, (text.toList = digits ∨ text.toList = '+' :: digits) ∧ digits ≠ [] ∧
    (∀ c ∈ digits, isDecimalDigit c = true) ∧ n = Nat.ofDigits 10 (digits.reverse.map digitValue)

def IsWord (text : String) : Bool → Prop
  | true => lowered text ∈ ["true", "1", "yes", "on"]
  | false => lowered text ∈ ["false", "0", "no", "off"]

theorem digitsFrom_eq (value : Nat) (digits : List Char) :
    digitsFrom value digits =
      10 ^ digits.length * value + Nat.ofDigits 10 (digits.reverse.map digitValue) := by
  induction digits generalizing value with
  | nil => simp [digitsFrom]
  | cons c rest ih =>
    have next : digitsFrom value (c :: rest) = digitsFrom (10 * value + digitValue c) rest := rfl
    rw [next, ih]
    simp only [List.reverse_cons, List.map_append, List.map_cons, List.map_nil, Nat.ofDigits_append,
      Nat.ofDigits_singleton, List.length_map, List.length_reverse, List.length_cons, Nat.pow_succ]
    ring

theorem withoutPlus_of_digit {digits : List Char}
    (decimal : ∀ c ∈ digits, isDecimalDigit c = true) : withoutPlus digits = digits := by
  unfold withoutPlus
  split
  · next rest => exact absurd (decimal '+' List.mem_cons_self) (by decide)
  · rfl

theorem withoutPlus_cases (text : List Char) :
    text = withoutPlus text ∨ text = '+' :: withoutPlus text := by
  unfold withoutPlus
  split
  · exact .inr rfl
  · exact .inl rfl

theorem readUnsigned?_eq_some {bound n : Nat} {text : String} :
    readUnsigned? bound text = some n ↔ IsNumeral text n ∧ n < bound := by
  have value (digits : List Char) :
      digitsFrom 0 digits = Nat.ofDigits 10 (digits.reverse.map digitValue) := by
    simp [digitsFrom_eq]
  constructor
  · intro read
    simp only [readUnsigned?] at read
    split at read
    · cases read
    · next digits =>
      simp only [Bool.or_eq_true, List.isEmpty_iff, Bool.not_eq_true', not_or,
        Bool.not_eq_false, List.all_eq_true] at digits
      split at read
      · next fits =>
        cases read
        exact ⟨⟨_, withoutPlus_cases _, digits.1, digits.2, value _⟩, fits⟩
      · cases read
  · rintro ⟨⟨digits, written, some_digits, decimal, rfl⟩, fits⟩
    have bare : withoutPlus text.toList = digits := by
      rcases written with same | signed
      · rw [same, withoutPlus_of_digit decimal]
      · rw [signed]; rfl
    have all : digits.all isDecimalDigit = true := List.all_eq_true.mpr decimal
    rw [← value] at fits ⊢
    simp [readUnsigned?, bare, some_digits, all, fits]

theorem readWithin?_eq_some {bound least most n : Nat} {text : String} (narrow : most < bound) :
    readWithin? bound least most text = some n ↔ IsNumeral text n ∧ least ≤ n ∧ n ≤ most := by
  simp only [readWithin?, Option.filter_eq_some_iff, readUnsigned?_eq_some, Bool.and_eq_true,
    decide_eq_true_eq]
  constructor
  · rintro ⟨⟨numeral, -⟩, within⟩
    exact ⟨numeral, within⟩
  · rintro ⟨numeral, least, most⟩
    exact ⟨⟨numeral, by omega⟩, least, most⟩

theorem readBool?_eq_some {text : String} {value : Bool} :
    readBool? text = some value ↔ IsWord text value := by
  dsimp only [readBool?]
  split
  · next yes =>
    cases value with
    | true => simpa [IsWord] using yes
    | false =>
      refine iff_of_false (by simp) fun no => ?_
      simp only [IsWord, List.mem_cons, List.not_mem_nil, or_false] at yes no
      rcases no with no | no | no | no <;> simp [no] at yes
  · next notYes =>
    cases value with
    | true => simpa [IsWord] using notYes
    | false => simp only [IsWord, Option.ite_none_right_eq_some, and_true]

namespace Environment

variable {env : Environment} {name : String}

theorem text?_eq_some {value : String} :
    env.text? name = some value ↔ env name = some value ∧ value ≠ "" := by
  simp [text?, Option.filter_eq_some_iff]

theorem path?_eq_some {value : String} :
    env.path? name = some value ↔ env name = some value ∧ isAbsolutePath value = true := by
  simp only [path?, Option.filter_eq_some_iff, text?_eq_some, and_assoc]
  refine and_congr_right fun _ => and_iff_right_of_imp ?_
  rintro absolute rfl
  cases absolute

theorem bool?_eq_some {value : Bool} :
    env.bool? name = some value ↔ ∃ text, env name = some text ∧ IsWord text value := by
  simp only [bool?, Option.bind_eq_some_iff, readBool?_eq_some]

theorem number?_eq_some {allowed : Allowed} {n : Nat} (narrow : allowed.most < UInt64.size) :
    env.number? name allowed = some n ↔
      ∃ text, env name = some text ∧ IsNumeral text n ∧ allowed.least ≤ n ∧ n ≤ allowed.most := by
  simp only [number?, Option.bind_eq_some_iff, readWithin?_eq_some narrow]

end Environment

end SubscriptionGateway
