import Mathlib.Data.List.TakeDrop
import SubscriptionGateway.Json.Printer
import SubscriptionGateway.Json.Reader

/-! Integers as text: their digits read back, wherever the text does not go on with a number. -/
namespace SubscriptionGateway.Json

/-- Whether an integer fits 64 bits, signed or unsigned. -/
def IsWord (n : Int) : Prop := -(UInt64.size / 2 : Nat) ≤ n ∧ n < UInt64.size

instance (n : Int) : Decidable (IsWord n) := by unfold IsWord; infer_instance

def isNumeric (c : Char) : Bool :=
  c.isDigit || c == '-' || c == '+' || c == '.' || c == 'e' || c == 'E'

/-- Whether a number ends where the text begins. -/
def Stops (cs : List Char) : Prop := ∀ c ∈ cs.head?, isNumeric c = false

theorem stops_nil : Stops [] := by simp [Stops]

theorem stops_cons {c : Char} (other : isNumeric c = false) (cs : List Char) : Stops (c :: cs) := by
  simpa [Stops] using other

theorem isDigit_of_not_numeric {c : Char} (h : isNumeric c = false) : c.isDigit = false := by
  simp only [isNumeric, Bool.or_eq_false_iff] at h
  exact h.1.1.1.1.1

section Digits

theorem digitsValue_eq (digits : List Char) :
    digitsValue digits = Nat.ofDigitChars 10 digits 0 := by
  rw [Nat.ofDigitChars_eq_foldl, digitsValue]
  congr 1
  funext n c
  rw [Nat.mul_comm]
  rfl

theorem digitsValue_toDigits (n : Nat) : digitsValue (Nat.toDigits 10 n) = n := by
  rw [digitsValue_eq, Nat.ofDigitChars_ten_toDigits]

theorem isDigit_toDigits (n : Nat) : ∀ c ∈ Nat.toDigits 10 n, c.isDigit = true :=
  fun _ member => Nat.isDigit_of_mem_toDigits (by decide) (by decide) member

theorem digitChar_ne_zero : ∀ n < 10, 0 < n → n.digitChar ≠ '0' := by decide

theorem head?_toDigits (n : Nat) (positive : 0 < n) : (Nat.toDigits 10 n).head? ≠ some '0' := by
  induction n using Nat.strongRecOn with
  | ind n ih =>
    by_cases small : n < 10
    · rw [Nat.toDigits_of_lt_base small]
      simpa using digitChar_ne_zero n small positive
    · have front : (Nat.toDigits 10 (n / 10)).head? ≠ some '0' := ih (n / 10) (by omega) (by omega)
      rw [Nat.toDigits_of_base_le (by decide) (by omega), List.head?_append]
      cases digits : (Nat.toDigits 10 (n / 10)).head? with
      | none => exact absurd (List.head?_eq_none_iff.mp digits) Nat.toDigits_ne_nil
      | some c => simpa [digits] using front

theorem digits?_append {digits rest : List Char} (all : ∀ c ∈ digits, c.isDigit = true)
    (some_digit : digits ≠ []) (stop : ∀ c ∈ rest.head?, c.isDigit = false) :
    digits? (digits ++ rest) = some (digits, rest) := by
  have taken : rest.takeWhile Char.isDigit = [] ∧ rest.dropWhile Char.isDigit = rest := by
    cases rest with
    | nil => exact ⟨rfl, rfl⟩
    | cons c rest =>
      have other : c.isDigit = false := stop c rfl
      simp [other]
  rw [digits?, List.span_eq_takeWhile_dropWhile, List.takeWhile_append_of_pos all,
    List.dropWhile_append_of_pos all, taken.1, taken.2, List.append_nil]
  cases digits with
  | nil => exact absurd rfl some_digit
  | cons => rfl

theorem whole?_toDigits {rest : List Char} (n : Nat) (stop : Stops rest) :
    whole? (Nat.toDigits 10 n ++ rest) = some (Nat.toDigits 10 n, rest) := by
  have read := digits?_append (isDigit_toDigits n) Nat.toDigits_ne_nil
    fun c first => isDigit_of_not_numeric (stop c first)
  unfold whole?
  rw [read]
  split
  · next second more after same =>
    have digits : Nat.toDigits 10 n = '0' :: second :: more :=
      congrArg Prod.fst (Option.some.inj same)
    by_cases zero : n = 0
    · simp [zero, Nat.toDigits_zero] at digits
    · exact absurd (by rw [digits]; rfl) (head?_toDigits n (by omega))
  · rfl

end Digits

theorem fraction?_of_stops {rest : List Char} (stop : Stops rest) :
    fraction? rest = some (none, rest) := by
  unfold fraction?
  split
  · simp [Stops, isNumeric] at stop
  · rfl

theorem exponent?_of_stops {rest : List Char} (stop : Stops rest) :
    exponent? rest = some (none, rest) := by
  unfold exponent?
  split
  · simp [Stops, isNumeric] at stop
  · simp [Stops, isNumeric] at stop
  · rfl

theorem unsignedText?_toDigits {rest : List Char} (negative : Bool) (n : Nat) (stop : Stops rest) :
    unsignedText? negative (Nat.toDigits 10 n ++ rest) =
      some (⟨negative, Nat.toDigits 10 n, none, none⟩, rest) := by
  simp [unsignedText?, whole?_toDigits n stop, fraction?_of_stops stop, exponent?_of_stops stop]

theorem numberText?_of_digit {c : Char} (digit : c.isDigit = true) (cs : List Char) :
    numberText? (c :: cs) = unsignedText? false (c :: cs) := by
  have unsigned : c ≠ '-' := by rintro rfl; simp at digit
  unfold numberText?
  split
  · next same => cases same; exact absurd rfl unsigned
  · rfl

theorem numberText?_integerText {rest : List Char} (n : Int) (stop : Stops rest) :
    numberText? (integerText n ++ rest) =
      some (⟨decide (n < 0), Nat.toDigits 10 n.natAbs, none, none⟩, rest) := by
  unfold integerText
  split
  · next negative =>
    simp [numberText?, unsignedText?_toDigits true _ stop, negative]
  · next positive =>
    have read := unsignedText?_toDigits false n.natAbs stop
    cases digits : Nat.toDigits 10 n.natAbs with
    | nil => exact absurd digits Nat.toDigits_ne_nil
    | cons c more =>
      have digit : c.isDigit = true := isDigit_toDigits n.natAbs c (by simp [digits])
      rw [digits] at read
      rw [List.cons_append, numberText?_of_digit digit, ← List.cons_append, read]
      simp [positive]

theorem number?_integerText {n : Int} (word : IsWord n) {rest : List Char} (stop : Stops rest) :
    number? (integerText n ++ rest) = some (.integer n, rest) := by
  obtain ⟨low, high⟩ := word
  rw [number?, numberText?_integerText n stop]
  by_cases negative : n < 0
  · have fits : 0 < n.natAbs ∧ n.natAbs ≤ UInt64.size / 2 := by omega
    have back : -(n.natAbs : Int) = n := by omega
    simp only [NumberText.value?, digitsValue_toDigits, negative, decide_true, if_pos fits, back,
      Option.map_some]
  · have fits : n.natAbs < UInt64.size := by omega
    have back : (n.natAbs : Int) = n := by omega
    simp only [NumberText.value?, digitsValue_toDigits, negative, decide_false, if_pos fits, back,
      Option.map_some]

theorem kind_of_number? {cs rest : List Char} {found : Json}
    (h : number? cs = some (found, rest)) : (∃ n, found = .integer n) ∨ ∃ x, found = .real x := by
  unfold number? at h
  split at h
  · cases h
  · next text after read =>
    obtain ⟨value, isValue, made⟩ := Option.map_eq_some_iff.mp h
    cases made
    have ofReal (h : text.real? = some found) : ∃ x, found = .real x := by
      obtain ⟨x, -, made⟩ := Option.map_eq_some_iff.mp h
      exact ⟨_, made.symm⟩
    unfold NumberText.value? at isValue
    simp only at isValue
    split at isValue <;> (try split at isValue)
    · cases isValue; exact .inl ⟨_, rfl⟩
    · exact .inr (ofReal isValue)
    · cases isValue; exact .inl ⟨_, rfl⟩
    · exact .inr (ofReal isValue)
    · exact .inr (ofReal isValue)

section Start

variable {cs rest : List Char}

theorem digits?_eq_some {digits : List Char} (h : digits? cs = some (digits, rest)) :
    digits ++ rest = cs ∧ digits ≠ [] ∧ ∀ c ∈ digits, c.isDigit = true := by
  rw [digits?, List.span_eq_takeWhile_dropWhile] at h
  split at h
  · cases h
  · next found =>
    cases h
    have all : (cs.takeWhile Char.isDigit).all Char.isDigit = true := List.all_takeWhile
    exact ⟨List.takeWhile_append_dropWhile, fun none => found _ (by rw [none]),
      List.all_eq_true.mp all⟩

theorem suffix_of_digits? {digits : List Char} (h : digits? cs = some (digits, rest)) :
    rest <:+ cs :=
  (digits?_eq_some h).1 ▸ List.suffix_append _ _

theorem suffix_of_fraction? {fraction : Option (List Char)}
    (h : fraction? cs = some (fraction, rest)) : rest <:+ cs := by
  unfold fraction? at h
  split at h
  · obtain ⟨⟨digits, after⟩, read, made⟩ := Option.map_eq_some_iff.mp h
    cases made
    exact (suffix_of_digits? read).trans (List.suffix_cons _ _)
  · cases h; exact List.suffix_rfl

theorem suffix_of_exponentDigits? {exponent : Bool × List Char}
    (h : exponentDigits? cs = some (exponent, rest)) : rest <:+ cs := by
  unfold exponentDigits? at h
  split at h <;> obtain ⟨⟨digits, after⟩, read, made⟩ := Option.map_eq_some_iff.mp h <;> cases made
  · exact (suffix_of_digits? read).trans (List.suffix_cons _ _)
  · exact (suffix_of_digits? read).trans (List.suffix_cons _ _)
  · exact suffix_of_digits? read

theorem suffix_of_exponent? {exponent : Option (Bool × List Char)}
    (h : exponent? cs = some (exponent, rest)) : rest <:+ cs := by
  unfold exponent? at h
  split at h
  · obtain ⟨⟨digits, after⟩, read, made⟩ := Option.map_eq_some_iff.mp h
    cases made
    exact (suffix_of_exponentDigits? read).trans (List.suffix_cons _ _)
  · obtain ⟨⟨digits, after⟩, read, made⟩ := Option.map_eq_some_iff.mp h
    cases made
    exact (suffix_of_exponentDigits? read).trans (List.suffix_cons _ _)
  · cases h; exact List.suffix_rfl

theorem whole?_eq_some {digits : List Char} (h : whole? cs = some (digits, rest)) :
    digits? cs = some (digits, rest) := by
  unfold whole? at h
  split at h
  · cases h
  · exact h

theorem start_of_unsignedText? {negative : Bool} {text : NumberText}
    (h : unsignedText? negative cs = some (text, rest)) :
    ∃ c tail, cs = c :: tail ∧ c.isDigit = true ∧ rest <:+ tail := by
  unfold unsignedText? at h
  split at h
  · cases h
  · next digits first whole =>
    obtain ⟨split, found, all⟩ := digits?_eq_some (whole?_eq_some whole)
    obtain ⟨c, more, rfl⟩ := List.exists_cons_of_ne_nil found
    split at h
    · cases h
    · next fraction second fractional =>
      split at h
      · cases h
      · next exponent third scaled =>
        cases h
        have behind : rest <:+ first :=
          (suffix_of_exponent? scaled).trans (suffix_of_fraction? fractional)
        exact ⟨c, more ++ first, split.symm, all c List.mem_cons_self,
          behind.trans (List.suffix_append _ _)⟩

theorem start_of_number? {found : Json} (h : number? cs = some (found, rest)) :
    ∃ c tail, cs = c :: tail ∧ (c.isDigit = true ∨ c = '-') ∧ rest <:+ tail := by
  unfold number? at h
  split at h
  · cases h
  · next text after read =>
    obtain ⟨value, -, made⟩ := Option.map_eq_some_iff.mp h
    cases made
    unfold numberText? at read
    split at read
    · next tail =>
      obtain ⟨c, more, rfl, -, behind⟩ := start_of_unsignedText? read
      exact ⟨'-', c :: more, rfl, .inr rfl, behind.trans (List.suffix_cons _ _)⟩
    · obtain ⟨c, tail, same, digit, behind⟩ := start_of_unsignedText? read
      exact ⟨c, tail, same, .inl digit, behind⟩

end Start

end SubscriptionGateway.Json
