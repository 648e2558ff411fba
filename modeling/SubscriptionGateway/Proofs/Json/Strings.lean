import SubscriptionGateway.Json.Printer
import SubscriptionGateway.Json.Reader

/-! Text in quotes: the spellings that a reader accepts, and the one that is written. -/
namespace SubscriptionGateway.Json

/-- The characters up to the closing quote spell a text, and the rest is what follows the quote. -/
inductive Spells : List Char → List Char → List Char → Prop where
  | stop (rest : List Char) : Spells ('"' :: rest) [] rest
  | plain {c : Char} {cs text rest : List Char} (quote : c ≠ '"') (escape : c ≠ '\\')
      (printed : 0x20 ≤ c.toNat) (later : Spells cs text rest) : Spells (c :: cs) (c :: text) rest
  | short {e c : Char} {cs text rest : List Char} (known : shortEscape? e = some c)
      (later : Spells cs text rest) : Spells ('\\' :: e :: cs) (c :: text) rest
  | unit {a b c d : Char} {code : Nat} {cs text rest : List Char}
      (digits : codeUnit? a b c d = some code) (whole : isHighSurrogate code = false)
      (start : isLowSurrogate code = false) (later : Spells cs text rest) :
      Spells ('\\' :: 'u' :: a :: b :: c :: d :: cs) (Char.ofNat code :: text) rest
  | pair {a b c d e f g h : Char} {high low : Nat} {cs text rest : List Char}
      (first : codeUnit? a b c d = some high) (isHigh : isHighSurrogate high = true)
      (second : codeUnit? e f g h = some low) (isLow : isLowSurrogate low = true)
      (later : Spells cs text rest) :
      Spells ('\\' :: 'u' :: a :: b :: c :: d :: '\\' :: 'u' :: e :: f :: g :: h :: cs)
        (pairedChar high low :: text) rest

theorem prepend_eq_some {c : Char} {read : Option (List Char × List Char)} {text rest : List Char}
    (h : prepend c read = some (text, rest)) :
    ∃ tail, text = c :: tail ∧ read = some (tail, rest) := by
  obtain ⟨⟨tail, after⟩, same, made⟩ := Option.map_eq_some_iff.mp h
  cases made
  exact ⟨tail, rfl, same⟩

theorem spells_of_stringBody {cs text rest : List Char} (h : stringBody cs = some (text, rest)) :
    Spells cs text rest := by
  fun_induction stringBody cs generalizing text with
  | case2 => cases h; exact .stop _
  | case5 a b c d high first isHigh e f g h' cs low second isLow ih =>
    obtain ⟨tail, rfl, read⟩ := prepend_eq_some h
    exact .pair first isHigh second isLow (ih read)
  | case9 a b c d cs code digits whole start ih =>
    obtain ⟨tail, rfl, read⟩ := prepend_eq_some h
    exact .unit digits (by simpa using whole) (by simpa using start) (ih read)
  | case11 e cs other c known ih =>
    obtain ⟨tail, rfl, read⟩ := prepend_eq_some h
    exact .short known (ih read)
  | case13 c cs quote _ escape printed ih =>
    obtain ⟨tail, rfl, read⟩ := prepend_eq_some h
    have unescaped : c ≠ '\\' := by
      rintro rfl
      cases cs with
      | nil => simp [stringBody] at read
      | cons e cs => exact escape e cs rfl rfl
    exact .plain quote unescaped (Nat.not_lt.mp printed) (ih read)
  | _ => cases h

theorem stringBody_of_spells {cs text rest : List Char} (h : Spells cs text rest) :
    stringBody cs = some (text, rest) := by
  induction h with
  | stop rest => simp [stringBody]
  | plain quote escape printed later ih =>
    simp [stringBody, escape, Nat.not_lt.mpr printed, ih, prepend]
  | @short e c cs text rest known later ih =>
    have other : e ≠ 'u' := by rintro rfl; simp [shortEscape?] at known
    simp [stringBody, other, known, ih, prepend]
  | unit digits whole start later ih => simp [stringBody, digits, whole, start, ih, prepend]
  | pair first isHigh second isLow later ih =>
    simp [stringBody, first, isHigh, second, isLow, ih, prepend]

theorem Spells.length_lt {cs text rest : List Char} (h : Spells cs text rest) :
    rest.length < cs.length := by
  induction h with
  | stop => simp
  | plain quote escape printed later ih | short known later ih
  | unit digits whole start later ih | pair first isHigh second isLow later ih =>
    simp only [List.length_cons]
    omega

theorem spells_escape (c : Char) {cs text rest : List Char} (later : Spells cs text rest) :
    Spells (escape c ++ cs) (c :: text) rest := by
  unfold escape
  split
  · exact .short rfl later
  · exact .short rfl later
  · exact .short rfl later
  · exact .short rfl later
  · exact .short rfl later
  · exact .short rfl later
  · exact .short rfl later
  · next quote escape _ _ _ _ _ =>
    split
    · next control =>
      have high : hexDigit? (hexDigit (c.toNat / 16)) = some (c.toNat / 16) :=
        hexDigit?_hexDigit _ (by omega)
      have low : hexDigit? (hexDigit (c.toNat % 16)) = some (c.toNat % 16) :=
        hexDigit?_hexDigit _ (by omega)
      have code : codeUnit? '0' '0' (hexDigit (c.toNat / 16)) (hexDigit (c.toNat % 16)) =
          some c.toNat := by
        have zero : hexDigit? '0' = some 0 := by decide
        simp only [codeUnit?, zero, high, low, Option.some.injEq]
        omega
      have spelled := Spells.unit code (by simp [isHighSurrogate]; omega)
        (by simp [isLowSurrogate]; omega) later
      rwa [Char.ofNat_toNat] at spelled
    · next printed => exact .plain quote escape (by omega) later

theorem spells_quoted (text rest : List Char) :
    Spells (text.flatMap escape ++ '"' :: rest) text rest := by
  induction text with
  | nil => exact .stop rest
  | cons c text ih =>
    rw [List.flatMap_cons, List.append_assoc]
    exact spells_escape c ih

theorem quote_append (text : String) (rest : List Char) :
    ∃ body, quote text ++ rest = '"' :: body ∧ stringBody body = some (text.toList, rest) := by
  refine ⟨text.toList.flatMap escape ++ '"' :: rest, by simp [quote], ?_⟩
  exact stringBody_of_spells (spells_quoted text.toList rest)

end SubscriptionGateway.Json
