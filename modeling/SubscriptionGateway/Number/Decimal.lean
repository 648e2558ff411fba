import SubscriptionGateway.Number.Binary64

/-! Decimal text of binary64 numbers: the fewest digits that read back, of equally short ones the
nearest to the number and of two equally near ones the even one, laid out positionally in a middle
range and with an exponent outside it. And unsigned integers out of text: an optional plus sign and
at least one decimal digit of ASCII. -/
namespace SubscriptionGateway

/-- Digits and a power of ten: the number `digits * 10 ^ exponent`. -/
structure Decimal where
  digits : Nat
  exponent : Int
deriving DecidableEq, Repr

namespace Magnitude

/-- Twice-doubled distance from the number to the lower end of the reals that round to it. -/
def gapBelow (x : Magnitude) : Nat :=
  if x.significand = Nat.pow 2 52 ∧ 0 < x.scale then Nat.pow 2 x.scale else 2 * Nat.pow 2 x.scale

/-- Twice-doubled distance from the number to the upper end of the reals that round to it. -/
def gapAbove (x : Magnitude) : Nat := 2 * Nat.pow 2 x.scale

/-- Whether `count * 10 ^ exponent` rounds to the number. The ends of the interval do so exactly
when the significand is even. -/
def admits (x : Magnitude) (d : Decimal) : Bool :=
  let up := Nat.pow 10 d.exponent.toNat
  let down := Nat.pow 10 (-d.exponent).toNat
  let candidate := 4 * d.digits * up * unit
  let low := (4 * x.units - x.gapBelow) * down
  let high := (4 * x.units + x.gapAbove) * down
  if x.significand % 2 = 0 then low ≤ candidate && candidate ≤ high
  else low < candidate && candidate < high

/-- The decimal exponent of the leading digit of a number that is not zero. -/
def leadingExponent (x : Magnitude) : Int :=
  ((Nat.toDigits 10 (x.units * Nat.pow 10 400 / unit)).length : Int) - 401

/-- The neighbour of the number from below on the grid of the powers `10 ^ exponent`. -/
def gridFloor (x : Magnitude) (exponent : Int) : Nat :=
  x.units * Nat.pow 10 (-exponent).toNat / (unit * Nat.pow 10 exponent.toNat)

/-- Whether the number is rounded to its upper neighbour on the grid: the nearer of the two, and the
one with the even digit if the number lies in the middle. -/
def roundsUp (x : Magnitude) (exponent : Int) : Bool :=
  let step := unit * Nat.pow 10 exponent.toNat
  let excess := 2 * (x.units * Nat.pow 10 (-exponent).toNat % step)
  if excess = step then x.gridFloor exponent % 2 == 1 else step < excess

/-- The grid neighbour that reads back, if one of the two does. -/
def onGrid? (x : Magnitude) (exponent : Int) : Option Decimal :=
  let below : Decimal := ⟨x.gridFloor exponent, exponent⟩
  let above : Decimal := ⟨x.gridFloor exponent + 1, exponent⟩
  match x.admits below, x.admits above with
  | true, true => some (if x.roundsUp exponent then above else below)
  | true, false => some below
  | false, true => some above
  | false, false => none

/-- The first hit on grids of ever more digits; seventeen always suffice. -/
def search (x : Magnitude) (lead : Int) : Nat → Nat → Decimal
  | 0, taken => ⟨x.gridFloor (lead - taken), lead - taken⟩
  | more + 1, taken =>
    match x.onGrid? (lead - taken) with
    | some d => d
    | none => search x lead more (taken + 1)

def shortest (x : Magnitude) : Decimal :=
  if x.isZero then ⟨0, 0⟩ else search x x.leadingExponent 17 0

end Magnitude

/-- Where positional notation begins and ends, by the exponent of the leading digit. -/
structure Layout where
  leastPositional : Int
  greatestPositional : Int

/-- Numbers from `1e-5` up to, but not including, `1e16` are written positionally. -/
def Layout.json : Layout := ⟨-5, 15⟩

namespace Decimal

/-- The digits without the zeros at their end, and the exponent of the first of them. -/
def significant (d : Decimal) : List Char × Int :=
  let all := Nat.toDigits 10 d.digits
  let kept := (all.reverse.dropWhile (· == '0')).reverse
  (if kept.isEmpty then ['0'] else kept, d.exponent + all.length - 1)

/-- Positional notation, with at least one digit on each side of the point. -/
def positional (digits : List Char) (lead : Int) : List Char :=
  if lead < 0 then
    '0' :: '.' :: List.replicate ((-lead).toNat - 1) '0' ++ digits
  else
    let whole := lead.toNat + 1
    let padded := digits ++ List.replicate (whole - digits.length) '0'
    let fraction := digits.drop whole
    padded.take whole ++ '.' :: (if fraction.isEmpty then ['0'] else fraction)

/-- One digit before the point, the point only if digits follow, and a signed exponent. -/
def scientific (digits : List Char) (lead : Int) : List Char :=
  let mantissa := match digits with
    | first :: second :: rest => first :: '.' :: second :: rest
    | short => short
  mantissa ++ 'e' :: (if lead < 0 then '-' else '+') :: Nat.toDigits 10 lead.natAbs

def text (layout : Layout) (d : Decimal) : List Char :=
  let (digits, lead) := d.significant
  if layout.leastPositional ≤ lead ∧ lead ≤ layout.greatestPositional then positional digits lead
  else scientific digits lead

end Decimal

/-- Always with a point or an exponent, so that the text is not taken for an integer. -/
def Binary64.text (x : Binary64) : List Char :=
  let digits := Decimal.text Layout.json x.magnitude.shortest
  if x.negative then '-' :: digits else digits

/-- The digits of a decimal numeral after those that have been read. -/
def digitsFrom (value : Nat) (digits : List Char) : Nat :=
  digits.foldl (fun value c => 10 * value + (c.toNat - '0'.toNat)) value

def isDecimalDigit (c : Char) : Bool := decide ('0' ≤ c) && decide (c ≤ '9')

/-- Text without its plus sign, if it has one. -/
def withoutPlus : List Char → List Char
  | '+' :: rest => rest
  | text => text

/-- The value of a numeral below `bound`; leading zeros are fine. -/
def readUnsigned? (bound : Nat) (text : String) : Option Nat :=
  let digits := withoutPlus text.toList
  if digits.isEmpty || !digits.all isDecimalDigit then none
  else
    let value := digitsFrom 0 digits
    if value < bound then some value else none

/-- The value of a numeral between two bounds, both included. -/
def readWithin? (bound least most : Nat) (text : String) : Option Nat :=
  (readUnsigned? bound text).filter fun value => least ≤ value && value ≤ most

theorem readWithin?_bounds {bound least most value : Nat} {text : String}
    (h : readWithin? bound least most text = some value) : least ≤ value ∧ value ≤ most := by
  have within := (Option.filter_eq_some_iff.1 h).2
  simpa using within

end SubscriptionGateway
