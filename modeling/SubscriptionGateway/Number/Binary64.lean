/-! Finite binary64 numbers in exact integer arithmetic. A magnitude is a significand below
`2 ^ 53` times a power of two, counted in units of `2 ^ -1074`, the smallest positive number of the
format; `nearest` rounds a ratio of natural numbers to it. -/
namespace SubscriptionGateway

/-- The magnitude `significand * 2 ^ scale / 2 ^ 1074`. -/
structure Magnitude where
  significand : Nat
  scale : Nat
deriving DecidableEq, Repr, Inhabited

/-- A finite number with its sign, so that zero has two forms. -/
structure Binary64 where
  negative : Bool
  magnitude : Magnitude
deriving DecidableEq, Repr, Inhabited

namespace Magnitude

/-- What `2 ^ scale` is counted in: the reciprocal of the smallest positive number. -/
def unit : Nat := Nat.pow 2 1074

def zero : Magnitude := ⟨0, 0⟩

/-- The value in units of `2 ^ -1074`. -/
def units (x : Magnitude) : Nat := x.significand * Nat.pow 2 x.scale

def isZero (x : Magnitude) : Bool := x.significand == 0

/-- The fields of the format: a full significand unless the scale is the least one. -/
def Valid (x : Magnitude) : Prop :=
  x.significand < Nat.pow 2 53 ∧ (Nat.pow 2 52 ≤ x.significand ∨ x.scale = 0) ∧ x.scale ≤ 2045

instance (x : Magnitude) : Decidable x.Valid := by unfold Valid; infer_instance

/-- Division to the nearest natural number; of two equally near ones the even one. -/
def divideToEven (num den : Nat) : Nat :=
  let floor := num / den
  let twice := 2 * (num % den)
  if twice < den then floor
  else if den < twice then floor + 1
  else if floor % 2 = 0 then floor else floor + 1

/-- The magnitude nearest to `num / den`, ties to the even significand; none when it is too large
for the format. -/
def nearest (num den : Nat) : Option Magnitude :=
  let total := num * unit
  let floor := total / den
  let scale := if floor < Nat.pow 2 53 then 0 else floor.log2 - 52
  let rounded := divideToEven total (den * Nat.pow 2 scale)
  let result : Magnitude :=
    if rounded = Nat.pow 2 53 then ⟨Nat.pow 2 52, scale + 1⟩ else ⟨rounded, scale⟩
  if result.scale ≤ 2045 then some result else none

def mul (x y : Magnitude) : Option Magnitude := nearest (x.units * y.units) (unit * unit)

/-- Division by a magnitude of at least one, which cannot overflow. -/
def div (x y : Magnitude) : Magnitude := (nearest x.units y.units).getD zero

/-- The magnitude nearest to a power of ten, for exponents up to 308. -/
def powerOfTen (n : Nat) : Magnitude := (nearest (Nat.pow 10 n) 1).getD zero

/-- Multiplication by a power of ten in one rounding; none on overflow. -/
def enlarge (x : Magnitude) (n : Nat) : Option Magnitude :=
  if x.isZero then some x
  else if n ≤ 308 then x.mul (powerOfTen n)
  else none

/-- Division by a power of ten, one rounding for each 308 places. -/
def shrink (x : Magnitude) (n : Nat) : Magnitude :=
  if n ≤ 308 then x.div (powerOfTen n)
  else if x.isZero then x
  else shrink (x.div (powerOfTen 308)) (n - 308)
termination_by n

/-- A 64-bit significand times a power of ten. The significand is rounded first and the scaling
afterwards, so the result can miss the nearest number by a unit in the last place. -/
def ofDecimal (significand : Nat) (exponent : Int) : Option Magnitude :=
  match nearest significand 1 with
  | none => none
  | some x => if 0 ≤ exponent then x.enlarge exponent.toNat else some (x.shrink (-exponent).toNat)

end Magnitude

end SubscriptionGateway
