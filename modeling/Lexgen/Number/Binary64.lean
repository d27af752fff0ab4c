import Lexgen.Number.Decimal

/-!
64-bit binary floating point, in exact arithmetic. A real number is rounded to the nearest float,
and a float is named by the shortest decimal that rounds to it.
-/

namespace Lexgen

/-- The positive float `mantissa * 2 ^ exponent`. -/
structure Binary64 where
  mantissa : Nat
  exponent : Int
  deriving DecidableEq, Repr

namespace Binary64

/-- The least exponent of a float and the greatest. -/
def leastExponent : Int := -1074
def greatestExponent : Int := 971

/-- The least mantissa of 53 bits. Only floats with the least exponent have a smaller one. -/
def leastMantissa : Nat := 0x10000000000000

/-- The quotient rounded to the nearest integer, a tie to the even one. -/
def roundDiv (num den : Nat) : Nat :=
  let quotient := num / den
  let twice := 2 * (num % den)
  if twice < den then quotient
  else if den < twice then quotient + 1
  else quotient + quotient % 2

/-- The fraction `num / den` divided by `2 ^ exponent`. -/
def scaleDown (num den : Nat) (exponent : Int) : Nat × Nat :=
  if 0 ≤ exponent then (num, den <<< exponent.toNat) else (num <<< (-exponent).toNat, den)

/-- The greatest exponent at which the fraction has a mantissa of 53 bits. -/
def exponentOf (num den : Nat) : Int :=
  let guess : Int := (num.log2 : Int) - den.log2 - 52
  let (n, d) := scaleDown num den guess
  max leastExponent (if n < leastMantissa * d then guess - 1 else guess)

/-- The float nearest to a positive fraction; nothing if it is too great. The mantissa is nought
for a fraction that rounds to nought. -/
def ofFraction (num den : Nat) : Option Binary64 :=
  let exponent := exponentOf num den
  let (n, d) := scaleDown num den exponent
  let mantissa := roundDiv n d
  let float : Binary64 :=
    if mantissa = 2 * leastMantissa then ⟨leastMantissa, exponent + 1⟩ else ⟨mantissa, exponent⟩
  if greatestExponent < float.exponent then none else some float

/-- The least number of decimal places with which the fraction `num / den` reaches 1, up to
`fuel`. -/
def placesToOne (num den : Nat) : Nat → Nat
  | 0 => 0
  | fuel + 1 => if den ≤ num then 0 else placesToOne (num * 10) den fuel + 1

/-- The power of ten of the first digit of a positive fraction. -/
def firstPower (num den : Nat) : Int :=
  if den ≤ num then ((Nat.toDigits 10 (num / den)).length : Int) - 1
  else -(placesToOne num den 400 : Int)

/-- The reals that round to a float, in quarters of a unit of its last place: the float itself and
the two ends, which belong to the interval when the mantissa is even. -/
structure Interval where
  low : Nat
  centre : Nat
  high : Nat
  closed : Bool

def interval (f : Binary64) : Interval :=
  let low :=
    if f.mantissa = leastMantissa ∧ leastExponent < f.exponent then 4 * f.mantissa - 1
    else 4 * f.mantissa - 2
  ⟨low, 4 * f.mantissa, 4 * f.mantissa + 2, f.mantissa % 2 = 0⟩

/-- The coefficient of a decimal with the given last place that rounds to the float, if there is
one; of two, the nearer, and of two at the same distance the even one. -/
def coefficientAt? (f : Binary64) (place : Int) : Option Nat :=
  let i := f.interval
  let quarter := f.exponent - 2
  -- Both sides of a comparison are multiplied by the same positive number.
  let ours (x : Nat) : Nat := (x * Nat.pow 10 (-place).toNat) <<< quarter.toNat
  let theirs (c : Nat) : Nat := (c * Nat.pow 10 place.toNat) <<< (-quarter).toNat
  let inside (c : Nat) : Bool :=
    (ours i.low < theirs c && theirs c < ours i.high) ||
      (i.closed && (theirs c == ours i.low || theirs c == ours i.high))
  let below := ours i.centre / theirs 1
  let above := below + 1
  match inside below, inside above with
  | true, true =>
    let toBelow := ours i.centre - theirs below
    let toAbove := theirs above - ours i.centre
    some (if toBelow < toAbove ∨ (toBelow = toAbove ∧ below % 2 = 0) then below else above)
  | true, false => some below
  | false, true => some above
  | false, false => none

/-- The shortest decimal that rounds to the float, trying one place after another; `fuel` places
are left. -/
def shortestFrom (f : Binary64) (place : Int) : Nat → Nat × Int
  | 0 => (0, 0)
  | fuel + 1 =>
    match coefficientAt? f place with
    | some c => (c, place)
    | none => shortestFrom f (place - 1) fuel

/-- The shortest decimal that rounds to a positive float. Seventeen digits always suffice. -/
def shortest (f : Binary64) : Nat × Int :=
  let (num, den) := scaleDown f.mantissa 1 (-f.exponent)
  shortestFrom f (firstPower num den) 18

end Binary64

namespace Decimal

/-- The decimal that names the float nearest to a given decimal: the shortest one that rounds to
the same float. Nothing if no float is large enough. -/
def toFloat? (d : Decimal) : Option NormalDecimal :=
  let power := d.exponent + (Nat.toDigits 10 d.coefficient).length
  if d.coefficient = 0 ∨ power < -400 then some (.zero d.negative)
  else if 400 < power then none
  else
    let num := d.coefficient * Nat.pow 10 d.exponent.toNat
    let den := Nat.pow 10 (-d.exponent).toNat
    (Binary64.ofFraction num den).map fun float =>
      if float.mantissa = 0 then .zero d.negative
      else
        let (coefficient, exponent) := float.shortest
        normalize ⟨d.negative, coefficient, exponent⟩

end Decimal

end Lexgen
