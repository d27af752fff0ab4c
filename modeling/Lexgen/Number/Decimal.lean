namespace Lexgen

/-- The number `coefficient * 10 ^ exponent`, negated if `negative`. -/
structure Decimal where
  negative : Bool
  coefficient : Nat
  exponent : Int
  deriving DecidableEq, Repr

namespace Decimal

/-- Whether the coefficient does not end in a nought; nought itself has exponent 0. -/
def IsNormal (d : Decimal) : Prop :=
  d.coefficient % 10 ≠ 0 ∨ d.coefficient = 0 ∧ d.exponent = 0

instance (d : Decimal) : Decidable d.IsNormal :=
  inferInstanceAs (Decidable (d.coefficient % 10 ≠ 0 ∨ d.coefficient = 0 ∧ d.exponent = 0))

/-- Moves up to `fuel` trailing noughts of the coefficient into the exponent. -/
def dropNoughts : Nat → Decimal → Decimal
  | 0, d => d
  | fuel + 1, d =>
    if d.coefficient % 10 = 0 then
      dropNoughts fuel ⟨d.negative, d.coefficient / 10, d.exponent + 1⟩
    else d

theorem dropNoughts_mod_ne_zero {fuel : Nat} {d : Decimal} (hne : d.coefficient ≠ 0)
    (hfuel : d.coefficient < Nat.pow 10 fuel) : (dropNoughts fuel d).coefficient % 10 ≠ 0 := by
  induction fuel generalizing d with
  | zero => exact absurd (Nat.lt_one_iff.mp hfuel) hne
  | succ fuel ih =>
    have hpow : Nat.pow 10 (fuel + 1) = Nat.pow 10 fuel * 10 := rfl
    rw [dropNoughts]
    split
    · apply ih
      · show d.coefficient / 10 ≠ 0
        omega
      · show d.coefficient / 10 < Nat.pow 10 fuel
        omega
    · assumption

end Decimal

/-- A decimal in the one form that is normal. -/
structure NormalDecimal extends Decimal where
  normal : toDecimal.IsNormal
  deriving DecidableEq, Repr

def NormalDecimal.zero (negative : Bool) : NormalDecimal := ⟨⟨negative, 0, 0⟩, .inr ⟨rfl, rfl⟩⟩

namespace Decimal

theorem lt_ten_pow_length_toDigits (n : Nat) : n < Nat.pow 10 (Nat.toDigits 10 n).length :=
  (Nat.length_toDigits_le_iff (by decide) Nat.length_toDigits_pos).mp (Nat.le_refl _)

/-- The same number in normal form. -/
def normalize (d : Decimal) : NormalDecimal :=
  if h : d.coefficient = 0 then .zero d.negative
  else
    ⟨dropNoughts (Nat.toDigits 10 d.coefficient).length d,
      .inl (dropNoughts_mod_ne_zero h (lt_ten_pow_length_toDigits _))⟩

/-- How decimals are laid out: positionally when the power of ten of the first digit lies between
`leastPower` and `greatestPower`, else with an exponent. -/
structure Layout where
  leastPower : Int
  greatestPower : Int

/-- Decimals in JSON text and in generated code. -/
def layout : Layout := ⟨-5, 15⟩

def noughts (n : Int) : List Char := List.replicate n.toNat '0'

/-- Positional notation, always with a fractional part. -/
def positional (digits : List Char) (exponent : Int) : List Char :=
  if 0 ≤ exponent then digits ++ noughts exponent ++ ['.', '0']
  else
    let whole := (digits.length : Int) + exponent
    if 0 < whole then digits.take whole.toNat ++ '.' :: digits.drop whole.toNat
    else ['0', '.'] ++ noughts (-whole) ++ digits

/-- One digit, the others after a point, and the power of ten with its sign. -/
def scientific (digits : List Char) (power : Int) : List Char :=
  let mantissa :=
    match digits with
    | first :: rest@(_ :: _) => first :: '.' :: rest
    | _ => digits
  let sign := if power < 0 then '-' else '+'
  mantissa ++ 'e' :: sign :: Nat.toDigits 10 power.natAbs

/-- The text of a decimal without its sign. -/
def unsignedChars (d : Decimal) : List Char :=
  let digits := Nat.toDigits 10 d.coefficient
  let power := d.exponent + digits.length - 1
  if d.coefficient = 0 then ['0', '.', '0']
  else if layout.leastPower ≤ power ∧ power ≤ layout.greatestPower then
    positional digits d.exponent
  else scientific digits power

def chars (d : Decimal) : List Char :=
  if d.negative then '-' :: d.unsignedChars else d.unsignedChars

end Decimal

end Lexgen
