import PackageLint.Number.Rounding

/-!
# Binary floating point of 64 bits

A finite number is `± mantissa · 2 ^ exponent` with a mantissa below `2 ^ 53` and an exponent of
at least `-1074`; the mantissa is at least `2 ^ 52` unless the exponent is the least one. All
operations are exact on natural numbers and round once, to the nearest number with a tie going to
the even mantissa.
-/

namespace PackageLint

/-- A floating point number. -/
inductive Binary64
  /-- The number `± mantissa · 2 ^ exponent`. -/
  | finite (negative : Bool) (mantissa : Nat) (exponent : Int)
  /-- A number beyond all finite ones. -/
  | infinite (negative : Bool)
  /-- No number. -/
  | nan
  deriving DecidableEq, Repr

namespace Binary64

open Number

/-- Zero with a sign. -/
def signedZero (negative : Bool) : Binary64 := finite negative 0 (-1074)

/-- The number zero. -/
def zero : Binary64 := signedZero false

/-- The number nearest to `± num / den`. -/
def ofRatio (negative : Bool) (num den : Nat) : Binary64 :=
  if num = 0 then signedZero negative
  else
    let first : Int := max ((num.log2 : Int) - den.log2 - 53) (-1074)
    let (n, d) := scaleDown 2 num den first
    -- The first exponent is too small by one at most.
    let exponent := if n / d < Nat.pow 2 53 then first else first + 1
    let (n, d) := scaleDown 2 num den exponent
    let mantissa := roundDiv n d
    -- Rounding up may lead to the next power of two.
    let (mantissa, exponent) :=
      if mantissa = Nat.pow 2 53 then (Nat.pow 2 52, exponent + 1) else (mantissa, exponent)
    if 971 < exponent then infinite negative else finite negative mantissa exponent

/-- The number nearest to `± digits · 10 ^ exponent`. -/
def ofDecimal (negative : Bool) (digits : Nat) (exponent : Int) : Binary64 :=
  let magnitude := digitCount digits + exponent
  -- Far beyond the range of the format no power of ten is needed.
  if digits = 0 ∨ magnitude < -330 then signedZero negative
  else if 320 < magnitude then infinite negative
  else
    let (num, den) := scaleDown 10 digits 1 (-exponent)
    ofRatio negative num den

/-- The number nearest to a whole number. -/
def ofInt (n : Int) : Binary64 := ofRatio (n < 0) n.natAbs 1

/-- The sign of a number; a number that is no number has none. -/
def isNegative : Binary64 → Bool
  | finite negative _ _ | infinite negative => negative
  | nan => false

/-- The distance from zero as a numerator and a denominator; zero where there is none. -/
def toRatio : Binary64 → Nat × Nat
  | finite _ mantissa exponent => scaleDown 2 mantissa 1 (-exponent)
  | _ => (0, 1)

/-- Not zero; what is no number counts as not zero. -/
def isNonzero : Binary64 → Bool
  | finite _ mantissa _ => mantissa != 0
  | _ => true

/-- Greater than zero. -/
def isPositive : Binary64 → Bool
  | finite negative mantissa _ => !negative && mantissa != 0
  | infinite negative => !negative
  | nan => false

/-- The number with the other sign. -/
def neg : Binary64 → Binary64
  | finite negative mantissa exponent => finite (!negative) mantissa exponent
  | infinite negative => infinite (!negative)
  | nan => nan

/-- The mantissa with its sign. -/
def signedMantissa (negative : Bool) (mantissa : Nat) : Int :=
  if negative then -(mantissa : Int) else mantissa

/-- The number nearest to `n · 2 ^ exponent`. -/
def ofScaled (n : Int) (exponent : Int) : Binary64 :=
  let (num, den) := scaleDown 2 n.natAbs 1 (-exponent)
  ofRatio (n < 0) num den

/-- The sum of two finite numbers; with another operand the sum is that operand. -/
def add : Binary64 → Binary64 → Binary64
  | finite a m e, finite b n f =>
    let low := min e f
    ofScaled
      (signedMantissa a (m * Nat.pow 2 (e - low).toNat) +
        signedMantissa b (n * Nat.pow 2 (f - low).toNat))
      low
  | finite _ _ _, y => y
  | x, _ => x

/-- The product of two finite numbers; with another operand the product is that operand. -/
def mul : Binary64 → Binary64 → Binary64
  | finite a m e, finite b n f =>
    match ofScaled (m * n) (e + f) with
    | finite _ k g => finite (a != b) k g
    | infinite _ => infinite (a != b)
    | nan => nan
  | finite _ _ _, y => y
  | x, _ => x

/-- Zero is neither positive nor negative as a number, whatever its sign. -/
@[simp] theorem isPositive_signedZero (negative : Bool) :
    (signedZero negative).isPositive = false := by
  cases negative <;> rfl

end Binary64

end PackageLint
