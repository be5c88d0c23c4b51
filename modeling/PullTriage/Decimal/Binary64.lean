/-!
  PullTriage.Decimal.Binary64: finite binary64 numbers as exact data.

  A finite double is a sign, a mantissa and a power of two, so that reading and printing a number
  is arithmetic on `Nat` and `Int` and two numbers are equal exactly when their fields are.

  Main definitions:
    * `Binary64.ofRatio?`: the double nearest to a quotient, ties to the even mantissa, and
      `none` past the largest double;
    * `Binary64.ofDecimal?`: the double nearest to `digits * 10 ^ exponent`;
    * `Binary64.mul?`, `Binary64.div?`: one operation, rounded once.
-/

namespace PullTriage.Decimal

/-- A finite double: `± mantissa * 2 ^ exponent`. In the values built here the exponent is at least
`-1074`, the mantissa is below `2 ^ 53`, and at least `2 ^ 52` unless the exponent is `-1074`. -/
structure Binary64 where
  negative : Bool
  mantissa : Nat
  exponent : Int
  deriving DecidableEq, Repr, Inhabited

namespace Binary64

/-! ## §1. Rounding a quotient -/

/-- The least exponent of a double; the smallest positive one is `2 ^ minExponent`. -/
def minExponent : Int := -1074

/-- The greatest exponent of a finite double with a full mantissa. -/
def maxExponent : Int := 971

/-- Zero with a sign. -/
def zero (negative : Bool) : Binary64 := ⟨negative, 0, minExponent⟩

/-- The natural number nearest to `n / d`; a tie goes to the even one. -/
def roundQuotient (n d : Nat) : Nat :=
  let q := n / d
  let r := n % d
  if 2 * r < d ∨ (2 * r = d ∧ q % 2 = 0) then q else q + 1

/-- The quotient `n / d` divided by `2 ^ e`, as a new quotient. -/
def scaleDown (n d : Nat) (e : Int) : Nat × Nat :=
  if 0 ≤ e then (n, d * Nat.pow 2 e.toNat) else (n * Nat.pow 2 (-e).toNat, d)

/-- The exponent at which `n / d` has a 53-bit mantissa, or the least exponent if that is greater. -/
def fittingExponent (n d : Nat) : Int :=
  let high : Int := (n.log2 : Int) - d.log2 - 52
  let (n', d') := scaleDown n d (high - 1)
  max minExponent (if n' / d' < Nat.pow 2 53 then high - 1 else high)

/-- The double nearest to `n / d`, ties to even; `none` when that is past the largest double. -/
def ofRatio? (negative : Bool) (n d : Nat) : Option Binary64 :=
  if n = 0 then some (zero negative) else
  let e := fittingExponent n d
  let (n', d') := scaleDown n d e
  let m := roundQuotient n' d'
  let (m, e) := if m = Nat.pow 2 53 then (Nat.pow 2 52, e + 1) else (m, e)
  if e > maxExponent then none else some ⟨negative, m, e⟩

/-! ## §2. Decimals and single operations -/

/-- The double nearest to `digits * 10 ^ exponent`. Exponents far outside the range of doubles are
decided without computing the power. -/
def ofDecimal? (negative : Bool) (digits : Nat) (exponent : Int) : Option Binary64 :=
  if digits = 0 then some (zero negative)
  else if exponent > 400 then none
  else if exponent < -400 - (digits.log2 : Int) then some (zero negative)
  else if 0 ≤ exponent then ofRatio? negative (digits * Nat.pow 10 exponent.toNat) 1
  else ofRatio? negative digits (Nat.pow 10 (-exponent).toNat)

/-- The magnitude as a quotient of natural numbers. -/
def ratio (x : Binary64) : Nat × Nat :=
  if 0 ≤ x.exponent then (x.mantissa * Nat.pow 2 x.exponent.toNat, 1)
  else (x.mantissa, Nat.pow 2 (-x.exponent).toNat)

/-- The rounded product. -/
def mul? (x y : Binary64) : Option Binary64 :=
  let (a, b) := x.ratio
  let (c, d) := y.ratio
  ofRatio? (x.negative != y.negative) (a * c) (b * d)

/-- The rounded quotient; `none` when the divisor is zero. -/
def div? (x y : Binary64) : Option Binary64 :=
  if y.mantissa = 0 then none else
  let (a, b) := x.ratio
  let (c, d) := y.ratio
  ofRatio? (x.negative != y.negative) (a * d) (b * c)

/-- The same magnitude with the sign given. -/
def withSign (x : Binary64) (negative : Bool) : Binary64 := { x with negative }

/-- Dividing by one and a half half-units: the tie of `5 / 2` goes to the even `2`. -/
example : roundQuotient 5 2 = 2 ∧ roundQuotient 7 2 = 4 ∧ roundQuotient 8 3 = 3 := by decide

end Binary64
end PullTriage.Decimal
