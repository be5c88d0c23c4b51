import PullTriage.Decimal.Binary64

/-!
  PullTriage.Decimal.Shortest: the fewest decimal digits that read back.

  Every double stands for an interval of reals that round to it. On the grid of `n`-digit decimals
  only the two neighbours of the value can lie in that interval, so it is enough to try them for
  `n = 1, 2, … 17`: the first grid with a hit has the fewest digits, and of two hits the nearer is
  taken. All comparisons are between natural numbers.
-/

namespace PullTriage.Decimal

/-- A positive decimal `digits * 10 ^ exponent`. -/
structure Scientific where
  digits : Nat
  exponent : Int
  deriving DecidableEq, Repr, Inhabited

namespace Scientific

/-- How many decimal digits a number is written with. -/
def width (n : Nat) : Nat := (Nat.toDigits 10 n).length

/-- The same decimal without trailing zero digits. -/
def trim (s : Scientific) : Scientific := go (width s.digits) s
where
  go : Nat → Scientific → Scientific
    | 0, s => s
    | fuel + 1, s =>
      if s.digits % 10 = 0 ∧ s.digits ≠ 0 then go fuel ⟨s.digits / 10, s.exponent + 1⟩ else s

end Scientific

namespace Binary64

/-- The exponent of the leading decimal digit of the positive quotient `n / d`. -/
def leadingExponent (n d : Nat) : Int :=
  if d ≤ n then (Scientific.width (n / d) : Int) - 1
  else -(Scientific.width ((d + n - 1) / n - 1) : Int)

/-- The interval of reals that round to a double, with its ends and the double itself as multiples
of one quarter of the unit in the last place. The ends belong to it when the mantissa is even. -/
structure Rounding where
  low : Nat
  value : Nat
  high : Nat
  closed : Bool

/-- The rounding interval of a non-zero double; it is narrower below a power of two. -/
def rounding (x : Binary64) : Rounding where
  low := 4 * x.mantissa - (if x.mantissa = Nat.pow 2 52 ∧ x.exponent > minExponent then 1 else 2)
  value := 4 * x.mantissa
  high := 4 * x.mantissa + 2
  closed := x.mantissa % 2 = 0

/-- The better of the two neighbours of `x` on the grid of multiples of `10 ^ k`, if one of them
rounds to `x`. -/
def onGrid? (x : Binary64) (k : Int) : Option Scientific :=
  let r := x.rounding
  -- a multiple `d` of `10 ^ k` is compared with `v` quarters of a unit as `d * p` with `v * q`
  let e := x.exponent - 2
  let p := (if 0 ≤ k then Nat.pow 10 k.toNat else 1) * (if 0 ≤ e then 1 else Nat.pow 2 (-e).toNat)
  let q := (if 0 ≤ k then 1 else Nat.pow 10 (-k).toNat) * (if 0 ≤ e then Nat.pow 2 e.toNat else 1)
  let fits (d : Nat) : Bool :=
    if r.closed then r.low * q ≤ d * p && d * p ≤ r.high * q
    else r.low * q < d * p && d * p < r.high * q
  let below := r.value * q / p
  let above := below + 1
  let gapBelow := r.value * q - below * p
  let gapAbove := above * p - r.value * q
  match fits below && below != 0, fits above with
  | true, true =>
    if gapBelow < gapAbove ∨ (gapBelow = gapAbove ∧ below % 2 = 0) then some ⟨below, k⟩
    else some ⟨above, k⟩
  | true, false => some ⟨below, k⟩
  | false, true => some ⟨above, k⟩
  | false, false => none

/-- The shortest decimal that reads back as the magnitude of a non-zero double, without trailing
zeros. -/
def shortest (x : Binary64) : Scientific :=
  let (n, d) := x.ratio
  let lead := leadingExponent n d
  let hit := (List.range 17).findSome? fun (i : Nat) => x.onGrid? (lead - i)
  (hit.getD ⟨x.mantissa, x.exponent⟩).trim

end Binary64
end PullTriage.Decimal
