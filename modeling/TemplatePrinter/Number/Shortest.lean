import TemplatePrinter.Number.Binary64
/-!
# Shortest decimals

The shortest decimal of a number is the decimal with the fewest digits among those that round to
it, and of those the nearest. The reals that round to a number form an interval, its `Span`. The
decimals with a fixed exponent form a grid, and on one grid only the two neighbours of the number
can be nearest, so the search asks both neighbours on ever finer grids and stops at the first hit.
All arithmetic is on natural numbers over one denominator.
-/

namespace TemplatePrinter

/-- The decimal `coefficient * 10 ^ exponent`. -/
structure Decimal where
  coefficient : Nat
  exponent : Int
deriving DecidableEq

/-- What to take when two shortest decimals are equally near. -/
inductive Tie where
  | up
  | even
deriving DecidableEq

/-- The interval of the reals that round to one number, and the number itself, as multiples of `1
/ unit`. A closed interval contains its two ends. -/
structure Span where
  low : Nat
  value : Nat
  high : Nat
  unit : Nat
  closed : Bool

namespace Span

/-- The span of the number `m * 2 ^ q`. Its ends lie half way to its neighbours, the lower of
which is only half as far as the upper one when `narrow` is set. The ends round to the number when
`m` is even. -/
def ofScaled (m : Nat) (q : Int) (narrow : Bool) : Span :=
  let scale := Nat.pow 2 q.toNat
  { low := (4 * m - if narrow then 1 else 2) * scale
    value := 4 * m * scale
    high := (4 * m + 2) * scale
    unit := 4 * Nat.pow 2 (-q).toNat
    closed := m % 2 == 0 }

/-- The same span measured in steps of `10 ^ e`. -/
def scaled (s : Span) : Int → Span
  | .ofNat e => { s with unit := s.unit * Nat.pow 10 e }
  | .negSucc e =>
    let step := Nat.pow 10 (e + 1)
    { s with low := s.low * step, value := s.value * step, high := s.high * step }

/-- Whether the `d`-th grid point rounds to the number. -/
def admits (s : Span) (d : Nat) : Bool :=
  if s.closed then s.low ≤ d * s.unit && d * s.unit ≤ s.high
  else s.low < d * s.unit && d * s.unit < s.high

/-- The grid point that rounds to the number and is nearest to it. -/
def nearest? (s : Span) (tie : Tie) : Option Nat :=
  let below := s.value / s.unit
  let above := below + 1
  match s.admits below, s.admits above with
  | false, false => none
  | true, false => some below
  | false, true => some above
  | true, true =>
    let down := s.value - below * s.unit
    let up := above * s.unit - s.value
    if down < up then some below
    else if up < down then some above
    else match tie with
      | .up => some above
      | .even => some (if below % 2 == 0 then below else above)

end Span

namespace Binary64

/-- The reals that round to the magnitude of a finite number other than zero. -/
def span (x : Binary64) : Span :=
  .ofScaled x.significand x.power (x.fraction == 0 && decide (1 < x.biasedExponent))

/-- A power of ten that is above the number and at most two grids above its leading digit: `30103
/ 100000` is just above the logarithm of two. -/
def topExponent (x : Binary64) : Int :=
  ((x.significand.log2 + 1 : Int) + x.power) * 30103 / 100000 + 1

/-- The shortest decimal of a finite number, its sign apart. Seventeen digits always suffice, and
twenty grids hold them. -/
def shortest (x : Binary64) (tie : Tie) : Decimal :=
  if x.isZero then ⟨0, 0⟩
  else
    let hit (step : Nat) : Option Decimal :=
      let exponent := x.topExponent - step
      ((x.span.scaled exponent).nearest? tie).map fun coefficient => ⟨coefficient, exponent⟩
    ((List.range 20).findSome? hit).getD ⟨x.significand, x.power⟩

end Binary64

end TemplatePrinter
