import SqlCompiler.Decimal.Magnitude

/-
  This file finds the decimal with the fewest digits that
  rounds back to a magnitude, and of those the nearest one.
  All comparisons are between natural numbers.

  Key definitions include:
    * `Decimal.Digits`
    * `Decimal.readsBack`
    * `Decimal.onGrid`
    * `Decimal.shortest`
-/

namespace SqlCompiler.Decimal

------------------------------------------------------------
-- Decimals
------------------------------------------------------------

/- The number `value * 10 ^ power`. -/
structure Digits where
  value : Nat
  power : Int
deriving DecidableEq, Repr

namespace Digits

/- The number as a ratio of natural numbers. -/
def ratio
    (d : Digits) : Nat × Nat :=
  if 0 ≤ d.power then
    (d.value * Nat.pow 10 d.power.toNat, 1)
  else
    (d.value, Nat.pow 10 (-d.power).toNat)

/- The same number without trailing zeros; `fuel` bounds them. -/
def strip : Nat → Digits → Digits
  | 0, d => d
  | fuel + 1, d =>
      if d.value ≠ 0 ∧ d.value % 10 = 0 then
        strip fuel ⟨d.value / 10, d.power + 1⟩
      else
        d

end Digits

------------------------------------------------------------
-- The Interval of a Magnitude
------------------------------------------------------------

/-
  Whether a decimal rounds to the magnitude: it lies between
  the midpoints to the two neighbours, and on a midpoint only
  if the significand is even.  Below a power of two the lower
  neighbour is half as far away.  Everything is scaled by
  four, so that midpoints are whole.
-/
def readsBack
    (m : Magnitude)
    (d : Digits) : Bool :=
  let narrow :=
    m.significand == 1 <<< 52 &&
      Magnitude.leastExponent < m.exponent
  let low := 4 * m.significand - (if narrow then 1 else 2)
  let high := 4 * m.significand + 2
  let (p, q) := Magnitude.ratio ⟨1, m.exponent - 2⟩
  let (n, k) := d.ratio
  let here := n * q
  let below := low * p * k
  let above := high * p * k
  if m.significand % 2 = 0 then
    below ≤ here && here ≤ above
  else
    below < here && here < above

------------------------------------------------------------
-- The Search
------------------------------------------------------------

/- The number of decimal digits of a natural number. -/
def width
    (n : Nat) : Nat :=
  (Nat.toDigits 10 n).length

/- The power of ten of the leading digit of `n / d`. -/
def leadingPower
    (n d : Nat) : Int :=
  let guess : Int := (width n : Int) - width d
  let (p, q) := Digits.ratio ⟨1, guess⟩
  if p * d ≤ n * q then guess else guess - 1

/-
  The decimals next to the magnitude on the grid of multiples
  of a power of ten, the nearer one first.  An exact tie puts
  the even one first.
-/
def neighbours
    (m : Magnitude)
    (power : Int) : List Digits :=
  let (n, d) := m.ratio
  let (p, q) := Digits.ratio ⟨1, power⟩
  let top := n * q
  let bottom := d * p
  let floor := top / bottom
  let nearer := roundQuotient top bottom
  let other := if nearer = floor then floor + 1 else floor
  [⟨nearer, power⟩, ⟨other, power⟩]

/-
  The decimal of the coarsest grid that reads back.  Each
  step makes the grid ten times finer; seventeen digits always
  suffice, so the search ends within its fuel.
-/
def onGrid
    (m : Magnitude) : Nat → Int → Digits
  | 0, power => ⟨0, power⟩
  | fuel + 1, power =>
      match (neighbours m power).find? (readsBack m) with
      | some d => d
      | none => onGrid m fuel (power - 1)

/- The fewest digits that read back, zero standing for itself. -/
def shortest
    (m : Magnitude) : Digits :=
  if m.isZero then
    ⟨0, 0⟩
  else
    let (n, d) := m.ratio
    let found := onGrid m 18 (leadingPower n d)
    found.strip (width found.value)

end SqlCompiler.Decimal
