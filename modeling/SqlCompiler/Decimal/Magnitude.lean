/-
  This file rounds positive rational numbers to the nearest
  double-precision magnitude, a half going to the even
  neighbour.  A magnitude is a significand of at most 53 bits
  times a power of two.

  Key definitions include:
    * `Decimal.roundQuotient`
    * `Decimal.Magnitude`
    * `Decimal.Magnitude.nearest`
    * `Decimal.Magnitude.times`
    * `Decimal.Magnitude.dividedBy`
    * `Decimal.Magnitude.powerOfTen`
-/

namespace SqlCompiler.Decimal

------------------------------------------------------------
-- Rounding
------------------------------------------------------------

/- The integer nearest to `n / d`, a half going to the even one. -/
def roundQuotient
    (n d : Nat) : Nat :=
  let quotient := n / d
  let rest := 2 * (n % d)
  if rest < d then
    quotient
  else if d < rest then
    quotient + 1
  else
    quotient + quotient % 2

/- The ratio `n / d` divided by two to the `e`. -/
def shifted
    (n d : Nat)
    (e : Int) : Nat × Nat :=
  if 0 ≤ e then
    (n, d <<< e.toNat)
  else
    (n <<< (-e).toNat, d)

------------------------------------------------------------
-- Magnitudes
------------------------------------------------------------

/- The number `significand * 2 ^ exponent`. -/
structure Magnitude where
  significand : Nat
  exponent : Int
deriving DecidableEq, Repr

namespace Magnitude

/- The least exponent; magnitudes at it may be subnormal. -/
def leastExponent : Int :=
  -1074

/- The greatest exponent of a finite magnitude. -/
def greatestExponent : Int :=
  971

def zero : Magnitude :=
  ⟨0, leastExponent⟩

def isZero
    (m : Magnitude) : Bool :=
  m.significand == 0

def isFinite
    (m : Magnitude) : Bool :=
  m.exponent ≤ greatestExponent

/-
  The exponent at which a significand of 53 bits holds the
  ratio, or the least one when the ratio is too small.  The
  two logarithms place the leading bit up to one position.
-/
def exponentFor
    (n d : Nat) : Int :=
  let guess : Int := (n.log2 : Int) - d.log2
  let (top, bottom) := shifted n d guess
  let leading := if bottom ≤ top then guess else guess - 1
  max (leading - 52) leastExponent

/-
  The magnitude nearest to `n / d`.  Rounding up can carry
  into a 54th bit; the significand is then even and halves.
-/
def nearest
    (n d : Nat) : Magnitude :=
  if n = 0 then
    zero
  else
    let e := exponentFor n d
    let (top, bottom) := shifted n d e
    let significand := roundQuotient top bottom
    if significand = 1 <<< 53 then
      ⟨1 <<< 52, e + 1⟩
    else
      ⟨significand, e⟩

/- The magnitude as a ratio of natural numbers. -/
def ratio
    (m : Magnitude) : Nat × Nat :=
  shifted m.significand 1 (-m.exponent)

/- The rounded product. -/
def times
    (a b : Magnitude) : Magnitude :=
  let (n, d) := a.ratio
  let (p, q) := b.ratio
  nearest (n * p) (d * q)

/- The rounded quotient; `b` is not zero. -/
def dividedBy
    (a b : Magnitude) : Magnitude :=
  let (n, d) := a.ratio
  let (p, q) := b.ratio
  nearest (n * q) (d * p)

/- The magnitude nearest to a power of ten. -/
def powerOfTen
    (k : Nat) : Magnitude :=
  nearest (Nat.pow 10 k) 1

end Magnitude

end SqlCompiler.Decimal
