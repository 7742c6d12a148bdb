import SqlCompiler.Decimal.Layout

/-
  This file gives JSON number literals their value.  An
  integer literal that fits 64 bits is an integer; every
  other literal is a double.

  Key definitions include:
    * `Json.Digit`
    * `Json.Numeral`
    * `Json.Numeral.ofInt`
    * `Json.Numeral.text`
    * `Json.Number`
    * `Json.Number.text`
    * `Json.Numeral.number?`
-/

namespace SqlCompiler.Json

------------------------------------------------------------
-- Literals
------------------------------------------------------------

/- A decimal digit. -/
abbrev Digit :=
  Fin 10

namespace Digit

/- The digit that a character stands for. -/
def ofChar?
    (c : Char) : Option Digit :=
  let n := c.toNat - '0'.toNat
  if h : '0' ≤ c ∧ n < 10 then
    some ⟨n, h.2⟩
  else
    none

/- The character of a digit. -/
def toChar
    (d : Digit) : Char :=
  Nat.digitChar d.val

/- The number that a list of digits writes. -/
def value
    (digits : List Digit) : Nat :=
  digits.foldl (fun n d => n * 10 + d.val) 0

end Digit

/-
  A number as it is written: sign, integer digits, digits
  after the point and the exponent with its sign.  No digit
  after the point means that there is no point.
-/
structure Numeral where
  negative : Bool
  whole : List Digit
  fraction : List Digit
  exponent : Option (Bool × List Digit)
deriving DecidableEq, Repr

namespace Numeral

/- The digits of a natural number. -/
def digits
    (n : Nat) : List Digit :=
  (Nat.toDigits 10 n).filterMap Digit.ofChar?

/- The literal of an integer. -/
def ofInt
    (i : Int) : Numeral :=
  ⟨i < 0, digits i.natAbs, [], none⟩

/- The text of a literal. -/
def text
    (n : Numeral) : List Char :=
  (if n.negative then ['-'] else []) ++
    n.whole.map Digit.toChar ++
    (if n.fraction.isEmpty then
      []
    else
      '.' :: n.fraction.map Digit.toChar) ++
    (match n.exponent with
    | none => []
    | some (negative, power) =>
        'e' :: (if negative then '-' else '+') ::
          power.map Digit.toChar)

end Numeral

------------------------------------------------------------
-- Values
------------------------------------------------------------

/- The value of a number literal. -/
inductive Number where
  | integer (value : Int)
  | double (negative : Bool) (magnitude : Decimal.Magnitude)
deriving DecidableEq, Repr

namespace Number

/-
  Doubles are written positionally from one hundred thousandth
  up to sixteen integer digits.
-/
def layout : Decimal.Layout where
  least := -5
  greatest := 15

/- The text of a number in messages. -/
def text : Number → String
  | .integer value => toString value
  | .double negative magnitude =>
      (if negative then "-" else "") ++
        layout.text (Decimal.shortest magnitude)

end Number

------------------------------------------------------------
-- Reading a Double
------------------------------------------------------------

namespace Numeral

/- The largest significand that digits are gathered into. -/
def largestSignificand : Nat :=
  UInt64.size - 1

/-
  Appends digits to a significand until the next one would
  not fit 64 bits.  Returns the digits that are left.
-/
def gather : Nat → List Digit → Nat × List Digit
  | significand, [] => (significand, [])
  | significand, d :: rest =>
      let next := significand * 10 + d.val
      if next ≤ largestSignificand then
        gather next rest
      else
        (significand, d :: rest)

/- The largest power of ten that is scaled by in one step. -/
def largestStep : Nat :=
  308

/-
  The magnitude divided by a power of ten, one step at a
  time.  Every step rounds.
-/
def shrink
    (m : Decimal.Magnitude)
    (power : Nat) : Decimal.Magnitude :=
  if power ≤ largestStep then
    m.dividedBy (.powerOfTen power)
  else if m.isZero then
    m
  else
    shrink (m.dividedBy (.powerOfTen largestStep)) (power - largestStep)
termination_by power
decreasing_by
  simp only [largestStep] at *
  omega

/-
  The double `significand * 10 ^ power`, or nothing when it
  is too large.  The significand is rounded before scaling.
-/
def scale?
    (significand : Nat)
    (power : Int) : Option Decimal.Magnitude :=
  let m := Decimal.Magnitude.nearest significand 1
  if power < 0 then
    some (shrink m (-power).toNat)
  else if m.isZero then
    some m
  else if power.toNat ≤ largestStep then
    let scaled := m.times (.powerOfTen power.toNat)
    if scaled.isFinite then some scaled else none
  else
    none

/- The power of ten written by the exponent part. -/
def power
    (n : Numeral) : Int :=
  match n.exponent with
  | none => 0
  | some (true, digits) => -(Digit.value digits : Int)
  | some (false, digits) => Digit.value digits

/-
  The literal as a double.  Integer digits that do not fit
  the significand each raise the power by one, and digits
  after the point that do not fit are dropped.
-/
def magnitude?
    (n : Numeral) : Option Decimal.Magnitude :=
  let (whole, beyond) := gather 0 n.whole
  let (significand, dropped) := gather whole n.fraction
  let taken := n.fraction.length - dropped.length
  scale? significand ((beyond.length : Int) - taken + n.power)

/-
  The value of a literal, or nothing when it is a double out
  of range.  Minus zero is a double, and so is an integer
  outside both 64-bit ranges.
-/
def number?
    (n : Numeral) : Option Number :=
  let (whole, beyond) := gather 0 n.whole
  let isInteger :=
    beyond.isEmpty && n.fraction.isEmpty && n.exponent.isNone
  if isInteger && !n.negative then
    some (.integer whole)
  else if isInteger && whole != 0 && decide (whole ≤ 1 <<< 63) then
    some (.integer (-whole))
  else
    n.magnitude?.map (.double n.negative)

end Numeral

end SqlCompiler.Json
