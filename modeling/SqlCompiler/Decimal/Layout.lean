import SqlCompiler.Decimal.Shortest

/-
  This file writes decimals.  Numbers of moderate size are
  written positionally with at least one decimal, all others
  with a signed exponent.

  Key definitions include:
    * `Decimal.Layout`
    * `Decimal.Layout.text`
-/

namespace SqlCompiler.Decimal

/- The exponents between which a number is written positionally. -/
structure Layout where
  least : Int
  greatest : Int

namespace Layout

/- The digits with a point after the first `whole` of them. -/
def pointed
    (digits : List Char)
    (whole : Nat) : List Char :=
  digits.take whole ++ '.' :: digits.drop whole

/- The positional form of digits whose first has the exponent `e`. -/
def positional
    (digits : List Char)
    (e : Int) : List Char :=
  if e < 0 then
    '0' :: '.' :: (List.replicate (-e - 1).toNat '0' ++ digits)
  else if digits.length ≤ e.toNat + 1 then
    digits ++
      List.replicate (e.toNat + 1 - digits.length) '0' ++
      ['.', '0']
  else
    pointed digits (e.toNat + 1)

/- The form with an exponent. -/
def scientific
    (digits : List Char)
    (e : Int) : List Char :=
  let mantissa :=
    if digits.length ≤ 1 then digits else pointed digits 1
  let sign := if e < 0 then '-' else '+'
  mantissa ++ 'e' :: sign :: Nat.toDigits 10 e.natAbs

/- The text of a decimal without trailing zeros. -/
def text
    (layout : Layout)
    (d : Digits) : String :=
  let digits := Nat.toDigits 10 d.value
  let e := d.power + digits.length - 1
  String.ofList <|
    if layout.least ≤ e ∧ e ≤ layout.greatest then
      positional digits e
    else
      scientific digits e

end Layout

end SqlCompiler.Decimal
