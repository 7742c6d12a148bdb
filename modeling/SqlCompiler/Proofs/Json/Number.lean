import SqlCompiler.Json.Number

/-
  This file is about the literals of JSON numbers.  It says
  which of them follow the grammar of JSON, and shows that the
  literal of a 64-bit integer does and has that integer as its
  value.

  Key definitions include:
    * `Json.Numeral.WellFormed`

  Key theorems include:
    * `Json.Numeral.wellFormed_ofInt`
    * `Json.Numeral.number?_ofInt`
-/

namespace SqlCompiler.Json

theorem Digit.ofChar?_toChar
    (d : Digit) :
    Digit.ofChar? d.toChar = some d := by
  revert d
  decide

namespace Numeral

/-
  Literals that JSON allows: there are integer digits, a zero
  in front stands alone, and an exponent has digits.
-/
structure WellFormed
    (literal : Numeral) : Prop where
  whole_ne_nil : literal.whole ≠ []
  zero_alone : literal.whole.head? = some 0 → literal.whole = [0]
  power_ne_nil :
    ∀ negative power,
      literal.exponent = some (negative, power) → power ≠ []

------------------------------------------------------------
-- Digits of Natural Numbers
------------------------------------------------------------

theorem digits_of_lt
    {n : Nat}
    (hSmall : n < 10) :
    digits n = [⟨n, hSmall⟩] := by
  have hChar := Digit.ofChar?_toChar ⟨n, hSmall⟩
  rw [Digit.toChar] at hChar
  rw [digits, Nat.toDigits_of_lt_base hSmall,
    List.filterMap_cons_some hChar, List.filterMap_nil]

theorem digits_of_le
    {n : Nat}
    (hLarge : 10 ≤ n) :
    digits n =
      digits (n / 10) ++ [⟨n % 10, Nat.mod_lt n (by decide)⟩] := by
  have hChar :=
    Digit.ofChar?_toChar ⟨n % 10, Nat.mod_lt n (by decide)⟩
  rw [Digit.toChar] at hChar
  rw [digits, Nat.toDigits_of_base_le (by decide) hLarge,
    List.filterMap_append, List.filterMap_cons_some hChar,
    List.filterMap_nil, digits]

/- A positive number begins with another digit than zero. -/
theorem exists_head_digits
    {n : Nat}
    (hPos : 0 < n) :
    ∃ d rest, digits n = d :: rest ∧ d ≠ 0 := by
  induction n using Nat.strongRecOn with
  | ind n ih =>
      by_cases hSmall : n < 10
      · refine ⟨⟨n, hSmall⟩, [], digits_of_lt hSmall, ?_⟩
        intro hZero
        have hValue : n = 0 := congrArg Fin.val hZero
        omega
      · have hLarge : 10 ≤ n := by
          omega
        rcases ih (n / 10) (by omega) (by omega) with
          ⟨d, rest, hDigits, hHead⟩
        rw [digits_of_le hLarge, hDigits, List.cons_append]
        exact ⟨d, _, rfl, hHead⟩

/- Reading the digits of a number gives the number. -/
theorem value_digits
    (n : Nat) :
    Digit.value (digits n) = n := by
  induction n using Nat.strongRecOn with
  | ind n ih =>
      by_cases hSmall : n < 10
      · simp [digits_of_lt hSmall, Digit.value]
      · have hFront := ih (n / 10) (by omega)
        rw [Digit.value] at hFront ⊢
        rw [digits_of_le (by omega), List.foldl_append, hFront]
        simp only [List.foldl_cons, List.foldl_nil]
        omega

theorem wellFormed_ofInt
    (value : Int) :
    (ofInt value).WellFormed := by
  have hHead :
      digits value.natAbs = [0] ∨
        ∃ d rest, digits value.natAbs = d :: rest ∧ d ≠ 0 := by
    by_cases hZero : value.natAbs = 0
    · rw [hZero]
      exact Or.inl (digits_of_lt (by decide))
    · exact Or.inr (exists_head_digits (by omega))
  refine ⟨?_, ?_, ?_⟩
  · rcases hHead with hZero | ⟨d, rest, hDigits, -⟩
    · simp [ofInt, hZero]
    · simp [ofInt, hDigits]
  · rcases hHead with hZero | ⟨d, rest, hDigits, hNonzero⟩
    · simp [ofInt, hZero]
    · simp [ofInt, hDigits, hNonzero]
  · simp [ofInt]

------------------------------------------------------------
-- Values of Integers
------------------------------------------------------------

/- More digits never make a number smaller. -/
theorem le_foldl_digits
    (significand : Nat)
    (digits : List Digit) :
    significand ≤
      digits.foldl (fun n d => n * 10 + d.val) significand := by
  induction digits generalizing significand with
  | nil => exact Nat.le_refl significand
  | cons d rest ih =>
      rw [List.foldl_cons]
      have hNext := ih (significand * 10 + d.val)
      omega

/- All digits are gathered when the whole number fits. -/
theorem gather_of_le
    {significand : Nat}
    {digits : List Digit}
    (hFits :
      digits.foldl (fun n d => n * 10 + d.val) significand ≤
        largestSignificand) :
    gather significand digits =
      (digits.foldl (fun n d => n * 10 + d.val) significand, []) := by
  induction digits generalizing significand with
  | nil => rfl
  | cons d rest ih =>
      rw [List.foldl_cons] at hFits ⊢
      have hNext := le_foldl_digits (significand * 10 + d.val) rest
      rw [gather]
      simp only [Nat.le_trans hNext hFits, if_true]
      exact ih hFits

/- The literal of a 64-bit integer stands for that integer. -/
theorem number?_ofInt
    {value : Int}
    (hLeast : Int64.minValue.toInt ≤ value)
    (hGreatest : value ≤ Int64.maxValue.toInt) :
    (ofInt value).number? = some (.integer value) := by
  have hRange : value.natAbs ≤ 9223372036854775808 := by
    have hMin : Int64.minValue.toInt = -9223372036854775808 := by
      decide
    have hMax : Int64.maxValue.toInt = 9223372036854775807 := by
      decide
    omega
  have hGather :
      gather 0 (ofInt value).whole = (value.natAbs, []) := by
    have hValue :
        (digits value.natAbs).foldl (fun n d => n * 10 + d.val) 0 =
          value.natAbs :=
      value_digits value.natAbs
    have hFits : value.natAbs ≤ largestSignificand :=
      Nat.le_trans hRange (by decide)
    rw [← hValue] at hFits
    rw [ofInt, gather_of_le hFits, hValue]
  rw [number?, hGather]
  by_cases hSign : value < 0
  · have hNonzero : value.natAbs ≠ 0 := by
      omega
    have hBack : Number.integer (-(value.natAbs : Int)) = .integer value := by
      congr
      omega
    rw [← hBack]
    simp [ofInt, hSign, hNonzero, hRange]
  · have hBack : (value.natAbs : Int) = value := by
      omega
    simp [ofInt, hSign, hBack]

end Numeral

end SqlCompiler.Json
