/-
  This file reads integers back from their decimal text: a
  nonempty run of digits, with a minus sign in front of
  negative ones.

  Key definitions include:
    * `Text.readNatural?`
    * `Text.readInteger?`

  Key theorems include:
    * `Text.readInteger?_toString`
    * `Text.mem_toString_integer`
-/

namespace SqlCompiler.Text

/- The number that a nonempty run of digits writes. -/
def readNatural?
    (digits : List Char) : Option Nat :=
  if digits ≠ [] ∧ digits.all Char.isDigit then
    some (Nat.ofDigitChars 10 digits 0)
  else
    none

/- The integer that a text writes. -/
def readInteger? : List Char → Option Int
  | '-' :: digits => (readNatural? digits).map fun n => -(n : Int)
  | digits => (readNatural? digits).map fun n => (n : Int)

theorem isDigit_of_mem_toDigits
    {n : Nat}
    {c : Char}
    (hMem : c ∈ Nat.toDigits 10 n) :
    c.isDigit = true :=
  Nat.isDigit_of_mem_toDigits (by decide) (by decide) hMem

theorem readNatural?_toDigits
    (n : Nat) :
    readNatural? (Nat.toDigits 10 n) = some n := by
  have hDigits : (Nat.toDigits 10 n).all Char.isDigit = true :=
    List.all_eq_true.2 fun _ hMem => isDigit_of_mem_toDigits hMem
  simp [readNatural?, Nat.toDigits_ne_nil, hDigits]

/-
  The text of an integer: its digits, after a minus sign if it
  is negative.
-/
theorem toList_toString_integer
    (value : Int) :
    (toString value).toList =
      if 0 ≤ value then
        Nat.toDigits 10 value.toNat
      else
        '-' :: Nat.toDigits 10 (-value).toNat := by
  rw [Int.toString_eq_repr, Int.repr_eq_if]
  split
  · exact Nat.toList_repr
  · rw [String.toList_append, Nat.toList_repr]
    rfl

/- The text of an integer has only digits and minus signs. -/
theorem mem_toString_integer
    {value : Int}
    {c : Char}
    (hMem : c ∈ (toString value).toList) :
    c = '-' ∨ c.isDigit = true := by
  rw [toList_toString_integer] at hMem
  split at hMem
  · exact Or.inr (isDigit_of_mem_toDigits hMem)
  · rcases List.mem_cons.1 hMem with hSign | hDigit
    · exact Or.inl hSign
    · exact Or.inr (isDigit_of_mem_toDigits hDigit)

/- Reading an integer undoes writing it. -/
theorem readInteger?_toString
    (value : Int) :
    readInteger? (toString value).toList = some value := by
  rw [toList_toString_integer]
  split
  · rename_i hSign
    have hRead :
        readInteger? (Nat.toDigits 10 value.toNat) =
          (readNatural? (Nat.toDigits 10 value.toNat)).map
            fun n => (n : Int) := by
      unfold readInteger?
      split
      · rename_i digits hDigits
        have hMinus : '-' ∈ Nat.toDigits 10 value.toNat := by
          rw [hDigits]
          exact List.mem_cons_self
        exact absurd (isDigit_of_mem_toDigits hMinus) (by decide)
      · rfl
    rw [hRead, readNatural?_toDigits]
    exact congrArg some (Int.toNat_of_nonneg hSign)
  · rename_i hSign
    have hValue : -((-value).toNat : Int) = value := by
      omega
    rw [readInteger?, readNatural?_toDigits]
    exact congrArg some hValue

/- The text of an integer has a digit. -/
theorem exists_digit_toString
    (value : Int) :
    ∃ c ∈ (toString value).toList, c.isDigit = true := by
  have hDigits :
      ∀ n : Nat, ∃ c ∈ Nat.toDigits 10 n, c.isDigit = true := by
    intro n
    rcases List.exists_mem_of_ne_nil _ Nat.toDigits_ne_nil with
      ⟨c, hMem⟩
    exact ⟨c, hMem, isDigit_of_mem_toDigits hMem⟩
  rw [toList_toString_integer]
  split
  · exact hDigits value.toNat
  · rcases hDigits (-value).toNat with ⟨c, hMem, hDigit⟩
    exact ⟨c, List.mem_cons_of_mem _ hMem, hDigit⟩

/- A text that begins with a letter is no integer. -/
theorem readInteger?_of_lower
    {c : Char}
    (hLower : c.isLower = true)
    (rest : List Char) :
    readInteger? (c :: rest) = none := by
  have hDigit : c.isDigit = false := by
    rw [Bool.eq_false_iff]
    intro hDigit
    have hLetter : 'a'.val ≤ c.val :=
      of_decide_eq_true ((Bool.and_eq_true _ _).mp hLower).1
    have hNine : c.val ≤ '9'.val :=
      of_decide_eq_true ((Bool.and_eq_true _ _).mp hDigit).2
    exact absurd (UInt32.le_trans hLetter hNine) (by decide)
  unfold readInteger?
  split
  · rename_i digits hText
    cases hText
    exact absurd hLower (by decide)
  · simp [readNatural?, hDigit]

end SqlCompiler.Text
