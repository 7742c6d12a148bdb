/-
  This file compares texts by their bytes.  UTF-8 keeps the order
  of characters: a larger character has a larger byte where the
  two encodings first differ.  So texts that increase by their
  characters increase by their bytes.

  Key definitions include:
    * `Text.bytes`

  Key theorems include:
    * `Text.utf8EncodeChar_lt`
    * `Text.bytes_lt_of_lt`
-/

namespace SqlCompiler.Text

/- The bytes of a text in UTF-8. -/
def bytes
    (text : String) : List UInt8 :=
  text.toUTF8.data.toList

theorem bytes_eq_flatMap
    (text : String) :
    bytes text = text.toList.flatMap String.utf8EncodeChar := by
  rw [bytes, String.toUTF8_eq_toByteArray, ← String.utf8Encode_toList,
    List.utf8Encode, List.toList_data_toByteArray]

/- The first byte decides, and a tie is left to the others. -/
theorem cons_byte_lt
    {m n : Nat}
    {left right : List UInt8}
    (hByte : n < 256)
    (hLess : m ≤ n)
    (hTie : m = n → left < right) :
    UInt8.ofNat m :: left < UInt8.ofNat n :: right := by
  rw [List.cons_lt_cons_iff]
  by_cases hSame : m = n
  · exact .inr ⟨by rw [hSame], hTie hSame⟩
  · left
    rw [UInt8.lt_iff_toNat_lt, UInt8.toNat_ofNat', UInt8.toNat_ofNat',
      Nat.mod_eq_of_lt hByte,
      Nat.mod_eq_of_lt (Nat.lt_of_le_of_lt hLess hByte)]
    exact Nat.lt_of_le_of_ne hLess hSame

/-
  Encodings of different lengths differ in the first byte.  Those
  of the same length hold the digits of the character, the high
  ones first.
-/
theorem utf8EncodeChar_lt
    {c d : Char}
    (hLess : c < d)
    (rest others : List UInt8) :
    String.utf8EncodeChar c ++ rest <
      String.utf8EncodeChar d ++ others := by
  have hNat : c.val.toNat < d.val.toNat := hLess
  have hLast : d.val.toNat < 1114112 := by
    rcases d.valid with hLow | ⟨-, hHigh⟩
    · exact Nat.lt_trans hLow (by decide)
    · exact hHigh
  unfold String.utf8EncodeChar
  dsimp only
  generalize c.val.toNat = m at *
  generalize d.val.toNat = n at *
  split
  · split
    · exact cons_byte_lt (by omega) (by omega) (by omega)
    · split
      · exact cons_byte_lt (by omega) (by omega) (by omega)
      · split
        · exact cons_byte_lt (by omega) (by omega) (by omega)
        · exact cons_byte_lt (by omega) (by omega) (by omega)
  · split
    · split
      · omega
      · split
        · refine cons_byte_lt (by omega) (by omega) fun _ => ?_
          exact cons_byte_lt (by omega) (by omega) (by omega)
        · split
          · exact cons_byte_lt (by omega) (by omega) (by omega)
          · exact cons_byte_lt (by omega) (by omega) (by omega)
    · split
      · split
        · omega
        · split
          · omega
          · split
            · refine cons_byte_lt (by omega) (by omega) fun _ => ?_
              refine cons_byte_lt (by omega) (by omega) fun _ => ?_
              exact cons_byte_lt (by omega) (by omega) (by omega)
            · exact cons_byte_lt (by omega) (by omega) (by omega)
      · split
        · omega
        · split
          · omega
          · split
            · omega
            · refine cons_byte_lt (by omega) (by omega) fun _ => ?_
              refine cons_byte_lt (by omega) (by omega) fun _ => ?_
              refine cons_byte_lt (by omega) (by omega) fun _ => ?_
              exact cons_byte_lt (by omega) (by omega) (by omega)

theorem flatMap_utf8EncodeChar_lt
    {left right : List Char}
    (hLess : left < right) :
    left.flatMap String.utf8EncodeChar <
      right.flatMap String.utf8EncodeChar := by
  induction left generalizing right with
  | nil =>
      cases right with
      | nil => exact absurd hLess (List.lt_irrefl [])
      | cons d others =>
          have hBytes :
              (d :: others).flatMap String.utf8EncodeChar ≠ [] := by
            simp [List.flatMap_cons]
          rcases List.exists_cons_of_ne_nil hBytes with
            ⟨first, more, hCons⟩
          rw [hCons]
          exact List.nil_lt_cons first more
  | cons c rest ih =>
      cases right with
      | nil => exact absurd hLess (List.not_lt_nil _)
      | cons d others =>
          rw [List.flatMap_cons, List.flatMap_cons]
          rcases List.cons_lt_cons_iff.1 hLess with hChar | ⟨rfl, hRest⟩
          · exact utf8EncodeChar_lt hChar _ _
          · exact List.append_left_lt (ih hRest)

/- Texts are ordered as their bytes are. -/
theorem bytes_lt_of_lt
    {left right : String}
    (hLess : left < right) :
    bytes left < bytes right := by
  rw [bytes_eq_flatMap, bytes_eq_flatMap]
  exact flatMap_utf8EncodeChar_lt hLess

end SqlCompiler.Text
