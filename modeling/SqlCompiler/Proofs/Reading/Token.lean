import Mathlib.Data.List.TakeWhile
import SqlCompiler.Dialect.Basic
import SqlCompiler.Expr.Basic
import SqlCompiler.Proofs.Text.Integer

/-
  This file splits SQL text into tokens.  The text is first
  cut at spaces, with marks such as parentheses as pieces of
  their own.  Words are then recognized as operators, where
  two words that together write an operator come before one,
  or else as leaves: integers and attributes.

  Key definitions include:
    * `Reading.Piece`
    * `Reading.pieces`
    * `Reading.leaf?`
    * `Reading.Token`
    * `Reading.tokens`
    * `Reading.IsLeafWord`
    * `Reading.Legible`

  Key theorems include:
    * `Reading.pieces_space`
    * `Reading.pieces_mark`
    * `Reading.tokens_leafWord`
    * `Reading.tokens_operator`
-/

namespace SqlCompiler.Reading

------------------------------------------------------------
-- Pieces
------------------------------------------------------------

/- A run of characters without spaces and marks, or a mark. -/
inductive Piece where
  | word (letters : List Char)
  | mark (c : Char)
deriving DecidableEq, Repr

/- A finished word; there are no empty ones. -/
def finished
    (word : List Char) : List Piece :=
  if word = [] then [] else [.word word]

/- The pieces of a text, given the word that it continues. -/
def piecesFrom
    (marks word : List Char) : List Char → List Piece
  | [] => finished word
  | c :: rest =>
      if c = ' ' then
        finished word ++ piecesFrom marks [] rest
      else if c ∈ marks then
        finished word ++ .mark c :: piecesFrom marks [] rest
      else
        piecesFrom marks (word ++ [c]) rest

/- A text cut at its spaces and around its marks. -/
def pieces
    (marks text : List Char) : List Piece :=
  piecesFrom marks [] text

variable {marks : List Char}

theorem piecesFrom_space
    (word left right : List Char) :
    piecesFrom marks word (left ++ ' ' :: right) =
      piecesFrom marks word left ++ piecesFrom marks [] right := by
  induction left generalizing word with
  | nil => simp [piecesFrom]
  | cons c rest ih =>
      simp only [List.cons_append, piecesFrom, ih]
      split
      · rw [List.append_assoc]
      · split
        · simp
        · rfl

theorem piecesFrom_mark
    {c : Char}
    (hMark : c ∈ marks)
    (hSpace : c ≠ ' ')
    (word left right : List Char) :
    piecesFrom marks word (left ++ c :: right) =
      piecesFrom marks word left ++
        .mark c :: piecesFrom marks [] right := by
  induction left generalizing word with
  | nil => simp [piecesFrom, hMark, hSpace]
  | cons first rest ih =>
      simp only [List.cons_append, piecesFrom, ih]
      split
      · rw [List.append_assoc]
      · split
        · simp
        · rfl

/- A space separates the pieces of two texts. -/
theorem pieces_space
    (left right : List Char) :
    pieces marks (left ++ ' ' :: right) =
      pieces marks left ++ pieces marks right :=
  piecesFrom_space [] left right

/- So does a mark, which is itself a piece. -/
theorem pieces_mark
    {c : Char}
    (hMark : c ∈ marks)
    (hSpace : c ≠ ' ')
    (left right : List Char) :
    pieces marks (left ++ c :: right) =
      pieces marks left ++ .mark c :: pieces marks right :=
  piecesFrom_mark hMark hSpace [] left right

/- A keyword, an operator or a join word between two texts. -/
theorem pieces_spaced
    (left word right : String) :
    pieces marks (left ++ (" " ++ word ++ " ") ++ right).toList =
      pieces marks left.toList ++
        (pieces marks word.toList ++ pieces marks right.toList) := by
  rw [← pieces_space, ← pieces_space]
  simp

theorem pieces_before
    (word right : String) :
    pieces marks (word ++ " " ++ right).toList =
      pieces marks word.toList ++ pieces marks right.toList := by
  rw [← pieces_space]
  simp

/- Characters that are neither spaces nor marks. -/
def Solid
    (marks word : List Char) : Prop :=
  ∀ c ∈ word, c ≠ ' ' ∧ c ∉ marks

theorem piecesFrom_of_solid
    {text : List Char}
    (hText : Solid marks text)
    (word : List Char) :
    piecesFrom marks word text = finished (word ++ text) := by
  induction text generalizing word with
  | nil => simp [piecesFrom]
  | cons c rest ih =>
      have hFirst := hText c List.mem_cons_self
      have hRest : Solid marks rest := by
        intro other hMem
        exact hText other (List.mem_cons_of_mem _ hMem)
      simp only [piecesFrom, hFirst.1, hFirst.2, if_false]
      rw [ih hRest, List.append_assoc, List.singleton_append]

/- A solid text is a single word. -/
theorem pieces_of_solid
    {word : List Char}
    (hWord : Solid marks word)
    (hNonempty : word ≠ []) :
    pieces marks word = [.word word] := by
  rw [pieces, piecesFrom_of_solid hWord, List.nil_append, finished,
    if_neg hNonempty]

------------------------------------------------------------
-- Leaves
------------------------------------------------------------

/- A nonempty word of lowercase ASCII letters. -/
def isName
    (letters : List Char) : Bool :=
  !letters.isEmpty && letters.all Char.isLower

/- The attribute of a name, or of two with a dot between. -/
def attribute?
    (word : List Char) : Option Attribute :=
  let front := word.takeWhile (· != '.')
  match word.dropWhile (· != '.') with
  | [] =>
      if isName front then
        some (.named (String.ofList front))
      else
        none
  | _ :: back =>
      if isName front && isName back then
        some (.qualified (String.ofList front) (String.ofList back))
      else
        none

/- The 64-bit integer or the attribute that a word writes. -/
def leaf?
    (word : List Char) : Option Expr :=
  match Text.readInteger? word with
  | some value =>
      if (Int64.ofInt value).toInt = value then
        some (.literal (.integer (Int64.ofInt value)))
      else
        none
  | none => (attribute? word).map .reference

------------------------------------------------------------
-- Tokens
------------------------------------------------------------

inductive Token where
  | opening
  | closing
  | connective (operator : Operator)
  | operand (leaf : Expr)
  | unreadable
deriving Repr

/- The operator that is written exactly like this. -/
def operator?
    (operators : List Operator)
    (text : List Char) : Option Operator :=
  operators.find? fun operator => operator.text.toList == text

namespace Token

def ofMark
    (c : Char) : Token :=
  if c = '(' then
    .opening
  else if c = ')' then
    .closing
  else
    .unreadable

def ofWord
    (operators : List Operator)
    (word : List Char) : Token :=
  match operator? operators word with
  | some operator => .connective operator
  | none =>
      match leaf? word with
      | some leaf => .operand leaf
      | none => .unreadable

end Token

/- The tokens of pieces; an operator of two words wins. -/
def tokens
    (operators : List Operator) : List Piece → List Token
  | [] => []
  | .mark c :: rest => .ofMark c :: tokens operators rest
  | .word first :: .word second :: rest =>
      match operator? operators (first ++ ' ' :: second) with
      | some operator => .connective operator :: tokens operators rest
      | none =>
          .ofWord operators first ::
            tokens operators (.word second :: rest)
  | .word first :: rest =>
      .ofWord operators first :: tokens operators rest

------------------------------------------------------------
-- Telling Tokens Apart
------------------------------------------------------------

/- A character that occurs in leaves and never in operators. -/
def isOperandChar
    (c : Char) : Bool :=
  c.isLower || c.isDigit

/- The characters of leaves. -/
def isLeafChar
    (c : Char) : Bool :=
  isOperandChar c || c == '-' || c == '.'

/- A text that is one word, or two with a space between. -/
def Spelled
    (marks text : List Char) : Prop :=
  match pieces marks text with
  | [.word word] => word = text
  | [.word first, .word second] => first ++ ' ' :: second = text
  | _ => False

instance
    (marks text : List Char) :
    Decidable (Spelled marks text) := by
  unfold Spelled
  split <;> infer_instance

/-
  Marks and operators that cannot be mistaken for leaves, nor
  one operator for another one.
-/
structure Legible
    (marks : List Char)
    (operators : List Operator) : Prop where
  opening : '(' ∈ marks
  closing : ')' ∈ marks
  marks_apart : ∀ c ∈ marks, c ≠ ' ' ∧ isLeafChar c = false
  spelled :
    ∀ operator ∈ operators, Spelled marks operator.text.toList
  operators_apart :
    ∀ operator ∈ operators,
      ∀ c ∈ operator.text.toList, isOperandChar c = false
  unique :
    ∀ operator ∈ operators, ∀ other ∈ operators,
      operator.text = other.text → operator = other

/- A word that is read as the given leaf. -/
structure IsLeafWord
    (word : List Char)
    (leaf : Expr) : Prop where
  reads : leaf? word = some leaf
  chars : ∀ c ∈ word, isLeafChar c = true
  operandChar : ∃ c ∈ word, isOperandChar c = true

/-
  Pieces that do not go on with a word that could belong to an
  operator.
-/
def StartsApart : List Piece → Prop
  | .word word :: _ => ∃ c ∈ word, isOperandChar c = true
  | _ => True

variable {operators : List Operator}

theorem operator?_of_mem
    (hLegible : Legible marks operators)
    {operator : Operator}
    (hMem : operator ∈ operators) :
    operator? operators operator.text.toList = some operator := by
  cases hFound : operator? operators operator.text.toList with
  | none =>
      have hNone := List.find?_eq_none.1 hFound operator hMem
      simp at hNone
  | some other =>
      have hText : other.text = operator.text := by
        simpa [String.toList_inj] using List.find?_some hFound
      have hOther : other ∈ operators :=
        List.mem_of_find?_eq_some hFound
      rw [hLegible.unique other hOther operator hMem hText]

/- A text with a character of leaves is no operator. -/
theorem operator?_eq_none
    (hLegible : Legible marks operators)
    {text : List Char}
    (hText : ∃ c ∈ text, isOperandChar c = true) :
    operator? operators text = none := by
  rcases hText with ⟨c, hMem, hChar⟩
  apply List.find?_eq_none.2
  intro operator hOperator hSame
  have hEq : operator.text.toList = text := by
    simpa using hSame
  have hApart :=
    hLegible.operators_apart operator hOperator c (hEq ▸ hMem)
  rw [hChar] at hApart
  exact absurd hApart (by decide)

theorem IsLeafWord.pieces_eq
    (hLegible : Legible marks operators)
    {word : List Char}
    {leaf : Expr}
    (hWord : IsLeafWord word leaf) :
    pieces marks word = [.word word] := by
  apply pieces_of_solid
  · intro c hMem
    have hChar := hWord.chars c hMem
    constructor
    · rintro rfl
      exact absurd hChar (by decide)
    · intro hMark
      have hApart := (hLegible.marks_apart c hMark).2
      rw [hChar] at hApart
      exact absurd hApart (by decide)
  · rintro rfl
    rcases hWord.operandChar with ⟨c, hMem, -⟩
    cases hMem

/- A word that makes no operator with the next one. -/
theorem tokens_word
    {first : List Char}
    {rest : List Piece}
    (hAlone :
      ∀ second others,
        rest = .word second :: others →
          operator? operators (first ++ ' ' :: second) = none) :
    tokens operators (.word first :: rest) =
      .ofWord operators first :: tokens operators rest := by
  cases rest with
  | nil => simp [tokens]
  | cons piece others =>
      cases piece with
      | mark c => simp [tokens]
      | word second => simp [tokens, hAlone second others rfl]

/- A leaf is recognized whatever follows it. -/
theorem tokens_leafWord
    (hLegible : Legible marks operators)
    {word : List Char}
    {leaf : Expr}
    (hWord : IsLeafWord word leaf)
    (rest : List Piece) :
    tokens operators (.word word :: rest) =
      .operand leaf :: tokens operators rest := by
  have hToken : Token.ofWord operators word = .operand leaf := by
    rw [Token.ofWord, operator?_eq_none hLegible hWord.operandChar,
      hWord.reads]
  rw [← hToken]
  apply tokens_word
  intro second others _
  apply operator?_eq_none hLegible
  rcases hWord.operandChar with ⟨c, hMem, hChar⟩
  exact ⟨c, List.mem_append_left _ hMem, hChar⟩

/-
  An operator is recognized when no word follows it that could
  belong to an operator.
-/
theorem tokens_operator
    (hLegible : Legible marks operators)
    {operator : Operator}
    (hMem : operator ∈ operators)
    {rest : List Piece}
    (hRest : StartsApart rest) :
    tokens operators
        (pieces marks operator.text.toList ++ rest) =
      .connective operator :: tokens operators rest := by
  have hFound := operator?_of_mem hLegible hMem
  have hSpelled := hLegible.spelled operator hMem
  unfold Spelled at hSpelled
  split at hSpelled
  · rename_i word hPieces
    have hToken :
        Token.ofWord operators word = .connective operator := by
      rw [Token.ofWord, hSpelled, hFound]
    rw [hPieces, List.singleton_append, ← hToken]
    apply tokens_word
    rintro second others rfl
    apply operator?_eq_none hLegible
    rcases hRest with ⟨c, hSecond, hChar⟩
    refine ⟨c, ?_, hChar⟩
    exact List.mem_append_right _ (List.mem_cons_of_mem _ hSecond)
  · rename_i first second hPieces
    rw [hPieces, List.cons_append, List.cons_append,
      List.nil_append, tokens, hSpelled, hFound]
  · exact absurd hSpelled id

------------------------------------------------------------
-- Words of Leaves
------------------------------------------------------------

theorem isLeafWord_integer
    (value : Int64) :
    IsLeafWord (toString value.toInt).toList
      (.literal (.integer value)) where
  reads := by
    rw [leaf?, Text.readInteger?_toString]
    simp
  chars := by
    intro c hMem
    rcases Text.mem_toString_integer hMem with rfl | hDigit
    · decide
    · simp [isLeafChar, isOperandChar, hDigit]
  operandChar := by
    rcases Text.exists_digit_toString value.toInt with
      ⟨c, hMem, hDigit⟩
    exact ⟨c, hMem, by simp [isOperandChar, hDigit]⟩

theorem isName_iff
    {letters : List Char} :
    isName letters = true ↔
      letters ≠ [] ∧ ∀ c ∈ letters, c.isLower = true := by
  simp [isName]

theorem readInteger?_of_isName
    {letters : List Char}
    (hName : isName letters = true)
    (rest : List Char) :
    Text.readInteger? (letters ++ rest) = none := by
  cases letters with
  | nil => exact absurd hName (by decide)
  | cons c others =>
      have hLower := (isName_iff.1 hName).2 c List.mem_cons_self
      exact Text.readInteger?_of_lower hLower (others ++ rest)

/- A name has no dot. -/
theorem ne_dot_of_isName
    {letters : List Char}
    (hName : isName letters = true) :
    ∀ c ∈ letters, (c != '.') = true := by
  intro c hMem
  have hLower := (isName_iff.1 hName).2 c hMem
  simp only [bne_iff_ne]
  rintro rfl
  exact absurd hLower (by decide)

theorem isOperandChar_of_isName
    {letters : List Char}
    (hName : isName letters = true)
    {c : Char}
    (hMem : c ∈ letters) :
    isOperandChar c = true := by
  simp [isOperandChar, (isName_iff.1 hName).2 c hMem]

theorem exists_operandChar_of_isName
    {letters : List Char}
    (hName : isName letters = true) :
    ∃ c ∈ letters, isOperandChar c = true := by
  rcases List.exists_mem_of_ne_nil _ (isName_iff.1 hName).1 with
    ⟨c, hMem⟩
  exact ⟨c, hMem, isOperandChar_of_isName hName hMem⟩

theorem isLeafWord_named
    {name : String}
    (hName : isName name.toList = true) :
    IsLeafWord name.toList (.reference (.named name)) where
  reads := by
    have hDots := ne_dot_of_isName hName
    have hInteger := readInteger?_of_isName hName []
    rw [List.append_nil] at hInteger
    simp [leaf?, hInteger, attribute?,
      List.takeWhile_eq_self_iff.2 hDots,
      List.dropWhile_eq_nil_iff.2 hDots, hName]
  chars := by
    intro c hMem
    simp [isLeafChar, isOperandChar_of_isName hName hMem]
  operandChar := exists_operandChar_of_isName hName

theorem isLeafWord_qualified
    {qualifier name : String}
    (hQualifier : isName qualifier.toList = true)
    (hName : isName name.toList = true) :
    IsLeafWord (qualifier ++ "." ++ name).toList
      (.reference (.qualified qualifier name)) where
  reads := by
    have hDots := ne_dot_of_isName hQualifier
    have hText :
        (qualifier ++ "." ++ name).toList =
          qualifier.toList ++ '.' :: name.toList := by
      simp
    have hInteger := readInteger?_of_isName hQualifier ('.' :: name.toList)
    rw [hText]
    simp [leaf?, hInteger, attribute?,
      List.takeWhile_append_of_pos hDots,
      List.dropWhile_append_of_pos hDots, hQualifier, hName]
  chars := by
    intro c hMem
    simp only [String.toList_append, List.mem_append] at hMem
    rcases hMem with (hLeft | hDot) | hRight
    · simp [isLeafChar, isOperandChar_of_isName hQualifier hLeft]
    · have hEq : c = '.' := by
        simpa using hDot
      rw [hEq]
      decide
    · simp [isLeafChar, isOperandChar_of_isName hName hRight]
  operandChar := by
    rcases exists_operandChar_of_isName hName with ⟨c, hMem, hChar⟩
    refine ⟨c, ?_, hChar⟩
    simp only [String.toList_append, List.mem_append]
    exact Or.inr hMem

end SqlCompiler.Reading
