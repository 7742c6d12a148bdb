import SqlCompiler.Proofs.Json.Value

/-
  This file shows that the compact text of a well-formed value
  is cut into the tokens of that value.  Escaped strings are
  taken apart character by character, numbers as far as their
  digits go, and the rest one token at a time.

  Key definitions include:
    * `Json.Passes`
    * `Json.Closed`

  Key theorems include:
    * `Json.stringToken_stringText`
    * `Json.scanNumber_text`
    * `Json.WellFormed.tokens_compact`
-/

namespace SqlCompiler.Json

------------------------------------------------------------
-- Strings
------------------------------------------------------------

theorem hexUnit?_control
    {n : Nat}
    (hControl : n < 0x20) :
    hexUnit? '0' '0' (Nat.digitChar (n / 16)) (Nat.digitChar (n % 16)) =
      some n := by
  revert n
  decide

/-
  An escaped character is scanned as one piece, which decodes
  to that character.
-/
theorem exists_piece
    (c : Char) :
    ∃ piece,
      (∀ text,
        scanString (escape c ++ text) =
          (piece :: (scanString text).1, (scanString text).2)) ∧
        ∀ ending pieces,
          decode ending (piece :: pieces) =
            (c :: ·) <$> decode ending pieces := by
  unfold escape
  split
  case h_8 =>
      rename_i hQuote hBackslash _ _ _ _ _
      split
      · rename_i hControl
        refine ⟨.unit c.toNat, ?_, ?_⟩
        · intro text
          simp [scanString, hexUnit?_control hControl]
        · intro ending pieces
          have hTrailing : isTrailing c.toNat = false := by
            simp [isTrailing]
            omega
          have hLeading : isLeading c.toNat = false := by
            simp [isLeading]
            omega
          rw [decode.eq_def]
          simp [hTrailing, hLeading]
      · rename_i hControl
        refine ⟨.char c, ?_, fun _ _ => rfl⟩
        intro text
        rw [List.singleton_append, scanString.eq_def]
        split <;> simp_all
  all_goals exact ⟨.char _, fun _ => rfl, fun _ _ => rfl⟩

/- The characters of a string are scanned and decoded. -/
theorem scanString_escaped
    (chars rest : List Char) :
    ∃ pieces,
      scanString (chars.flatMap escape ++ '"' :: rest) =
          (pieces, .ok rest) ∧
        decode (.ok rest) pieces = .ok chars := by
  induction chars with
  | nil => exact ⟨[], rfl, rfl⟩
  | cons c others ih =>
      rcases ih with ⟨pieces, hScan, hDecode⟩
      rcases exists_piece c with ⟨piece, hPiece, hChar⟩
      refine ⟨piece :: pieces, ?_, ?_⟩
      · rw [List.flatMap_cons, List.append_assoc, hPiece, hScan]
      · rw [hChar, hDecode]
        rfl

/- A string is read back from its text, without the quote. -/
theorem stringToken_stringText
    (value : String)
    (rest : List Char) :
    stringToken (value.toList.flatMap escape ++ '"' :: rest) =
      (.string (.ok value), some rest) := by
  rcases scanString_escaped value.toList rest with
    ⟨pieces, hScan, hDecode⟩
  rw [stringToken, hScan]
  simp [hDecode, Except.map]

------------------------------------------------------------
-- Numbers
------------------------------------------------------------

/- The text of a fraction, if there is one. -/
def fractionText
    (fraction : List Digit) : List Char :=
  if fraction.isEmpty then
    []
  else
    '.' :: fraction.map Digit.toChar

/- The text of an exponent, if there is one. -/
def exponentText : Option (Bool × List Digit) → List Char
  | none => []
  | some (negative, power) =>
      'e' :: (if negative then '-' else '+') ::
        power.map Digit.toChar

theorem Numeral.text_eq
    (literal : Numeral) :
    literal.text =
      (if literal.negative then ['-'] else []) ++
        (literal.whole.map Digit.toChar ++
          (fractionText literal.fraction ++
            exponentText literal.exponent)) := by
  rw [Numeral.text, List.append_assoc, List.append_assoc]
  cases literal.exponent <;> rfl

/- A text that does not go on with a number in front of it. -/
def Closed : List Char → Prop
  | [] => True
  | c :: _ => c = ',' ∨ c = ']' ∨ c = '\x7d'

/- A text that does not begin with a digit. -/
def DigitFree : List Char → Prop
  | [] => True
  | c :: _ => Digit.ofChar? c = none

theorem Closed.digitFree
    {rest : List Char}
    (hRest : Closed rest) :
    DigitFree rest := by
  cases rest with
  | nil => trivial
  | cons c others =>
      rcases hRest with rfl | rfl | rfl <;> rfl

theorem spanDigits_append
    (digits : List Digit)
    {rest : List Char}
    (hRest : DigitFree rest) :
    spanDigits (digits.map Digit.toChar ++ rest) = (digits, rest) := by
  induction digits with
  | nil =>
      cases rest with
      | nil => rfl
      | cons c others =>
          have hDigit : Digit.ofChar? c = none := hRest
          simp [spanDigits, hDigit]
  | cons d others ih =>
      simp [spanDigits, Digit.ofChar?_toChar, ih]

theorem scanWhole_append
    {literal : Numeral}
    (hLiteral : literal.WellFormed)
    {rest : List Char}
    (hRest : DigitFree rest) :
    scanWhole (literal.whole.map Digit.toChar ++ rest) =
      .ok (literal.whole, rest) := by
  rw [scanWhole, spanDigits_append literal.whole hRest]
  split
  · rename_i hNone
    exact absurd (congrArg Prod.fst hNone) hLiteral.whole_ne_nil
  · rename_i second others _ hZero
    have hWhole : literal.whole = 0 :: second :: others :=
      congrArg Prod.fst hZero
    have hAlone := hLiteral.zero_alone (by rw [hWhole]; rfl)
    rw [hWhole] at hAlone
    simp at hAlone
  · rename_i hSame
    rw [← hSame]

theorem scanFraction_append
    (fraction : List Digit)
    {rest : List Char}
    (hDigit : DigitFree rest)
    (hPoint : rest.head? ≠ some '.') :
    scanFraction (fractionText fraction ++ rest) =
      .ok (fraction, rest) := by
  unfold fractionText
  cases fraction with
  | nil =>
      rw [List.isEmpty_nil, if_pos rfl, List.nil_append]
      unfold scanFraction
      split
      · exact absurd rfl hPoint
      · rfl
  | cons d others =>
      have hSpan := spanDigits_append (d :: others) hDigit
      rw [List.isEmpty_cons, if_neg (by decide), List.cons_append,
        scanFraction, hSpan]

theorem scanPower_append
    (negative : Bool)
    {power : List Digit}
    (hPower : power ≠ [])
    {rest : List Char}
    (hRest : DigitFree rest) :
    scanPower
        ((if negative then '-' else '+') ::
          (power.map Digit.toChar ++ rest)) =
      .ok (some (negative, power), rest) := by
  have hSpan := spanDigits_append power hRest
  cases power with
  | nil => exact absurd rfl hPower
  | cons d others =>
      cases negative with
      | false =>
          simp only [scanPower, scanSign, Bool.false_eq_true, if_false,
            hSpan]
      | true => simp only [scanPower, scanSign, if_true, hSpan]

theorem scanExponent_append
    {literal : Numeral}
    (hLiteral : literal.WellFormed)
    {rest : List Char}
    (hRest : Closed rest) :
    scanExponent (exponentText literal.exponent ++ rest) =
      .ok (literal.exponent, rest) := by
  cases hExponent : literal.exponent with
  | none =>
      rw [exponentText, List.nil_append]
      unfold scanExponent
      split
      · simp [Closed] at hRest
      · simp [Closed] at hRest
      · rfl
  | some exponent =>
      rcases exponent with ⟨negative, power⟩
      have hPower := hLiteral.power_ne_nil negative power hExponent
      rw [exponentText, List.cons_append, List.cons_append,
        scanExponent, scanPower_append negative hPower hRest.digitFree]

theorem digitFree_exponent
    (exponent : Option (Bool × List Digit))
    {rest : List Char}
    (hRest : Closed rest) :
    DigitFree (exponentText exponent ++ rest) ∧
      (exponentText exponent ++ rest).head? ≠ some '.' := by
  cases exponent with
  | none =>
      refine ⟨hRest.digitFree, ?_⟩
      cases rest with
      | nil => simp [exponentText]
      | cons c others =>
          rcases hRest with rfl | rfl | rfl <;> simp [exponentText]
  | some exponent => exact ⟨rfl, by simp [exponentText]⟩

/- A number is scanned up to the end of its text. -/
theorem scanNumber_text
    {literal : Numeral}
    (hLiteral : literal.WellFormed)
    {rest : List Char}
    (hRest : Closed rest) :
    scanNumber literal.negative
        (literal.whole.map Digit.toChar ++
          (fractionText literal.fraction ++
            (exponentText literal.exponent ++ rest))) =
      .ok (literal, rest) := by
  have hExponent := digitFree_exponent literal.exponent hRest
  have hFraction :
      DigitFree
        (fractionText literal.fraction ++
          (exponentText literal.exponent ++ rest)) := by
    cases literal.fraction with
    | nil => exact hExponent.1
    | cons d others => rfl
  rw [scanNumber, scanWhole_append hLiteral hFraction]
  simp only [bind, Except.bind]
  rw [scanFraction_append literal.fraction hExponent.1 hExponent.2]
  simp only
  rw [scanExponent_append hLiteral hRest]
  rfl

------------------------------------------------------------
-- Passing over Texts
------------------------------------------------------------

/-
  A text in front of another one is cut into tokens, whatever
  the fuel is, as long as there is enough for both.
-/
def Passes
    (text : List Char)
    (tokens : List Token)
    (rest : List Char) : Prop :=
  ∀ fuel,
    (text ++ rest).length ≤ fuel →
      ∃ left,
        rest.length ≤ left ∧
          tokensWithin fuel (text ++ rest) =
            tokens ++ tokensWithin left rest

theorem passes_nil
    (rest : List Char) :
    Passes [] [] rest :=
  fun fuel hFuel => ⟨fuel, hFuel, rfl⟩

theorem Passes.append
    {front back rest : List Char}
    {frontTokens backTokens : List Token}
    (hFront : Passes front frontTokens (back ++ rest))
    (hBack : Passes back backTokens rest) :
    Passes (front ++ back) (frontTokens ++ backTokens) rest := by
  intro fuel hFuel
  rw [List.append_assoc] at hFuel ⊢
  rcases hFront fuel hFuel with ⟨left, hLeft, hFrontEq⟩
  rcases hBack left hLeft with ⟨least, hLeast, hBackEq⟩
  exact ⟨least, hLeast, by rw [hFrontEq, hBackEq, List.append_assoc]⟩

/- One token, beginning with a character that is no blank. -/
theorem passes_first
    {c : Char}
    {text rest : List Char}
    {token : Token}
    (hBlank : isBlank c = false)
    (hFirst : firstToken c (text ++ rest) = (token, some rest)) :
    Passes (c :: text) [token] rest := by
  intro fuel hFuel
  rw [List.cons_append, List.length_cons, List.length_append] at hFuel
  cases fuel with
  | zero => omega
  | succ fuel =>
      refine ⟨fuel, by omega, ?_⟩
      rw [List.cons_append, tokensWithin, hBlank, hFirst]
      rfl

theorem firstToken_digit
    (d : Digit)
    (text : List Char) :
    firstToken d.toChar text = numberToken false (d.toChar :: text) := by
  match d with
  | 0 | 1 | 2 | 3 | 4 | 5 | 6 | 7 | 8 | 9 => rfl

theorem isBlank_digit
    (d : Digit) :
    isBlank d.toChar = false := by
  revert d
  decide

theorem passes_number
    {literal : Numeral}
    (hLiteral : literal.WellFormed)
    {rest : List Char}
    (hRest : Closed rest) :
    Passes literal.text [.number literal] rest := by
  have hScan := scanNumber_text hLiteral hRest
  rw [literal.text_eq]
  cases hSign : literal.negative with
  | true =>
      rw [if_pos rfl, List.singleton_append]
      apply passes_first rfl
      rw [hSign] at hScan
      rw [firstToken, numberToken, List.append_assoc,
        List.append_assoc, hScan]
  | false =>
      rw [if_neg (by decide), List.nil_append]
      cases hWhole : literal.whole with
      | nil => exact absurd hWhole hLiteral.whole_ne_nil
      | cons d others =>
          rw [hSign, hWhole] at hScan
          rw [List.map_cons, List.cons_append] at hScan ⊢
          apply passes_first (isBlank_digit d)
          rw [firstToken_digit, numberToken, List.append_assoc,
            List.append_assoc, hScan]

theorem passes_string
    (value : String)
    (rest : List Char) :
    Passes (stringText value) [.string (.ok value)] rest := by
  apply passes_first rfl
  rw [List.append_assoc]
  exact stringToken_stringText value rest

------------------------------------------------------------
-- Parts with Commas between Them
------------------------------------------------------------

theorem passes_comma
    (rest : List Char) :
    Passes [','] [.comma] rest :=
  passes_first rfl rfl

section Parts

variable {α : Type} {text : α → List Char} {tokens : α → List Token}
variable {parts : List α}

/- Parts after the first, each behind its comma. -/
theorem closed_later
    (parts : List α)
    {rest : List Char}
    (hRest : Closed rest) :
    Closed (parts.flatMap (fun part => ',' :: text part) ++ rest) := by
  cases parts with
  | nil => exact hRest
  | cons first others => exact Or.inl rfl

theorem passes_later
    (hParts :
      ∀ part ∈ parts, ∀ rest,
        Closed rest → Passes (text part) (tokens part) rest)
    {rest : List Char}
    (hRest : Closed rest) :
    Passes (parts.flatMap fun part => ',' :: text part)
      (parts.flatMap fun part => .comma :: tokens part) rest := by
  induction parts with
  | nil => exact passes_nil rest
  | cons first others ih =>
      have hFirst :=
        hParts first List.mem_cons_self
          (others.flatMap (fun part => ',' :: text part) ++ rest)
          (closed_later others hRest)
      have hOthers := ih fun part hMem =>
        hParts part (List.mem_cons_of_mem _ hMem)
      rw [List.flatMap_cons, List.flatMap_cons]
      exact ((passes_comma _).append hFirst).append hOthers

/- The first part has no comma. -/
theorem passes_parts
    (first : α)
    (hParts :
      ∀ part ∈ first :: parts, ∀ rest,
        Closed rest → Passes (text part) (tokens part) rest)
    {rest : List Char}
    (hRest : Closed rest) :
    Passes (text first ++ parts.flatMap fun part => ',' :: text part)
      (tokens first ++ parts.flatMap fun part => .comma :: tokens part)
      rest :=
  (hParts first List.mem_cons_self _ (closed_later parts hRest)).append
    (passes_later
      (fun part hMem => hParts part (List.mem_cons_of_mem _ hMem))
      hRest)

end Parts

------------------------------------------------------------
-- Whole Values
------------------------------------------------------------

theorem itemsText_cons
    (first : Json)
    (others : List Json) :
    itemsText (first :: others) =
      first.text ++ others.flatMap fun item => ',' :: item.text := by
  induction others generalizing first with
  | nil => simp [itemsText]
  | cons next rest ih => rw [itemsText, ih, List.flatMap_cons]; rfl

theorem spelledItems_cons
    (first : Json)
    (others : List Json) :
    spelledItems true (first :: others) =
      first.spelled ++
        others.flatMap fun item => .comma :: item.spelled := by
  have hLater :
      spelledItems false others =
        others.flatMap fun item => .comma :: item.spelled := by
    induction others with
    | nil => rfl
    | cons next rest ih => rw [spelledItems, ih, List.flatMap_cons]; rfl
  rw [spelledItems, hLater]
  rfl

/- The text and the tokens of a member. -/
def memberText
    (member : String × Json) : List Char :=
  stringText member.1 ++ ':' :: member.2.text

def spelledMember
    (member : String × Json) : List Token :=
  .string (.ok member.1) :: .colon :: member.2.spelled

theorem membersText_cons
    (first : String × Json)
    (others : List (String × Json)) :
    membersText (first :: others) =
      memberText first ++
        others.flatMap fun member => ',' :: memberText member := by
  induction others generalizing first with
  | nil => simp [membersText, memberText]
  | cons next rest ih => rw [membersText, ih, List.flatMap_cons]; rfl

theorem spelledMembers_cons
    (first : String × Json)
    (others : List (String × Json)) :
    spelledMembers true (first :: others) =
      spelledMember first ++
        others.flatMap fun member => .comma :: spelledMember member := by
  have hLater :
      spelledMembers false others =
        others.flatMap fun member => .comma :: spelledMember member := by
    induction others with
    | nil => rfl
    | cons next rest ih =>
        rw [spelledMembers, ih, List.flatMap_cons]; rfl
  rw [spelledMembers, hLater]
  rfl

theorem passes_items
    {items : List Json}
    (hItems :
      ∀ item ∈ items, ∀ rest,
        Closed rest → Passes item.text item.spelled rest)
    {rest : List Char}
    (hRest : Closed rest) :
    Passes (itemsText items) (spelledItems true items) rest := by
  cases items with
  | nil => exact passes_nil rest
  | cons first others =>
      rw [itemsText_cons, spelledItems_cons]
      exact passes_parts first hItems hRest

theorem passes_members
    {members : List (String × Json)}
    (hMembers :
      ∀ member ∈ members, ∀ rest,
        Closed rest → Passes member.2.text member.2.spelled rest)
    {rest : List Char}
    (hRest : Closed rest) :
    Passes (membersText members) (spelledMembers true members) rest := by
  cases members with
  | nil => exact passes_nil rest
  | cons first others =>
      rw [membersText_cons, spelledMembers_cons]
      apply passes_parts first _ hRest
      intro member hMem rest hRest
      have hColon :
          Passes [':'] [.colon] (member.2.text ++ rest) :=
        passes_first rfl rfl
      exact (passes_string member.1 _).append
        (hColon.append (hMembers member hMem rest hRest))

/- A value is cut into its tokens, whatever closes it. -/
theorem WellFormed.passes_text
    {value : Json}
    (hValue : value.WellFormed)
    {rest : List Char}
    (hRest : Closed rest) :
    Passes value.text value.spelled rest := by
  induction hValue generalizing rest with
  | null => exact passes_first rfl rfl
  | boolean value => cases value <;> exact passes_first rfl rfl
  | number hLiteral => exact passes_number hLiteral hRest
  | string value => exact passes_string value rest
  | @list items _ ih =>
      have hOpen :
          Passes ['['] [.beginList]
            ((itemsText items ++ [']']) ++ rest) :=
        passes_first rfl rfl
      have hClose : Passes [']'] [.endList] rest :=
        passes_first rfl rfl
      have hItems :
          Passes (itemsText items) (spelledItems true items)
            ([']'] ++ rest) :=
        passes_items (fun item hMem _ hNext => ih item hMem hNext)
          (Or.inr (Or.inl rfl))
      exact hOpen.append (hItems.append hClose)
  | @object members _ ih =>
      have hOpen :
          Passes ['\x7b'] [.beginObject]
            ((membersText members ++ ['\x7d']) ++ rest) :=
        passes_first rfl rfl
      have hClose : Passes ['\x7d'] [.endObject] rest :=
        passes_first rfl rfl
      have hMembers :
          Passes (membersText members) (spelledMembers true members)
            (['\x7d'] ++ rest) :=
        passes_members (fun member hMem _ hNext => ih member hMem hNext)
          (Or.inr (Or.inr rfl))
      exact hOpen.append (hMembers.append hClose)

/- The tokens of a compact text are those of its value. -/
theorem WellFormed.tokens_compact
    {value : Json}
    (hValue : value.WellFormed) :
    tokens value.compact.toList = value.spelled := by
  have hPasses : Passes value.text value.spelled [] :=
    hValue.passes_text trivial
  rcases hPasses value.text.length (by simp) with ⟨left, -, hTokens⟩
  have hEnd : tokensWithin left [] = [] := by
    cases left <;> rfl
  rw [List.append_nil, hEnd, List.append_nil] at hTokens
  rw [compact, String.toList_ofList, tokens, hTokens]

end SqlCompiler.Json
