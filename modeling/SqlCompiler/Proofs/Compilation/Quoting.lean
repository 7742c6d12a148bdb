import SqlCompiler.Proofs.Compilation.Composition

/-
  This file shows that string literals stay inside their
  quotes.  A scanner that knows nothing but the quoting rule
  of SQL finds in a compiled text exactly the values of the
  string literals that were rendered, and ends outside of any
  literal.

  The one danger is a literal followed directly by another
  quote.  It never arises, since something without quotes is
  written between any two parts of a text.

  Key definitions include:
    * `Scanner`
    * `Scanner.scan`
    * `Scanner.Yields`

  Key theorems include:
    * `Scanner.run_quote`
    * `Scanner.Yields.across`
    * `Composed.yields`
    * `Document.scan_compile`
-/

namespace SqlCompiler

------------------------------------------------------------
-- Scanning
------------------------------------------------------------

/-
  Where a scanner stands.  After a quote inside a literal it
  is not yet known whether the literal is over.
-/
inductive Scanner.Position where
  | outside
  | inside (value : List Char)
  | afterQuote (value : List Char)
deriving DecidableEq, Repr

/- A scanner with the values of the literals it has passed. -/
structure Scanner where
  position : Scanner.Position
  values : List String
deriving DecidableEq, Repr

namespace Scanner

/-
  A quote opens a literal, a doubled quote inside stands for
  one quote, and any other quote closes the literal.
-/
def step
    (scanner : Scanner)
    (c : Char) : Scanner :=
  match scanner.position with
  | .outside =>
      if c = '\'' then
        ⟨.inside [], scanner.values⟩
      else
        ⟨.outside, scanner.values⟩
  | .inside value =>
      if c = '\'' then
        ⟨.afterQuote value, scanner.values⟩
      else
        ⟨.inside (value ++ [c]), scanner.values⟩
  | .afterQuote value =>
      if c = '\'' then
        ⟨.inside (value ++ [c]), scanner.values⟩
      else
        ⟨.outside, scanner.values ++ [String.ofList value]⟩

def run
    (scanner : Scanner)
    (text : List Char) : Scanner :=
  text.foldl step scanner

/- The values found, if the text may end here. -/
def finish
    (scanner : Scanner) : Option (List String) :=
  match scanner.position with
  | .outside => some scanner.values
  | .inside _ => none
  | .afterQuote value => some (scanner.values ++ [String.ofList value])

/-
  The values of the literals of a text, or nothing if the text
  ends inside a literal.
-/
def scan
    (text : String) : Option (List String) :=
  (run ⟨.outside, []⟩ text.toList).finish

theorem run_append
    (scanner : Scanner)
    (left right : List Char) :
    scanner.run (left ++ right) = (scanner.run left).run right :=
  List.foldl_append

end Scanner

/- A text without single quotes. -/
def QuoteFree
    (text : String) : Prop :=
  '\'' ∉ text.toList

instance
    (text : String) :
    Decidable (QuoteFree text) :=
  inferInstanceAs (Decidable ('\'' ∉ text.toList))

theorem QuoteFree.append
    {left right : String}
    (hLeft : QuoteFree left)
    (hRight : QuoteFree right) :
    QuoteFree (left ++ right) := by
  unfold QuoteFree at *
  rw [String.toList_append, List.mem_append]
  rintro (hMem | hMem)
  · exact hLeft hMem
  · exact hRight hMem

namespace Scanner

/- Nothing happens outside of literals without a quote. -/
theorem run_outside
    (values : List String)
    {text : List Char}
    (hText : '\'' ∉ text) :
    run ⟨.outside, values⟩ text = ⟨.outside, values⟩ := by
  induction text with
  | nil => rfl
  | cons c rest ih =>
      have hParts := List.ne_and_not_mem_of_not_mem_cons hText
      have hStep :
          step ⟨.outside, values⟩ c = ⟨.outside, values⟩ := by
        simp [step, hParts.1.symm]
      simp only [run, List.foldl_cons, hStep]
      exact ih hParts.2

/- A text without quotes ends the literal before it. -/
theorem run_of_finish
    {scanner : Scanner}
    {values : List String}
    {text : List Char}
    (hFinish : scanner.finish = some values)
    (hText : '\'' ∉ text)
    (hNonempty : text ≠ []) :
    scanner.run text = ⟨.outside, values⟩ := by
  cases text with
  | nil => exact absurd rfl hNonempty
  | cons c rest =>
      have hParts := List.ne_and_not_mem_of_not_mem_cons hText
      have hStep : scanner.step c = ⟨.outside, values⟩ := by
        rcases scanner with ⟨position, found⟩
        cases position <;>
          simp_all [finish, step, hParts.1.symm]
      simp only [run, List.foldl_cons, hStep]
      exact run_outside values hParts.2

/- Inside a literal, the written characters are read back. -/
theorem run_quoteChars
    (seen value : List Char)
    (values : List String) :
    run ⟨.inside seen, values⟩ (value.flatMap Literal.quoteChar) =
      ⟨.inside (seen ++ value), values⟩ := by
  induction value generalizing seen with
  | nil => simp [run]
  | cons c rest ih =>
      have hChar :
          run ⟨.inside seen, values⟩ (Literal.quoteChar c) =
            ⟨.inside (seen ++ [c]), values⟩ := by
        by_cases hQuote : c = '\''
        · simp [hQuote, Literal.quoteChar, run, step]
        · simp [hQuote, Literal.quoteChar, run, step]
      rw [List.flatMap_cons, run_append, hChar, ih]
      simp

/- A written literal is read up to its closing quote. -/
theorem run_quote
    (value : String)
    (values : List String) :
    run ⟨.outside, values⟩ (Literal.quote value).toList =
      ⟨.afterQuote value.toList, values⟩ := by
  have hOpen :
      step ⟨.outside, values⟩ '\'' = ⟨.inside [], values⟩ := rfl
  have hClose :
      run ⟨.inside value.toList, values⟩ ['\''] =
        ⟨.afterQuote value.toList, values⟩ := rfl
  rw [Literal.quote, String.toList_ofList, run, List.foldl_cons, hOpen]
  rw [← run, run_append, run_quoteChars, List.nil_append, hClose]

------------------------------------------------------------
-- Texts that Yield Values
------------------------------------------------------------

/-
  A text yields values when a scanner that starts outside of
  literals adds just these and may end after it.
-/
def Yields
    (text : String)
    (values : List String) : Prop :=
  ∀ before : List String,
    (run ⟨.outside, before⟩ text.toList).finish =
      some (before ++ values)

theorem yields_of_quoteFree
    {text : String}
    (hText : QuoteFree text) :
    Yields text [] := by
  intro before
  rw [run_outside before hText, List.append_nil]
  rfl

theorem yields_empty :
    Yields "" [] :=
  yields_of_quoteFree (by decide)

theorem yields_quote
    (value : String) :
    Yields (Literal.quote value) [value] := by
  intro before
  rw [run_quote]
  simp [finish]

namespace Yields

variable {left right text between : String}
variable {leftValues rightValues values : List String}

/- Text without quotes may stand in front. -/
theorem after
    (hBetween : QuoteFree between)
    (hText : Yields text values) :
    Yields (between ++ text) values := by
  intro before
  rw [String.toList_append, run_append, run_outside before hBetween]
  exact hText before

/- Values add up across a separator without quotes. -/
theorem across
    (hLeft : Yields left leftValues)
    (hBetween : QuoteFree between)
    (hNonempty : between ≠ "")
    (hRight : Yields right rightValues) :
    Yields (left ++ between ++ right) (leftValues ++ rightValues) := by
  intro before
  have hSeparator : between.toList ≠ [] := by
    simpa using hNonempty
  rw [String.toList_append, String.toList_append, run_append,
    run_append, run_of_finish (hLeft before) hBetween hSeparator,
    hRight (before ++ leftValues), List.append_assoc]

/- A nonempty text without quotes may follow. -/
theorem followed
    (hText : Yields text values)
    (hBetween : QuoteFree between)
    (hNonempty : between ≠ "") :
    Yields (text ++ between) values := by
  have hAcross := hText.across hBetween hNonempty yields_empty
  simpa using hAcross

theorem parenthesized
    (hText : Yields text values) :
    Yields ("(" ++ text ++ ")") values :=
  (hText.after (by decide)).followed (by decide) (by decide)

end Yields

end Scanner

------------------------------------------------------------
-- Composed Texts
------------------------------------------------------------

instance : PlainTexts QuoteFree where
  append := QuoteFree.append
  markFree hText := hText.1

/- A composed text yields the values of its literals. -/
theorem Composed.yields
    {text : String}
    {values : List String}
    (hText : Composed QuoteFree text values) :
    Scanner.Yields text values := by
  induction hText with
  | plain hText => exact Scanner.yields_of_quoteFree hText
  | quote value => exact Scanner.yields_quote value
  | after hLead _ hText => exact hText.after hLead
  | across _ hBetween hNonempty _ hLeft hRight =>
      exact hLeft.across hBetween hNonempty hRight
  | parenthesized _ hText => exact hText.parenthesized

------------------------------------------------------------
-- Compiled Documents
------------------------------------------------------------

/-
  String literals cannot break out of their quotes.  Scanning
  a compiled text ends outside of any literal and finds the
  values of the rendered string literals, in textual order,
  whatever these values are.
-/
theorem Document.scan_compile
    (dialect : Dialect)
    (document : Document)
    (sql : String)
    (hDialect : dialect.AllTexts QuoteFree)
    (hNames : ∀ name ∈ document.names, QuoteFree name)
    (hSql : document.compile dialect = .text sql) :
    Scanner.scan sql = some document.strings := by
  have hComposed := composed_compile hDialect hNames hSql
  exact hComposed.yields []

/-
  Two literals made of quotes and a separator, and an empty
  one, side by side.
-/
theorem Document.scan_compile_of_quotes :
    let document : Document :=
      .relation
        (.selection
          (.binary "="
            (.binary "||"
              (.literal (.string "'"))
              (.literal (.string "', '")))
            (.literal (.string "")))
          (.table ⟨"t", []⟩))
    document.compile Dialect.generic =
        .text "t WHERE '''' || ''', ''' = ''" ∧
      Scanner.scan "t WHERE '''' || ''', ''' = ''" =
        some ["'", "', '", ""] := by
  intro document
  have hSql :
      document.compile Dialect.generic =
        .text "t WHERE '''' || ''', ''' = ''" := by
    decide
  have hDialect : Dialect.generic.AllTexts QuoteFree :=
    Dialect.allTexts_ofEntries _ (by decide) (by decide)
  have hNames : ∀ name ∈ document.names, QuoteFree name := by
    decide
  exact ⟨hSql,
    Document.scan_compile Dialect.generic document _ hDialect hNames
      hSql⟩

end SqlCompiler
