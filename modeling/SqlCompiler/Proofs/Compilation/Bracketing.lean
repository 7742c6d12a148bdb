import SqlCompiler.Proofs.Compilation.Quoting

/-
  This file shows that the parentheses of compiled texts are
  balanced.  String literals may hold parentheses and quotes of
  their own, so only what a scanner sees outside of literals
  counts.

  Key definitions include:
    * `Scanner.outside`
    * `Scanner.Closes`

  Key theorems include:
    * `Scanner.outsideFrom_append`
    * `Scanner.outsideFrom_quote`
    * `Composed.closes`
    * `Document.compile_balances_parentheses`
-/

namespace SqlCompiler

------------------------------------------------------------
-- Outside of Literals
------------------------------------------------------------

namespace Scanner

/-
  The characters that leave a scanner outside of literals.  The
  quotes around a literal do not.
-/
def outsideFrom
    (scanner : Scanner) : List Char → List Char
  | [] => []
  | c :: rest =>
      if (scanner.step c).position = .outside then
        c :: outsideFrom (scanner.step c) rest
      else
        outsideFrom (scanner.step c) rest

/- The characters of a text that belong to no literal. -/
def outside
    (text : List Char) : List Char :=
  outsideFrom ⟨.outside, []⟩ text

theorem outsideFrom_append
    (scanner : Scanner)
    (left right : List Char) :
    scanner.outsideFrom (left ++ right) =
      scanner.outsideFrom left ++
        (scanner.run left).outsideFrom right := by
  induction left generalizing scanner with
  | nil => rfl
  | cons c rest ih =>
      have hRun :
          scanner.run (c :: rest) = (scanner.step c).run rest :=
        rfl
      rw [List.cons_append, outsideFrom, outsideFrom, hRun, ih]
      split
      · rfl
      · rfl

/- Where a literal may end, text without quotes is outside. -/
theorem outsideFrom_of_finish
    {scanner : Scanner}
    {values : List String}
    {text : List Char}
    (hFinish : scanner.finish = some values)
    (hText : '\'' ∉ text) :
    scanner.outsideFrom text = text := by
  induction text generalizing scanner with
  | nil => rfl
  | cons c rest ih =>
      have hParts := List.ne_and_not_mem_of_not_mem_cons hText
      have hRun : scanner.run [c] = ⟨.outside, values⟩ :=
        run_of_finish hFinish (by simpa using hParts.1)
          (List.cons_ne_nil c [])
      have hStep : scanner.step c = ⟨.outside, values⟩ := hRun
      rw [outsideFrom, hStep, if_pos rfl, ih rfl hParts.2]

/- Nothing of a written value is outside. -/
theorem outsideFrom_quoteChars
    (seen value : List Char)
    (values : List String) :
    outsideFrom ⟨.inside seen, values⟩
        (value.flatMap Literal.quoteChar) =
      [] := by
  induction value generalizing seen with
  | nil => rfl
  | cons c rest ih =>
      have hRun :
          run ⟨.inside seen, values⟩ (Literal.quoteChar c) =
            ⟨.inside (seen ++ [c]), values⟩ := by
        simpa using run_quoteChars seen [c] values
      have hChar :
          outsideFrom ⟨.inside seen, values⟩ (Literal.quoteChar c) =
            [] := by
        by_cases hQuote : c = '\''
        · simp [hQuote, Literal.quoteChar, outsideFrom, step]
        · simp [hQuote, Literal.quoteChar, outsideFrom, step]
      rw [List.flatMap_cons, outsideFrom_append, hChar, hRun, ih]
      rfl

theorem outsideFrom_quote
    (value : String)
    (values : List String) :
    outsideFrom ⟨.outside, values⟩ (Literal.quote value).toList =
      [] := by
  have hOpen :
      outsideFrom ⟨.outside, values⟩ ['\''] = [] := rfl
  have hOpened :
      run ⟨.outside, values⟩ ['\''] = ⟨.inside [], values⟩ := rfl
  have hClose :
      outsideFrom ⟨.inside value.toList, values⟩ ['\''] = [] := rfl
  rw [Literal.quote, String.toList_ofList, ← List.singleton_append,
    outsideFrom_append, hOpen, hOpened, outsideFrom_append,
    outsideFrom_quoteChars, run_quoteChars, List.nil_append,
    List.nil_append, List.nil_append, hClose]

end Scanner

------------------------------------------------------------
-- Balance outside of Literals
------------------------------------------------------------

/-
  A scanner may stop after the text, and what it has seen outside
  of literals is balanced.
-/
def Scanner.Closes
    (text : String) : Prop :=
  ∀ before : List String,
    (∃ values,
      (run ⟨.outside, before⟩ text.toList).finish = some values) ∧
      Text.Balanced (outsideFrom ⟨.outside, before⟩ text.toList)

namespace Scanner.Closes

variable {left right text between : String}

theorem of_markFree
    (hText : MarkFree text) :
    Closes text := by
  intro before
  rw [run_outside before hText.1, outsideFrom_of_finish rfl hText.1]
  exact ⟨⟨before, rfl⟩, hText.2.balanced⟩

theorem of_quote
    (value : String) :
    Closes (Literal.quote value) := by
  intro before
  rw [run_quote, outsideFrom_quote]
  exact ⟨⟨_, rfl⟩, rfl⟩

/- A separator takes the scanner from one text to the next. -/
theorem across
    (hLeft : Closes left)
    (hBetween : MarkFree between)
    (hNonempty : between ≠ "")
    (hRight : Closes right) :
    Closes (left ++ between ++ right) := by
  intro before
  rcases hLeft before with ⟨⟨values, hFinish⟩, hLeftBalanced⟩
  rcases hRight values with ⟨hRightFinish, hRightBalanced⟩
  have hSeparator : between.toList ≠ [] := by
    simpa using hNonempty
  have hRun := run_of_finish hFinish hBetween.1 hSeparator
  rw [String.toList_append, String.toList_append, run_append,
    run_append, outsideFrom_append, outsideFrom_append, run_append,
    hRun, outsideFrom_of_finish hFinish hBetween.1]
  exact ⟨hRightFinish,
    (hLeftBalanced.append hBetween.2.balanced).append hRightBalanced⟩

theorem after
    {lead : String}
    (hLead : MarkFree lead)
    (hText : Closes text) :
    Closes (lead ++ text) := by
  intro before
  rcases hText before with ⟨hFinish, hBalanced⟩
  rw [String.toList_append, run_append, outsideFrom_append,
    run_outside before hLead.1, outsideFrom_of_finish rfl hLead.1]
  exact ⟨hFinish, hLead.2.balanced.append hBalanced⟩

/- The pair itself is outside of literals. -/
theorem parenthesized
    (hText : Closes text) :
    Closes ("(" ++ text ++ ")") := by
  intro before
  rcases hText before with ⟨⟨values, hFinish⟩, hBalanced⟩
  have hOpen : "(".toList = ['('] := rfl
  have hClose : ")".toList = [')'] := rfl
  have hRun :
      (run ⟨.outside, before⟩ text.toList).run [')'] =
        ⟨.outside, values⟩ :=
    run_of_finish hFinish (by decide) (by decide)
  have hOpened :
      run ⟨.outside, before⟩ ['('] = ⟨.outside, before⟩ := rfl
  rw [String.toList_append, String.toList_append, hOpen, hClose,
    run_append, run_append, outsideFrom_append, outsideFrom_append,
    run_append, hOpened, hRun, outsideFrom_of_finish hFinish (by decide)]
  exact ⟨⟨values, rfl⟩, hBalanced.parenthesized⟩

end Scanner.Closes

/- Every composed text is balanced outside of literals. -/
theorem Composed.closes
    {text : String}
    {values : List String}
    (hText : Composed MarkFree text values) :
    Scanner.Closes text := by
  induction hText with
  | plain hText => exact .of_markFree hText
  | quote value => exact .of_quote value
  | after hLead _ hText => exact .after hLead hText
  | across _ hBetween hNonempty _ hLeft hRight =>
      exact hLeft.across hBetween hNonempty hRight
  | parenthesized _ hText => exact hText.parenthesized

------------------------------------------------------------
-- Compiled Documents
------------------------------------------------------------

namespace Document

/-
  Compiled texts are well bracketed.  When neither the operators
  nor the names bring in parentheses or quotes, then outside of
  literals no parenthesis is closed before it was opened, and all
  are closed in the end, whatever the literals hold.
-/
theorem compile_balances_parentheses
    (dialect : Dialect)
    (document : Document)
    (sql : String)
    (hDialect : dialect.AllTexts MarkFree)
    (hNames : ∀ name ∈ document.names, MarkFree name)
    (hSql : document.compile dialect = .text sql) :
    (∀ front back,
      sql.toList = front ++ back →
        (Scanner.outside front).count ')' ≤
          (Scanner.outside front).count '(') ∧
      (Scanner.outside sql.toList).count ')' =
        (Scanner.outside sql.toList).count '(' := by
  have hComposed := composed_compile hDialect hNames hSql
  have hBalanced : Text.Balanced (Scanner.outside sql.toList) :=
    (hComposed.closes []).2
  refine ⟨?_, hBalanced.count_eq⟩
  intro front back hSplit
  rw [hSplit, Scanner.outside, Scanner.outsideFrom_append] at hBalanced
  exact hBalanced.count_le

/-
  Grouping sets with a wrapped operand, a call and an empty list,
  where a literal holds parentheses and a quote of its own.
-/
theorem compile_balances_parentheses_in_groups :
    let sum : Expr :=
      .plus (.reference (.named "a"))
        (.call "f" [.literal (.string ")'(")])
    let document : Document :=
      .relation
        (.group
          [.sets [[.times sum (.literal (.integer 2))], []],
            .rollup [.reference (.qualified "t" "b")]]
          [] .empty)
    let sql := "GROUP BY GROUPING SETS (((a + f(')''(')) * 2), ()), " ++
      "ROLLUP (t.b)"
    document.compile Dialect.generic = .text sql ∧
      (∀ front back,
        sql.toList = front ++ back →
          (Scanner.outside front).count ')' ≤
            (Scanner.outside front).count '(') ∧
      (Scanner.outside sql.toList).count ')' =
        (Scanner.outside sql.toList).count '(' := by
  intro sum document sql
  have hSql : document.compile Dialect.generic = .text sql := by
    decide
  have hDialect : Dialect.generic.AllTexts MarkFree :=
    Dialect.allTexts_ofEntries _ (by decide) (by decide)
  have hNames : ∀ name ∈ document.names, MarkFree name := by
    decide
  exact ⟨hSql,
    compile_balances_parentheses Dialect.generic document sql hDialect
      hNames hSql⟩

end Document

end SqlCompiler
