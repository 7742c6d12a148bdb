import Mathlib.Data.List.Basic
import SqlCompiler.Proofs.Compilation.Agreement
import SqlCompiler.Proofs.Compilation.Extension

/-
  This file says what precedences are good for.  They decide
  where parentheses stand and nothing else: dialects that write
  all operators alike report the same problems, and their texts
  are the same without parentheses.

  Key definitions include:
    * `Dialect.WriteAlike`
    * `Text.unparenthesized`

  Key theorems include:
    * `Document.faults_eq_of_writeAlike`
    * `Expr.unparenthesized_render`
    * `Relation.unparenthesized_render`
    * `Document.precedences_only_move_parentheses`
-/

namespace SqlCompiler

------------------------------------------------------------
-- Dialects that Write Alike
------------------------------------------------------------

/-
  Both dialects know the same operators and write them in the
  same way.  Nothing is said about how tightly these bind.
-/
def Dialect.WriteAlike
    (one other : Dialect) : Prop :=
  ∀ symbol : OperatorSymbol, symbol.text? one = symbol.text? other

namespace Dialect.WriteAlike

variable {one other : Dialect}

theorem symm
    (hAlike : one.WriteAlike other) :
    other.WriteAlike one :=
  fun symbol => (hAlike symbol).symm

theorem isSome_of_written
    {found otherFound : Option Operator}
    (hWritten : found.map (·.text) = otherFound.map (·.text))
    (hFound : otherFound.isSome = true) :
    found.isSome = true := by
  rw [← Option.isSome_map, hWritten, Option.isSome_map]
  exact hFound

/- Each of them knows whatever the other one knows. -/
theorem extends_other
    (hAlike : one.WriteAlike other) :
    one.Extends other where
  binary symbol := isSome_of_written (hAlike (.binary symbol))
  unary symbol := isSome_of_written (hAlike (.unary symbol))

end Dialect.WriteAlike

namespace Dialect

variable (dialect : Dialect) (op : String)

theorem binaryText_eq_getD :
    dialect.binaryText op =
      ((OperatorSymbol.binary op).text? dialect).getD op := by
  simp only [binaryText, OperatorSymbol.text?]
  cases dialect.binary op <;> rfl

theorem unaryText_eq_getD :
    dialect.unaryText op =
      ((OperatorSymbol.unary op).text? dialect).getD op := by
  simp only [unaryText, OperatorSymbol.text?]
  cases dialect.unary op <;> rfl

end Dialect

/-
  Each list of problems is a sublist of the other one, so they
  are the same.
-/
theorem Document.faults_eq_of_writeAlike
    {one other : Dialect}
    (hAlike : one.WriteAlike other)
    (document : Document) :
    document.faults one = document.faults other := by
  rw [← problems_compile, ← problems_compile]
  apply List.Sublist.antisymm
  · exact document.problems_sublist hAlike.extends_other
  · exact document.problems_sublist hAlike.symm.extends_other

------------------------------------------------------------
-- Texts without Parentheses
------------------------------------------------------------

namespace Text

/- What is left when all parentheses are deleted. -/
def unparenthesized
    (text : String) : List Char :=
  text.toList.filter fun c => c ≠ '(' ∧ c ≠ ')'

@[simp]
theorem unparenthesized_append
    (left right : String) :
    unparenthesized (left ++ right) =
      unparenthesized left ++ unparenthesized right := by
  unfold unparenthesized
  rw [String.toList_append, List.filter_append]

@[simp]
theorem unparenthesized_opening :
    unparenthesized "(" = [] :=
  rfl

@[simp]
theorem unparenthesized_closing :
    unparenthesized ")" = [] :=
  rfl

/- Items that agree one by one agree with commas between them. -/
theorem unparenthesized_intercalate
    {α : Type}
    {sql otherSql : α → String}
    {items : List α}
    (hItems :
      ∀ item ∈ items,
        unparenthesized (sql item) = unparenthesized (otherSql item)) :
    unparenthesized (", ".intercalate (items.map sql)) =
      unparenthesized (", ".intercalate (items.map otherSql)) := by
  induction items with
  | nil => rfl
  | cons item rest ih =>
      have hItem := hItems item List.mem_cons_self
      have hRest :=
        ih fun other hMem => hItems other (List.mem_cons_of_mem _ hMem)
      cases rest with
      | nil => simpa using hItem
      | cons next rest =>
          simp only [List.map_cons, String.intercalate_cons_cons,
            unparenthesized_append] at hRest ⊢
          rw [hItem, hRest]

end Text

------------------------------------------------------------
-- Rendered Trees
------------------------------------------------------------

open Text (unparenthesized)

variable {one other : Dialect}

namespace Expr

/- Wrapped or not, the left operand leaves the same text. -/
theorem unparenthesized_left
    (dialect : Dialect)
    (op : String)
    (left : Expr) :
    unparenthesized
        (if left.leftWrapped dialect op then
          "(" ++ left.render dialect ++ ")"
        else
          left.render dialect) =
      unparenthesized (left.render dialect) := by
  split
  · simp
  · rfl

theorem unparenthesized_render
    (hAlike : one.WriteAlike other)
    (expr : Expr) :
    unparenthesized (expr.render one) =
      unparenthesized (expr.render other) := by
  induction expr using inductionOnArgs with
  | literal value => rfl
  | binary op left right hLeft hRight =>
      simp only [render, Text.unparenthesized_append,
        unparenthesized_left]
      rw [hLeft, hRight, one.binaryText_eq_getD,
        other.binaryText_eq_getD, hAlike]
  | unary op operand hOperand =>
      simp only [render, Text.unparenthesized_append]
      rw [hOperand, one.unaryText_eq_getD, other.unaryText_eq_getD,
        hAlike]
  | call name args hArgs =>
      simp only [render, renderEach_eq_map, Text.unparenthesized_append]
      rw [Text.unparenthesized_intercalate hArgs]
  | column name table => rfl
  | reference target => rfl
  | aliased name expr hExpr =>
      simp only [render, Text.unparenthesized_append]
      rw [hExpr]
  | parameter name => rfl
  | error cause => rfl

theorem unparenthesized_renderAll
    (hAlike : one.WriteAlike other)
    (exprs : List Expr) :
    unparenthesized (renderAll one exprs) =
      unparenthesized (renderAll other exprs) :=
  Text.unparenthesized_intercalate fun expr _ =>
    expr.unparenthesized_render hAlike

end Expr

theorem Grouping.unparenthesized_render
    (hAlike : one.WriteAlike other)
    (grouping : Grouping) :
    unparenthesized (grouping.render one) =
      unparenthesized (grouping.render other) := by
  cases grouping with
  | key expr => exact expr.unparenthesized_render hAlike
  | sets lists =>
      simp only [render, Text.unparenthesized_append]
      rw [Text.unparenthesized_intercalate]
      intro set _
      simp only [Text.unparenthesized_append]
      rw [Expr.unparenthesized_renderAll hAlike set]
  | cube exprs =>
      simp only [render, Text.unparenthesized_append]
      rw [Expr.unparenthesized_renderAll hAlike exprs]
  | rollup exprs =>
      simp only [render, Text.unparenthesized_append]
      rw [Expr.unparenthesized_renderAll hAlike exprs]

theorem Relation.unparenthesized_render
    (hAlike : one.WriteAlike other)
    (relation : Relation) :
    unparenthesized (relation.render one) =
      unparenthesized (relation.render other) := by
  induction relation with
  | empty => rfl
  | table base => rfl
  | rename name source hSource =>
      simp only [render, Text.unparenthesized_append]
      rw [hSource]
  | projection selectList source hSource =>
      simp only [render, Text.unparenthesized_append]
      rw [Expr.unparenthesized_renderAll hAlike selectList]
      congr 1
      split
      · rfl
      · rw [Text.unparenthesized_append, Text.unparenthesized_append,
          hSource]
  | selection predicate source hSource =>
      simp only [render, Text.unparenthesized_append]
      rw [hSource, predicate.unparenthesized_render hAlike]
  | join kind left right predicate hLeft hRight =>
      simp only [render, Text.unparenthesized_append]
      rw [hLeft, hRight]
      cases predicate with
      | none => rfl
      | some predicate =>
          simp only [Text.unparenthesized_append]
          rw [predicate.unparenthesized_render hAlike]
  | group keys aggregates source _ =>
      simp only [render, Text.unparenthesized_append]
      rw [Text.unparenthesized_intercalate fun key _ =>
        key.unparenthesized_render hAlike]
  | error cause inside => rfl

------------------------------------------------------------
-- Compiled Documents
------------------------------------------------------------

namespace Document

theorem unparenthesized_render
    (hAlike : one.WriteAlike other)
    (document : Document) :
    unparenthesized (document.render one) =
      unparenthesized (document.render other) := by
  cases document with
  | relation tree => exact tree.unparenthesized_render hAlike
  | expression tree => exact tree.unparenthesized_render hAlike

/-
  Precedences only move parentheses.  Dialects that write all
  operators alike, however tightly these bind, both fail with the
  same problems, or both give texts that are the same without
  parentheses.
-/
theorem precedences_only_move_parentheses
    (document : Document)
    {one other : Dialect}
    (hAlike : one.WriteAlike other) :
    (∃ problems,
      document.compile one = .failed problems ∧
        document.compile other = .failed problems) ∨
      ∃ sql otherSql,
        document.compile one = .text sql ∧
          document.compile other = .text otherSql ∧
          Text.unparenthesized sql = Text.unparenthesized otherSql := by
  rw [compile_eq_settle, compile_eq_settle,
    faults_eq_of_writeAlike hAlike]
  cases document.faults other with
  | nil =>
      exact .inr ⟨_, _, rfl, rfl, document.unparenthesized_render hAlike⟩
  | cons first others => exact .inl ⟨⟨first, others⟩, rfl, rfl⟩

/-
  Addition and multiplication with exchanged precedences wrap
  different operands of the same tree.
-/
theorem precedences_only_move_parentheses_of_exchange :
    let usual : Dialect :=
      .ofEntries "usual" [("+", ⟨"+", 1⟩), ("*", ⟨"*", 2⟩)] []
    let exchanged : Dialect :=
      .ofEntries "exchanged" [("+", ⟨"+", 2⟩), ("*", ⟨"*", 1⟩)] []
    let number (value : Int64) : Expr := .literal (.integer value)
    let document : Document :=
      .expression
        (.call "f"
          [.times (.plus (number 1) (number 2)) (number 3),
            .plus (.times (number 4) (number 5)) (number 6)])
    usual.WriteAlike exchanged ∧
      document.compile usual = .text "f((1 + 2) * 3, 4 * 5 + 6)" ∧
      document.compile exchanged = .text "f(1 + 2 * 3, (4 * 5) + 6)" ∧
      Text.unparenthesized "f((1 + 2) * 3, 4 * 5 + 6)" =
        Text.unparenthesized "f(1 + 2 * 3, (4 * 5) + 6)" := by
  intro usual exchanged number document
  have hAlike : usual.WriteAlike exchanged := by
    intro symbol
    cases symbol with
    | unary symbol => rfl
    | binary symbol =>
        simp only [OperatorSymbol.text?, usual, exchanged,
          Dialect.ofEntries, Dialect.lookup?, List.find?_cons,
          List.find?_nil]
        cases Text.sameIgnoringCase "+" symbol <;>
          cases Text.sameIgnoringCase "*" symbol <;> rfl
  have hUsual :
      document.compile usual = .text "f((1 + 2) * 3, 4 * 5 + 6)" := by
    decide
  have hExchanged :
      document.compile exchanged =
        .text "f(1 + 2 * 3, (4 * 5) + 6)" := by
    decide
  refine ⟨hAlike, hUsual, hExchanged, ?_⟩
  rcases precedences_only_move_parentheses document hAlike with
    ⟨problems, hFailed, -⟩ | ⟨sql, otherSql, hSql, hOther, hSame⟩
  · rw [hUsual] at hFailed
    cases hFailed
  · rw [hUsual] at hSql
    rw [hExchanged] at hOther
    cases hSql
    cases hOther
    exact hSame

end Document

end SqlCompiler
