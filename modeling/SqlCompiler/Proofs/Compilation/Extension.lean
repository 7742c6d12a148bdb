import Mathlib.Data.List.Flatten
import SqlCompiler.Dialect.BuiltIn
import SqlCompiler.Operator.Table
import SqlCompiler.Proofs.Compilation.Passes

/-
  This file compares compilations in a dialect and in one that
  knows more operators.  How the operators are written and how
  tightly they bind may differ at will: the larger dialect
  reports some of the problems of the smaller one, in the same
  order, and no others.

  Key definitions include:
    * `Dialect.Extends`

  Key theorems include:
    * `OperatorTable.layeredOver_extends_base`
    * `OperatorTable.layeredOver_extends_table`
    * `Expr.faults_sublist`
    * `Relation.faults_sublist`
    * `Document.problems_shrink`
-/

namespace SqlCompiler

------------------------------------------------------------
-- Dialects that Know More
------------------------------------------------------------

/- The larger dialect knows all symbols of the smaller one. -/
structure Dialect.Extends
    (larger smaller : Dialect) : Prop where
  binary :
    ∀ symbol,
      (smaller.binary symbol).isSome = true →
        (larger.binary symbol).isSome = true
  unary :
    ∀ symbol,
      (smaller.unary symbol).isSome = true →
        (larger.unary symbol).isSome = true

namespace OperatorTable

variable (table : OperatorTable) (base : Dialect)

/- A table hides operators of its base but loses none. -/
theorem layeredOver_extends_base :
    (table.layeredOver base).Extends base where
  binary := by
    intro symbol hKnown
    simp [layeredOver, hKnown]
  unary := by
    intro symbol hKnown
    simp [layeredOver, hKnown]

theorem layeredOver_extends_table :
    (table.layeredOver base).Extends table.toDialect where
  binary := by
    intro symbol hKnown
    have hTable : (table.binary.find? symbol).isSome = true := hKnown
    simp [layeredOver, hTable]
  unary := by
    intro symbol hKnown
    have hTable : (table.unary.find? symbol).isSome = true := hKnown
    simp [layeredOver, hTable]

end OperatorTable

------------------------------------------------------------
-- Faults of Trees
------------------------------------------------------------

/- A problem that is reported less often. -/
theorem sublist_of_known
    {known more : Option Operator}
    (hMore : known.isSome = true → more.isSome = true)
    (problem : Problem) :
    (if more.isNone then [problem] else []).Sublist
      (if known.isNone then [problem] else []) := by
  cases more with
  | some operator => exact List.nil_sublist _
  | none =>
      cases known with
      | none => exact List.Sublist.refl _
      | some operator => exact absurd (hMore rfl) (by decide)

namespace Expr

variable {larger smaller : Dialect}

theorem faults_sublist
    (hExtends : larger.Extends smaller)
    (expr : Expr) :
    (expr.faults larger).Sublist (expr.faults smaller) := by
  induction expr using inductionOnArgs with
  | literal value => exact List.nil_sublist _
  | binary op left right hLeft hRight =>
      simp only [faults]
      exact (hLeft.append
        (sublist_of_known (hExtends.binary op) _)).append hRight
  | unary op operand hOperand =>
      simp only [faults]
      exact (sublist_of_known (hExtends.unary op) _).append hOperand
  | call name args hArgs =>
      simp only [faults]
      rw [faultsOfEach_eq_flatMap, faultsOfEach_eq_flatMap]
      exact List.Sublist.flatMap_right args hArgs
  | column name table => exact List.nil_sublist _
  | reference target =>
      simp only [faults]
      exact List.Sublist.refl _
  | aliased name expr hExpr =>
      simp only [faults]
      exact hExpr
  | parameter name => exact List.Sublist.refl _
  | error cause => exact List.Sublist.refl _

theorem faultsOfEach_sublist
    (hExtends : larger.Extends smaller)
    (exprs : List Expr) :
    (faultsOfEach larger exprs).Sublist (faultsOfEach smaller exprs) := by
  rw [faultsOfEach_eq_flatMap, faultsOfEach_eq_flatMap]
  exact List.Sublist.flatMap_right exprs
    fun expr _ => expr.faults_sublist hExtends

end Expr

theorem Grouping.faults_sublist
    {larger smaller : Dialect}
    (hExtends : larger.Extends smaller)
    (grouping : Grouping) :
    (grouping.faults larger).Sublist (grouping.faults smaller) := by
  cases grouping with
  | key expr => exact expr.faults_sublist hExtends
  | sets lists =>
      exact List.Sublist.flatMap_right lists
        fun set _ => Expr.faultsOfEach_sublist hExtends set
  | cube exprs => exact Expr.faultsOfEach_sublist hExtends exprs
  | rollup exprs => exact Expr.faultsOfEach_sublist hExtends exprs

namespace Relation

variable {larger smaller : Dialect}

theorem faults_sublist
    (hExtends : larger.Extends smaller)
    (relation : Relation) :
    (relation.faults larger).Sublist (relation.faults smaller) := by
  induction relation with
  | empty => exact List.Sublist.refl _
  | table base => exact List.Sublist.refl _
  | rename name source hSource => exact hSource
  | projection selectList source hSource =>
      refine (Expr.faultsOfEach_sublist hExtends selectList).append ?_
      cases source with
      | empty => exact List.Sublist.refl _
      | _ => exact hSource
  | selection predicate source hSource =>
      exact hSource.append (predicate.faults_sublist hExtends)
  | join kind left right predicate hLeft hRight =>
      refine (hLeft.append hRight).append ?_
      cases predicate with
      | none => exact List.Sublist.refl _
      | some predicate => exact predicate.faults_sublist hExtends
  | group keys aggregates source hSource =>
      have hKeys :
          (keys.flatMap (Grouping.faults larger)).Sublist
            (keys.flatMap (Grouping.faults smaller)) :=
        List.Sublist.flatMap_right keys
          fun key _ => key.faults_sublist hExtends
      refine (hKeys.append
        (Expr.faultsOfEach_sublist hExtends aggregates)).append ?_
      cases source with
      | empty => exact List.Sublist.refl _
      | _ => exact hSource
  | error cause inside => exact List.Sublist.refl _

end Relation

------------------------------------------------------------
-- Problems of Documents
------------------------------------------------------------

namespace Document

variable {larger smaller : Dialect}

theorem problems_sublist
    (hExtends : larger.Extends smaller)
    (document : Document) :
    (document.compile larger).problems.Sublist
      (document.compile smaller).problems := by
  rw [problems_compile, problems_compile]
  cases document with
  | relation tree => exact tree.faults_sublist hExtends
  | expression tree => exact tree.faults_sublist hExtends

theorem compiles_of_extends
    (hExtends : larger.Extends smaller)
    {document : Document}
    (hSmaller : ∃ sql, document.compile smaller = .text sql) :
    ∃ sql, document.compile larger = .text sql := by
  have hSublist := document.problems_sublist hExtends
  rw [Fragment.problems_eq_nil_iff.2 hSmaller] at hSublist
  exact Fragment.problems_eq_nil_iff.1 (List.sublist_nil.1 hSublist)

/-
  More operators never mean more problems.  The problems in a
  larger dialect are a sublist of those in a smaller one.  For
  a table over a base, they are a sublist of the problems in
  the base and of those in the table alone, and the document
  compiles if it does in one of the two.
-/
theorem problems_shrink
    (document : Document) :
    (∀ smaller larger : Dialect,
      larger.Extends smaller →
        (document.compile larger).problems.Sublist
          (document.compile smaller).problems) ∧
      ∀ (table : OperatorTable) (base : Dialect),
        let layered := document.compile (table.layeredOver base)
        layered.problems.Sublist (document.compile base).problems ∧
          layered.problems.Sublist
            (document.compile table.toDialect).problems ∧
          ((∃ sql, document.compile base = .text sql) ∨
              (∃ sql, document.compile table.toDialect = .text sql) →
            ∃ sql, layered = .text sql) := by
  refine ⟨fun _ _ hExtends => document.problems_sublist hExtends, ?_⟩
  intro table base
  have hBase := table.layeredOver_extends_base base
  have hTable := table.layeredOver_extends_table base
  refine ⟨document.problems_sublist hBase,
    document.problems_sublist hTable, ?_⟩
  rintro (hCompiles | hCompiles)
  · exact compiles_of_extends hBase hCompiles
  · exact compiles_of_extends hTable hCompiles

/-
  A table with one operator over the generic dialect.  Each of
  the two lacks an operator that the other one has, and both
  lack a third one in between.
-/
theorem problems_shrink_at_comparison :
    let one : Expr := .literal (.integer 1)
    let table : OperatorTable :=
      (OperatorTable.mk "custom" .empty .empty).withBinary
        "<=>" "IS NOT DISTINCT FROM" 3
    let layered := table.layeredOver .generic
    let failing : Document :=
      .expression
        (.binary "<=>" (.binary "??" one (.parameter "p"))
          (.plus one one))
    let sum : Document := .expression (.plus one one)
    (layered.Extends .generic ∧
      (failing.compile layered).problems.Sublist
        [.unknownBinary "??", .unsupported "parameter binding",
          .unknownBinary "<=>"]) ∧
      (failing.compile layered).problems.Sublist
        [.unknownBinary "??", .unsupported "parameter binding",
          .unknownBinary "+"] ∧
      sum.compile .generic = .text "1 + 1" ∧
      ∃ sql, sum.compile layered = .text sql := by
  intro one table layered failing sum
  have hExtends : layered.Extends .generic :=
    table.layeredOver_extends_base .generic
  have hSum : sum.compile .generic = .text "1 + 1" := by
    decide
  have hLayered := (problems_shrink failing).2 table .generic
  have hCompiles := ((problems_shrink sum).2 table .generic).2.2
  exact ⟨⟨hExtends, (problems_shrink failing).1 _ _ hExtends⟩,
    hLayered.2.1, hSum, hCompiles (.inl ⟨_, hSum⟩)⟩

end Document

end SqlCompiler
