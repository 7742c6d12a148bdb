import Mathlib.Data.List.Flatten
import Mathlib.Data.List.Forall2
import SqlCompiler.Operator.Table
import SqlCompiler.Proofs.Compilation.Agreement
import SqlCompiler.Proofs.Compilation.Relabeling
import SqlCompiler.Proofs.Dialect
import SqlCompiler.Proofs.Operator.Map

/-
  This file compares trees that differ only in the case of the
  ASCII letters of their operators.  In a dialect whose tables
  have no two symbols that differ in this way, such trees have
  the same text, or problems that differ in case only.

  Key definitions include:
    * `OperatorMap.CaseDistinct`
    * `Dialect.Unambiguous`
    * `Problem.SameUpToCase`
    * `Problem.symbol?`
    * `Document.caseFolded`

  Key theorems include:
    * `Dialect.Unambiguous.pull_lowered`
    * `Document.symbols_of_problems`
    * `Document.compile_ignores_case`
-/

namespace SqlCompiler

------------------------------------------------------------
-- Lowered Symbols
------------------------------------------------------------

namespace Text

/- A lowered character is no capital, so it is lowered once. -/
theorem toLower_toLower
    (c : Char) :
    c.toLower.toLower = c.toLower := by
  by_cases hCapital : c.val ≥ 'A'.val ∧ c.val ≤ 'Z'.val
  · have hVal : c.toLower.val = c.val + ('a'.val - 'A'.val) :=
      congrArg Char.val (dif_pos hCapital)
    have hSmall :
        ¬ (c.toLower.val ≥ 'A'.val ∧ c.toLower.val ≤ 'Z'.val) := by
      rw [hVal]
      grind
    exact dif_neg hSmall
  · have hSame : c.toLower = c := dif_neg hCapital
    rw [hSame, hSame]

theorem caseKey_lowered
    (text : String) :
    caseKey (lowered text) = caseKey text := by
  unfold lowered caseKey
  rw [String.toList_ofList, List.map_map]
  apply List.map_congr_left
  intro c _
  exact toLower_toLower c

theorem sameIgnoringCase_of_lowered_eq
    {left right : String}
    (hEq : lowered left = lowered right) :
    sameIgnoringCase left right = true := by
  rw [sameIgnoringCase_iff, ← caseKey_lowered left, hEq,
    caseKey_lowered]

end Text

theorem Dialect.lookup?_lowered
    (entries : List Dialect.Entry)
    (symbol : String) :
    lookup? entries (Text.lowered symbol) = lookup? entries symbol := by
  unfold lookup? Text.sameIgnoringCase
  rw [Text.caseKey_lowered]

namespace OperatorMap

/- No two symbols of the map differ in case only. -/
def CaseDistinct
    (map : OperatorMap) : Prop :=
  map.entries.Pairwise fun a b =>
    Text.sameIgnoringCase a.1 b.1 = false

variable {map : OperatorMap}

/- Such a map has at most one variant of a symbol. -/
theorem CaseDistinct.rest_of_variants
    (hDistinct : map.CaseDistinct)
    {symbol : String}
    {first : Dialect.Entry}
    {rest : List Dialect.Entry}
    (hVariants : map.variants symbol = first :: rest) :
    rest = [] := by
  apply List.eq_nil_iff_forall_not_mem.2
  intro second hSecond
  have hKey :
      ∀ entry ∈ first :: rest,
        Text.caseKey entry.1 = Text.caseKey symbol := by
    intro entry hEntry
    rw [← hVariants] at hEntry
    exact (mem_variants_iff.1 hEntry).2
  have hSame : Text.sameIgnoringCase first.1 second.1 = true := by
    rw [Text.sameIgnoringCase_iff, hKey first List.mem_cons_self,
      hKey second (List.mem_cons_of_mem _ hSecond)]
  have hPairwise : (map.variants symbol).Pairwise fun a b =>
      Text.sameIgnoringCase a.1 b.1 = false :=
    hDistinct.filter _
  rw [hVariants] at hPairwise
  have hOther := (List.pairwise_cons.1 hPairwise).1 second hSecond
  exact absurd (hSame.symm.trans hOther) (by decide)

theorem CaseDistinct.find?_eq_head?
    (hDistinct : map.CaseDistinct)
    (symbol : String) :
    map.find? symbol = (map.variants symbol).head?.map (·.2) := by
  rw [find?_eq_variants]
  cases hVariants : map.variants symbol with
  | nil => rfl
  | cons first rest =>
      rw [hDistinct.rest_of_variants hVariants]
      by_cases hExact : first.1 = symbol
      · simp [hExact]
      · simp [hExact]

theorem CaseDistinct.find?_lowered
    (hDistinct : map.CaseDistinct)
    (symbol : String) :
    map.find? (Text.lowered symbol) = map.find? symbol := by
  rw [hDistinct.find?_eq_head?, hDistinct.find?_eq_head?,
    map.variants_congr (Text.caseKey_lowered symbol)]

end OperatorMap

/- No two symbols of one kind differ in case only. -/
structure OperatorTable.CaseDistinct
    (table : OperatorTable) : Prop where
  binary : table.binary.CaseDistinct
  unary : table.unary.CaseDistinct

namespace Dialect

/-
  The built-in dialects, tables without symbols that differ in
  case only, and such tables in front of these dialects.
-/
inductive Unambiguous : Dialect → Prop where
  | builtIn (builtIn : BuiltIn) :
      Unambiguous builtIn.dialect
  | table {table : OperatorTable} (hTable : table.CaseDistinct) :
      Unambiguous table.toDialect
  | layered {table : OperatorTable} {base : Dialect}
      (hTable : table.CaseDistinct) (hBase : Unambiguous base) :
      Unambiguous (table.layeredOver base)

theorem pull_lowered_ofEntries
    (name : String)
    (binary unary : List Entry) :
    (ofEntries name binary unary).pull Text.lowered =
      ofEntries name binary unary := by
  unfold pull ofEntries
  simp only [lookup?_lowered]

/- Lowered symbols mean the same in an unambiguous dialect. -/
theorem Unambiguous.pull_lowered
    {dialect : Dialect}
    (hDialect : dialect.Unambiguous) :
    dialect.pull Text.lowered = dialect := by
  induction hDialect with
  | builtIn builtIn => cases builtIn <;> exact pull_lowered_ofEntries _ _ _
  | table hTable =>
      simp only [pull, OperatorTable.toDialect,
        hTable.binary.find?_lowered, hTable.unary.find?_lowered]
  | layered hTable hBase ih =>
      have hBinary : ∀ symbol, _ = _ := congrFun (congrArg binary ih)
      have hUnary : ∀ symbol, _ = _ := congrFun (congrArg unary ih)
      simp only [pull] at hBinary hUnary
      simp only [pull, OperatorTable.layeredOver,
        hTable.binary.find?_lowered, hTable.unary.find?_lowered,
        hBinary, hUnary]

end Dialect

------------------------------------------------------------
-- Problems up to Case
------------------------------------------------------------

namespace Problem

/- The symbol of an operator that is reported as unknown. -/
def symbol? : Problem → Option OperatorSymbol
  | .unknownBinary symbol => some (.binary symbol)
  | .unknownUnary symbol => some (.unary symbol)
  | .binding _ | .internal _ | .unsupported _ => none

/- The same problem, except for the case of its symbol. -/
inductive SameUpToCase : Problem → Problem → Prop where
  | unknownBinary {symbol other : String}
      (hSame : Text.sameIgnoringCase symbol other = true) :
      SameUpToCase (.unknownBinary symbol) (.unknownBinary other)
  | unknownUnary {symbol other : String}
      (hSame : Text.sameIgnoringCase symbol other = true) :
      SameUpToCase (.unknownUnary symbol) (.unknownUnary other)
  | same (problem : Problem) :
      SameUpToCase problem problem

/- Problems without a symbol are the same already. -/
theorem sameUpToCase_of_relabel_eq
    {problem other : Problem}
    (hEq : problem.relabel Text.lowered = other.relabel Text.lowered) :
    problem.SameUpToCase other := by
  cases problem with
  | unknownBinary symbol =>
      cases other with
      | unknownBinary otherSymbol =>
          injection hEq with hLowered
          exact .unknownBinary
            (Text.sameIgnoringCase_of_lowered_eq hLowered)
      | _ => cases hEq
  | unknownUnary symbol =>
      cases other with
      | unknownUnary otherSymbol =>
          injection hEq with hLowered
          exact .unknownUnary
            (Text.sameIgnoringCase_of_lowered_eq hLowered)
      | _ => cases hEq
  | _ =>
      cases other <;> cases hEq
      exact .same _

end Problem

/- Fragments that are equal after a change of their problems. -/
theorem Fragment.text_or_failed_of_mapProblems_eq
    {one other : Fragment}
    {change : Problem → Problem}
    (hEq : one.mapProblems change = other.mapProblems change) :
    (∃ sql, one = .text sql ∧ other = .text sql) ∨
      ∃ problems otherProblems : Problems,
        one = .failed problems ∧ other = .failed otherProblems ∧
          List.Forall₂
            (fun problem other => change problem = change other)
            problems.toList otherProblems.toList := by
  have hProblems := congrArg Fragment.problems hEq
  rw [problems_mapProblems, problems_mapProblems] at hProblems
  cases one with
  | text sql =>
      cases other with
      | text otherSql => exact Or.inl ⟨sql, rfl, hEq.symm⟩
      | failed problems => cases hEq
  | failed problems =>
      cases other with
      | text sql => cases hEq
      | failed otherProblems =>
          refine Or.inr ⟨problems, otherProblems, rfl, rfl, ?_⟩
          have hForall : List.Forall₂ Eq _ _ :=
            List.forall₂_eq_eq_eq ▸ hProblems
          rwa [List.forall₂_map_left_iff,
            List.forall₂_map_right_iff] at hForall

------------------------------------------------------------
-- Symbols of Problems
------------------------------------------------------------

namespace Problem

/- What is reported only of an unknown operator. -/
theorem symbol?_sublist_of_condition
    {problem : Problem}
    {symbol : OperatorSymbol}
    (hSymbol : problem.symbol? = some symbol)
    (condition : Bool) :
    ((if condition then [problem] else []).filterMap symbol?).Sublist
      [symbol] := by
  cases condition with
  | false => exact List.nil_sublist _
  | true => simp [hSymbol]

theorem symbol?_sublist_flatMap
    {α : Type}
    {items : List α}
    {problemsOf : α → List Problem}
    {symbolsOf : α → List OperatorSymbol}
    (hItems :
      ∀ item ∈ items,
        ((problemsOf item).filterMap symbol?).Sublist
          (symbolsOf item)) :
    ((items.flatMap problemsOf).filterMap symbol?).Sublist
      (items.flatMap symbolsOf) := by
  rw [List.filterMap_flatMap]
  exact List.Sublist.flatMap_right items hItems

end Problem

namespace Expr

variable (dialect : Dialect)

theorem symbols_of_faults
    (expr : Expr) :
    ((expr.faults dialect).filterMap Problem.symbol?).Sublist
      expr.symbols := by
  induction expr using inductionOnArgs with
  | literal value => exact List.nil_sublist _
  | binary op left right hLeft hRight =>
      simp only [faults, symbols, List.filterMap_append]
      exact (hLeft.append
        (Problem.symbol?_sublist_of_condition rfl _)).append hRight
  | unary op operand hOperand =>
      simp only [faults, symbols, List.filterMap_append]
      exact (Problem.symbol?_sublist_of_condition rfl _).append hOperand
  | call name args hArgs =>
      simp only [faults, symbols]
      rw [faultsOfEach_eq_flatMap, symbolsOfEach_eq_flatMap]
      exact Problem.symbol?_sublist_flatMap hArgs
  | column name table => exact List.nil_sublist _
  | reference target =>
      rcases target with ⟨qualifier, name, error⟩
      cases error <;> cases name <;> exact List.nil_sublist _
  | aliased name expr hExpr =>
      simp only [faults, symbols]
      exact hExpr
  | parameter name => exact List.nil_sublist _
  | error cause => exact List.nil_sublist _

theorem symbols_of_faultsOfEach
    (exprs : List Expr) :
    ((faultsOfEach dialect exprs).filterMap Problem.symbol?).Sublist
      (symbolsOfEach exprs) := by
  rw [faultsOfEach_eq_flatMap, symbolsOfEach_eq_flatMap]
  exact Problem.symbol?_sublist_flatMap
    fun expr _ => expr.symbols_of_faults dialect

end Expr

theorem Grouping.symbols_of_faults
    (dialect : Dialect)
    (grouping : Grouping) :
    ((grouping.faults dialect).filterMap Problem.symbol?).Sublist
      grouping.symbols := by
  cases grouping with
  | key expr => exact expr.symbols_of_faults dialect
  | sets lists =>
      exact Problem.symbol?_sublist_flatMap
        fun set _ => Expr.symbols_of_faultsOfEach dialect set
  | cube exprs => exact Expr.symbols_of_faultsOfEach dialect exprs
  | rollup exprs => exact Expr.symbols_of_faultsOfEach dialect exprs

namespace Relation

variable (dialect : Dialect)

theorem symbols_of_faults
    (relation : Relation) :
    ((relation.faults dialect).filterMap Problem.symbol?).Sublist
      relation.symbols := by
  induction relation with
  | empty => exact List.nil_sublist _
  | table base => exact List.nil_sublist _
  | rename name source hSource => exact hSource
  | projection selectList source hSource =>
      simp only [faults, symbols, List.filterMap_append]
      refine (Expr.symbols_of_faultsOfEach dialect selectList).append ?_
      cases source with
      | empty => exact List.nil_sublist _
      | _ => exact hSource
  | selection predicate source hSource =>
      simp only [faults, symbols, List.filterMap_append]
      exact hSource.append (predicate.symbols_of_faults dialect)
  | join kind left right predicate hLeft hRight =>
      simp only [faults, symbols, List.filterMap_append]
      refine (hLeft.append hRight).append ?_
      cases predicate with
      | none => exact List.nil_sublist _
      | some predicate => exact predicate.symbols_of_faults dialect
  | group keys aggregates source hSource =>
      have hKeys :
          ((keys.flatMap (Grouping.faults dialect)).filterMap
            Problem.symbol?).Sublist (keys.flatMap Grouping.symbols) :=
        Problem.symbol?_sublist_flatMap
          fun key _ => key.symbols_of_faults dialect
      simp only [faults, symbols, List.filterMap_append]
      refine (hKeys.append
        (Expr.symbols_of_faultsOfEach dialect aggregates)).append ?_
      cases source with
      | empty => exact List.nil_sublist _
      | _ => exact hSource
  | error cause inside => exact List.nil_sublist _

end Relation

------------------------------------------------------------
-- Documents
------------------------------------------------------------

namespace Document

/- Unknown operators are reported as they are written. -/
theorem symbols_of_problems
    (dialect : Dialect)
    (document : Document) :
    ((document.compile dialect).problems.filterMap
      Problem.symbol?).Sublist document.symbols := by
  rw [problems_compile]
  cases document with
  | relation tree => exact tree.symbols_of_faults dialect
  | expression tree => exact tree.symbols_of_faults dialect

/- The document with all its operators in lower case. -/
def caseFolded
    (document : Document) : Document :=
  document.relabel
    { symbol := Text.lowered
      table := id
      target := id
      parameter := id
      table_name := fun _ => rfl
      compile_target := fun _ => rfl }

theorem compile_caseFolded
    {dialect : Dialect}
    (hDialect : dialect.Unambiguous)
    (document : Document) :
    document.caseFolded.compile dialect =
      (document.compile dialect).mapProblems
        (Problem.relabel Text.lowered) := by
  rw [caseFolded, compile_relabel, hDialect.pull_lowered]

/-
  The case of operators never changes the text.  Two documents
  that are equal once their operators are lowered both compile
  to one text, or both fail.  Then they have equally many
  problems, and these agree one by one, except that an unknown
  operator is reported as its own document has it: the reported
  operators are some of those of the document, in their order.
-/
theorem compile_ignores_case
    {dialect : Dialect}
    (hDialect : dialect.Unambiguous)
    {left right : Document}
    (hCase : left.caseFolded = right.caseFolded) :
    (∃ sql,
      left.compile dialect = .text sql ∧
        right.compile dialect = .text sql) ∨
      ∃ leftProblems rightProblems : Problems,
        left.compile dialect = .failed leftProblems ∧
          right.compile dialect = .failed rightProblems ∧
          List.Forall₂ Problem.SameUpToCase
            leftProblems.toList rightProblems.toList ∧
          (leftProblems.toList.filterMap Problem.symbol?).Sublist
            left.symbols ∧
          (rightProblems.toList.filterMap Problem.symbol?).Sublist
            right.symbols := by
  have hFolded := congrArg (compile dialect) hCase
  rw [compile_caseFolded hDialect, compile_caseFolded hDialect] at hFolded
  have hLeftSymbols := left.symbols_of_problems dialect
  have hRightSymbols := right.symbols_of_problems dialect
  rcases Fragment.text_or_failed_of_mapProblems_eq hFolded with
    hTexts | ⟨leftProblems, rightProblems, hLeft, hRight, hProblems⟩
  · exact Or.inl hTexts
  · rw [hLeft] at hLeftSymbols
    rw [hRight] at hRightSymbols
    refine Or.inr ⟨leftProblems, rightProblems, hLeft, hRight, ?_,
      hLeftSymbols, hRightSymbols⟩
    exact hProblems.imp fun _ _ => Problem.sameUpToCase_of_relabel_eq

/-
  A table with an operator in mixed case over a built-in
  dialect, and two spellings of an expression with an operator
  that neither of them has.
-/
theorem compile_ignores_case_of_spellings :
    let table : OperatorTable :=
      (OperatorTable.mk "custom" .empty .empty).withBinary "Xor" "XOR" 2
    let dialect : Dialect := table.layeredOver .sqlite
    let one : Expr := .literal (.integer 1)
    let left : Document :=
      .expression (.binary "xor" (.binary "or" one (.unary "Foo" one)) one)
    let right : Document :=
      .expression (.binary "XOR" (.binary "OR" one (.unary "fOO" one)) one)
    dialect.Unambiguous ∧
      left.caseFolded = right.caseFolded ∧
      left.compile dialect = .failed ⟨.unknownUnary "Foo", []⟩ ∧
      ∃ problems : Problems,
        right.compile dialect = .failed problems ∧
          List.Forall₂ Problem.SameUpToCase [.unknownUnary "Foo"]
            problems.toList ∧
          (problems.toList.filterMap Problem.symbol?).Sublist
            [.binary "OR", .unary "fOO", .binary "XOR"] := by
  intro table dialect one left right
  have hTable : table.CaseDistinct :=
    ⟨List.pairwise_singleton _ _, List.Pairwise.nil⟩
  have hDialect : dialect.Unambiguous :=
    .layered hTable (.builtIn .sqlite)
  have hXor : Text.lowered "xor" = Text.lowered "XOR" := by
    decide
  have hOr : Text.lowered "or" = Text.lowered "OR" := by
    decide
  have hFoo : Text.lowered "Foo" = Text.lowered "fOO" := by
    decide
  have hCase : left.caseFolded = right.caseFolded := by
    simp only [left, right, caseFolded, relabel, Expr.relabel, hXor,
      hOr, hFoo]
  have hLeft :
      left.compile dialect = .failed ⟨.unknownUnary "Foo", []⟩ := by
    decide
  refine ⟨hDialect, hCase, hLeft, ?_⟩
  rcases compile_ignores_case hDialect hCase with
    ⟨sql, hText, -⟩ |
      ⟨_, problems, hFailed, hRight, hSame, -, hSymbols⟩
  · rw [hLeft] at hText
    cases hText
  · rw [hLeft] at hFailed
    cases hFailed
    exact ⟨problems, hRight, hSame, hSymbols⟩

end Document

end SqlCompiler
