import SqlCompiler.Dialect.BuiltIn
import SqlCompiler.Proofs.Compilation.Passes

/-
  This file says how much of a dialect a compilation reads.
  Of the operators of the tree it reads how they are written,
  and which of two binary ones binds looser.  Two dialects that
  agree on this much compile the tree alike, however they may
  differ otherwise.

  Key definitions include:
    * `OperatorSymbol`
    * `OperatorSymbol.text?`
    * `Dialect.bindsLooser`
    * `Dialect.AgreeOn`
    * `Expr.symbols`
    * `Relation.symbols`
    * `Document.symbols`

  Key theorems include:
    * `Expr.compile_congr`
    * `Relation.compile_congr`
    * `Document.compile_reads_only_symbols`
-/

namespace SqlCompiler

------------------------------------------------------------
-- Symbols of Trees
------------------------------------------------------------

/- A symbol, as a binary or as a unary operator. -/
inductive OperatorSymbol where
  | binary (symbol : String)
  | unary (symbol : String)
deriving DecidableEq, Repr

namespace Expr

mutual

/- The operators of an expression, from left to right. -/
def symbols : Expr → List OperatorSymbol
  | .literal _ => []
  | .binary op left right =>
      left.symbols ++ [.binary op] ++ right.symbols
  | .unary op operand => [.unary op] ++ operand.symbols
  | .call _ args => symbolsOfEach args
  | .column _ _ => []
  | .reference _ => []
  | .alias _ expr => expr.symbols
  | .parameter _ => []
  | .error _ => []

/- The operators of each expression of a list. -/
def symbolsOfEach : List Expr → List OperatorSymbol
  | [] => []
  | expr :: rest => expr.symbols ++ symbolsOfEach rest

end

theorem symbolsOfEach_eq_flatMap
    (exprs : List Expr) :
    symbolsOfEach exprs = exprs.flatMap symbols := by
  induction exprs with
  | nil => rfl
  | cons expr rest ih => simp [symbolsOfEach, ih]

end Expr

def Grouping.symbols : Grouping → List OperatorSymbol
  | .key expr => expr.symbols
  | .sets lists => lists.flatMap Expr.symbolsOfEach
  | .cube exprs => Expr.symbolsOfEach exprs
  | .rollup exprs => Expr.symbolsOfEach exprs

/-
  The operators of a relation, those inside its errors too,
  in the order in which the parts are compiled.
-/
def Relation.symbols : Relation → List OperatorSymbol
  | .empty => []
  | .table _ => []
  | .rename _ source => source.symbols
  | .projection selectList source =>
      Expr.symbolsOfEach selectList ++ source.symbols
  | .selection predicate source => source.symbols ++ predicate.symbols
  | .join _ left right predicate =>
      left.symbols ++ right.symbols ++
        (match predicate with
        | none => []
        | some predicate => predicate.symbols)
  | .group keys aggregates source =>
      keys.flatMap Grouping.symbols ++
        Expr.symbolsOfEach aggregates ++ source.symbols
  | .error _ inside => inside.symbols

def Document.symbols : Document → List OperatorSymbol
  | .relation tree => tree.symbols
  | .expression tree => tree.symbols

------------------------------------------------------------
-- Agreement of Dialects
------------------------------------------------------------

/- How a dialect writes an operator, if it knows it. -/
def OperatorSymbol.text?
    (dialect : Dialect) : OperatorSymbol → Option String
  | .binary symbol => (dialect.binary symbol).map (·.text)
  | .unary symbol => (dialect.unary symbol).map (·.text)

namespace Dialect

/-
  Whether two binary operators are known and the first one has
  the lower precedence.
-/
def bindsLooser
    (dialect : Dialect)
    (symbol other : String) : Bool :=
  match dialect.binary symbol, dialect.binary other with
  | some looser, some tighter => looser.precedence < tighter.precedence
  | _, _ => false

/-
  Two dialects agree on some operators when they know the same
  ones of them, write these alike, and order the precedences of
  the binary ones alike.
-/
structure AgreeOn
    (symbols : List OperatorSymbol)
    (one other : Dialect) : Prop where
  written :
    ∀ symbol ∈ symbols, symbol.text? one = symbol.text? other
  ordered :
    ∀ op next,
      .binary op ∈ symbols → .binary next ∈ symbols →
        one.bindsLooser op next = other.bindsLooser op next

variable {one other : Dialect} {few many : List OperatorSymbol}

theorem AgreeOn.mono
    (hAgree : AgreeOn many one other)
    (hSubset : few ⊆ many) :
    AgreeOn few one other where
  written := by
    intro symbol hSymbol
    exact hAgree.written symbol (hSubset hSymbol)
  ordered := by
    intro op next hOp hNext
    exact hAgree.ordered op next (hSubset hOp) (hSubset hNext)

/- Agreement on all members of a list is agreement on each. -/
theorem AgreeOn.of_mem
    {α : Type}
    {items : List α}
    {symbolsOf : α → List OperatorSymbol}
    (hAgree : AgreeOn (items.flatMap symbolsOf) one other)
    {item : α}
    (hItem : item ∈ items) :
    AgreeOn (symbolsOf item) one other := by
  apply hAgree.mono
  intro symbol hSymbol
  exact List.mem_flatMap.2 ⟨item, hItem, hSymbol⟩

/- Of two lookups that agree, both fail or both succeed. -/
theorem none_or_some_of_written
    {found otherFound : Option Operator}
    (hWritten : found.map (·.text) = otherFound.map (·.text)) :
    found = none ∧ otherFound = none ∨
      ∃ operator otherOperator,
        found = some operator ∧ otherFound = some otherOperator ∧
          operator.text = otherOperator.text := by
  cases found with
  | none =>
      exact Or.inl ⟨rfl, Option.map_eq_none_iff.1 hWritten.symm⟩
  | some operator =>
      rcases Option.map_eq_some_iff.1 hWritten.symm with
        ⟨otherOperator, hOther, hText⟩
      exact Or.inr ⟨operator, otherOperator, rfl, hOther, hText.symm⟩

end Dialect

------------------------------------------------------------
-- Expressions
------------------------------------------------------------

namespace Expr

open Dialect (AgreeOn)

variable {one other : Dialect}

theorem leftWrapped_binary
    (dialect : Dialect)
    (op leftOp : String)
    (left right : Expr) :
    (Expr.binary leftOp left right).leftWrapped dialect op =
      dialect.bindsLooser leftOp op := by
  unfold leftWrapped Dialect.bindsLooser
  dsimp only
  cases dialect.binary op <;> cases dialect.binary leftOp <;> rfl

/- Only the order of the two precedences decides. -/
theorem leftWrapped_congr
    {op : String}
    {left : Expr}
    (hAgree : AgreeOn (left.symbols ++ [.binary op]) one other) :
    left.leftWrapped one op = left.leftWrapped other op := by
  cases left with
  | binary leftOp inner right =>
      rw [leftWrapped_binary, leftWrapped_binary]
      apply hAgree.ordered
      · simp [symbols]
      · simp
  | _ => rfl

theorem compile_congr
    (expr : Expr)
    (hAgree : AgreeOn expr.symbols one other) :
    expr.compile one = expr.compile other := by
  induction expr using inductionOnArgs with
  | literal value => rfl
  | binary op left right hLeft hRight =>
      simp only [symbols] at hAgree
      have hOperator : AgreeOn (left.symbols ++ [.binary op]) one other :=
        hAgree.mono (List.subset_append_left _ _)
      have hWritten := hOperator.written (.binary op) (by simp)
      have hWrapped := leftWrapped_congr hOperator
      simp only [compile]
      rw [hLeft (hOperator.mono (List.subset_append_left _ _)),
        hRight (hAgree.mono (List.subset_append_right _ _))]
      rcases Dialect.none_or_some_of_written hWritten with
        ⟨hOne, hOther⟩ | ⟨operator, otherOperator, hOne, hOther, hText⟩
      · rw [hOne, hOther]
      · rw [hOne, hOther]
        dsimp only
        rw [bindsLooser_eq_leftWrapped hOne,
          bindsLooser_eq_leftWrapped hOther, hWrapped, hText]
  | unary op operand hOperand =>
      simp only [symbols] at hAgree
      have hWritten := hAgree.written (.unary op) (by simp)
      simp only [compile]
      rw [hOperand (hAgree.mono (List.subset_append_right _ _))]
      rcases Dialect.none_or_some_of_written hWritten with
        ⟨hOne, hOther⟩ | ⟨operator, otherOperator, hOne, hOther, hText⟩
      · rw [hOne, hOther]
      · rw [hOne, hOther]
        dsimp only
        rw [hText]
  | call name args hArgs =>
      simp only [symbols, symbolsOfEach_eq_flatMap] at hAgree
      have hEach : args.map (compile one) = args.map (compile other) :=
        List.map_congr_left fun arg hArg =>
          hArgs arg hArg (hAgree.of_mem hArg)
      simp only [compile, compileEach_eq_map, hEach]
  | column name table => rfl
  | reference target => rfl
  | aliased name expr hExpr =>
      simp only [symbols] at hAgree
      simp only [compile, hExpr hAgree]
  | parameter name => rfl
  | error cause => rfl

theorem compileAll_congr
    {exprs : List Expr}
    (hAgree : AgreeOn (symbolsOfEach exprs) one other) :
    compileAll one exprs = compileAll other exprs := by
  rw [symbolsOfEach_eq_flatMap] at hAgree
  have hEach : exprs.map (compile one) = exprs.map (compile other) :=
    List.map_congr_left fun expr hExpr =>
      expr.compile_congr (hAgree.of_mem hExpr)
  simp only [compileAll, hEach]

end Expr

------------------------------------------------------------
-- Relations
------------------------------------------------------------

open Dialect (AgreeOn)

theorem Grouping.compile_congr
    {one other : Dialect}
    (grouping : Grouping)
    (hAgree : AgreeOn grouping.symbols one other) :
    grouping.compile one = grouping.compile other := by
  cases grouping with
  | key expr => exact expr.compile_congr hAgree
  | sets lists =>
      have hEach :
          lists.map (fun set => (Expr.compileAll one set).wrap "(" ")") =
            lists.map fun set =>
              (Expr.compileAll other set).wrap "(" ")" := by
        apply List.map_congr_left
        intro set hSet
        rw [Expr.compileAll_congr (AgreeOn.of_mem hAgree hSet)]
      simp only [compile, hEach]
  | cube exprs => simp only [compile, Expr.compileAll_congr hAgree]
  | rollup exprs => simp only [compile, Expr.compileAll_congr hAgree]

namespace Relation

variable {one other : Dialect}

theorem compile_congr
    (relation : Relation)
    (hAgree : AgreeOn relation.symbols one other) :
    relation.compile one = relation.compile other := by
  induction relation with
  | empty => rfl
  | table base => rfl
  | rename name source hSource => simp only [compile, hSource hAgree]
  | projection selectList source hSource =>
      simp only [compile]
      rw [Expr.compileAll_congr
          (hAgree.mono (List.subset_append_left _ _)),
        hSource (hAgree.mono (List.subset_append_right _ _))]
  | selection predicate source hSource =>
      simp only [compile]
      rw [hSource (hAgree.mono (List.subset_append_left _ _)),
        predicate.compile_congr
          (hAgree.mono (List.subset_append_right _ _))]
  | join kind left right predicate hLeft hRight =>
      have hSides : AgreeOn (left.symbols ++ right.symbols) one other :=
        hAgree.mono (List.subset_append_left _ _)
      simp only [compile]
      rw [hLeft (hSides.mono (List.subset_append_left _ _)),
        hRight (hSides.mono (List.subset_append_right _ _))]
      cases predicate with
      | none => rfl
      | some predicate =>
          have hPredicate : AgreeOn predicate.symbols one other :=
            hAgree.mono (List.subset_append_right _ _)
          simp only [predicate.compile_congr hPredicate]
  | group keys aggregates source hSource =>
      have hClause :
          AgreeOn
            (keys.flatMap Grouping.symbols ++
              Expr.symbolsOfEach aggregates) one other :=
        hAgree.mono (List.subset_append_left _ _)
      have hKeys :
          AgreeOn (keys.flatMap Grouping.symbols) one other :=
        hClause.mono (List.subset_append_left _ _)
      have hEach :
          keys.map (Grouping.compile one) =
            keys.map (Grouping.compile other) :=
        List.map_congr_left fun key hKey =>
          key.compile_congr (hKeys.of_mem hKey)
      simp only [compile]
      rw [hEach,
        Expr.compileAll_congr
          (hClause.mono (List.subset_append_right _ _)),
        hSource (hAgree.mono (List.subset_append_right _ _))]
  | error cause inside => rfl

end Relation

------------------------------------------------------------
-- Documents
------------------------------------------------------------

namespace Document

/-
  A compilation reads nothing of a dialect but the operators of
  the document: whether they are known, how they are written,
  and how the precedences of the binary ones compare.  The size
  of a precedence, the precedences of unary operators and all
  other operators make no difference to the fragment, be it a
  text or a list of problems.
-/
theorem compile_reads_only_symbols
    (document : Document)
    {one other : Dialect}
    (hAgree : Dialect.AgreeOn document.symbols one other) :
    document.compile one = document.compile other := by
  cases document with
  | relation tree => exact tree.compile_congr hAgree
  | expression tree => exact tree.compile_congr hAgree

/-
  A dialect that has only three of the generic operators.  Its
  precedences are others, but in the same order, and its unary
  operator has one too.
-/
theorem compile_reads_only_symbols_of_product :
    let scaled : Dialect :=
      .ofEntries "scaled" [("*", ⟨"*", 200⟩), ("+", ⟨"+", 40⟩)]
        [("-", ⟨"-", 7⟩)]
    let document : Document :=
      .expression
        (.times
          (.plus (.literal (.integer 1)) (.literal (.integer 2)))
          (.unary "-" (.literal (.integer 3))))
    Dialect.AgreeOn document.symbols .generic scaled ∧
      document.compile scaled = .text "(1 + 2) * - 3" := by
  intro scaled document
  have hSymbols :
      document.symbols = [.binary "+", .binary "*", .unary "-"] := by
    decide
  have hAgree : Dialect.AgreeOn document.symbols .generic scaled := by
    rw [hSymbols]
    constructor
    · decide
    · intro op next hOp hNext
      have hOps : op = "+" ∨ op = "*" := by
        simpa using hOp
      have hNexts : next = "+" ∨ next = "*" := by
        simpa using hNext
      rcases hOps with rfl | rfl <;> rcases hNexts with rfl | rfl <;>
        decide
  have hGeneric :
      document.compile .generic = .text "(1 + 2) * - 3" := by
    decide
  exact ⟨hAgree,
    (compile_reads_only_symbols document hAgree).symm.trans hGeneric⟩

end Document

end SqlCompiler
