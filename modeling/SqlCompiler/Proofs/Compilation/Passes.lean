import SqlCompiler.Compilation.Relation
import SqlCompiler.Proofs.Fragment

/-
  This file splits compilation into two passes that know
  nothing of each other.  One pass lists what is wrong with
  the nodes of a tree, the other one prints the tree as if
  nothing were wrong.  Compilation reports the faults if there
  are any, and gives the printed text otherwise.

  Key definitions include:
    * `Expr.faults`
    * `Expr.render`
    * `Relation.faults`
    * `Relation.render`
    * `Document.faults`
    * `Document.render`

  Key theorems include:
    * `Expr.compile_eq_settle`
    * `Relation.compile_eq_settle`
    * `Document.problems_compile`
    * `Document.compile_is_two_passes`
-/

namespace SqlCompiler

------------------------------------------------------------
-- Leaves
------------------------------------------------------------

def Literal.render : Literal → String
  | .null => "NULL"
  | .integer value => toString value.toInt
  | .boolean true => "true"
  | .boolean false => "false"
  | .string value => quote value

/- A carried error, or else the lack of a name. -/
def Attribute.faults
    (target : Attribute) : List Problem :=
  match target.error, target.name with
  | some cause, _ => [.binding cause]
  | none, some _ => []
  | none, none =>
      [.internal
        "attribute reference has neither a name nor an error"]

def Attribute.render
    (target : Attribute) : String :=
  match target.qualifier, target.name with
  | some qualifier, some name => qualifier ++ "." ++ name
  | none, some name => name
  | _, none => ""

/- How a binary operator is written; as it is, if unknown. -/
def Dialect.binaryText
    (dialect : Dialect)
    (op : String) : String :=
  match dialect.binary op with
  | some operator => operator.text
  | none => op

/- How a unary operator is written; as it is, if unknown. -/
def Dialect.unaryText
    (dialect : Dialect)
    (op : String) : String :=
  match dialect.unary op with
  | some operator => operator.text
  | none => op

------------------------------------------------------------
-- Passes over Expressions
------------------------------------------------------------

namespace Expr

/-
  Whether a left operand is put in parentheses: its operator
  and the one around it are known, and its own binds looser.
-/
def leftWrapped
    (dialect : Dialect)
    (op : String) : Expr → Bool
  | .binary leftOp _ _ =>
      match dialect.binary op, dialect.binary leftOp with
      | some operator, some leftOperator =>
          leftOperator.precedence < operator.precedence
      | _, _ => false
  | _ => false

mutual

/- The faults of the nodes of an expression, in textual order. -/
def faults
    (dialect : Dialect) : Expr → List Problem
  | .literal _ => []
  | .binary op left right =>
      left.faults dialect ++
        (if (dialect.binary op).isNone then
          [.unknownBinary op]
        else
          []) ++
        right.faults dialect
  | .unary op operand =>
      (if (dialect.unary op).isNone then
        [.unknownUnary op]
      else
        []) ++
        operand.faults dialect
  | .call _ args => faultsOfEach dialect args
  | .column _ _ => []
  | .reference target => target.faults
  | .alias _ expr => expr.faults dialect
  | .parameter _ => [.unsupported "parameter binding"]
  | .error cause => [.binding cause]

/- The faults of each expression of a list. -/
def faultsOfEach
    (dialect : Dialect) : List Expr → List Problem
  | [] => []
  | expr :: rest => expr.faults dialect ++ faultsOfEach dialect rest

end

mutual

/- The text of an expression, whatever is wrong with it. -/
def render
    (dialect : Dialect) : Expr → String
  | .literal value => value.render
  | .binary op left right =>
      (if left.leftWrapped dialect op then
        "(" ++ left.render dialect ++ ")"
      else
        left.render dialect) ++
        (" " ++ dialect.binaryText op ++ " ") ++
        right.render dialect
  | .unary op operand =>
      dialect.unaryText op ++ " " ++ operand.render dialect
  | .call name args =>
      name ++ ("(" ++ ", ".intercalate (renderEach dialect args) ++ ")")
  | .column name table => table.name ++ "." ++ name
  | .reference target => target.render
  | .alias name expr => expr.render dialect ++ " AS " ++ name
  | .parameter name => name
  | .error _ => ""

/- The text of each expression of a list. -/
def renderEach
    (dialect : Dialect) : List Expr → List String
  | [] => []
  | expr :: rest => expr.render dialect :: renderEach dialect rest

end

theorem faultsOfEach_eq_flatMap
    (dialect : Dialect)
    (exprs : List Expr) :
    faultsOfEach dialect exprs = exprs.flatMap (faults dialect) := by
  induction exprs with
  | nil => rfl
  | cons expr rest ih => simp [faultsOfEach, ih]

theorem renderEach_eq_map
    (dialect : Dialect)
    (exprs : List Expr) :
    renderEach dialect exprs = exprs.map (render dialect) := by
  induction exprs with
  | nil => rfl
  | cons expr rest ih => simp [renderEach, ih]

end Expr

------------------------------------------------------------
-- Passes over Relations
------------------------------------------------------------

def Grouping.faults
    (dialect : Dialect) : Grouping → List Problem
  | .key expr => expr.faults dialect
  | .sets lists => lists.flatMap (Expr.faultsOfEach dialect)
  | .cube exprs => Expr.faultsOfEach dialect exprs
  | .rollup exprs => Expr.faultsOfEach dialect exprs

/- The expressions of a list with commas between them. -/
def Expr.renderAll
    (dialect : Dialect)
    (exprs : List Expr) : String :=
  ", ".intercalate (exprs.map (Expr.render dialect))

def Grouping.render
    (dialect : Dialect) : Grouping → String
  | .key expr => expr.render dialect
  | .sets lists =>
      "GROUPING SETS " ++
        ("(" ++
          ", ".intercalate (lists.map fun set =>
            "(" ++ Expr.renderAll dialect set ++ ")") ++
          ")")
  | .cube exprs => "CUBE " ++ ("(" ++ Expr.renderAll dialect exprs ++ ")")
  | .rollup exprs =>
      "ROLLUP " ++ ("(" ++ Expr.renderAll dialect exprs ++ ")")

namespace Relation

/-
  The faults of the nodes of a relation.  The empty relation
  is one, unless it is the source of a projection or a group.
-/
def faults
    (dialect : Dialect) : Relation → List Problem
  | .empty => [.internal "cannot compile the empty relation"]
  | .table _ => []
  | .rename _ source => source.faults dialect
  | .projection selectList source =>
      Expr.faultsOfEach dialect selectList ++
        (match source with
        | .empty => []
        | _ => source.faults dialect)
  | .selection predicate source =>
      source.faults dialect ++ predicate.faults dialect
  | .join _ left right predicate =>
      left.faults dialect ++ right.faults dialect ++
        (match predicate with
        | none => []
        | some predicate => predicate.faults dialect)
  | .group keys aggregates source =>
      keys.flatMap (Grouping.faults dialect) ++
        Expr.faultsOfEach dialect aggregates ++
        (match source with
        | .empty => []
        | _ => source.faults dialect)
  | .error cause _ => [.binding cause]

/-
  The text of a relation, whatever is wrong with it.  A group
  is its clause only.
-/
def render
    (dialect : Dialect) : Relation → String
  | .empty => ""
  | .table base => base.name
  | .rename name source => source.render dialect ++ " AS " ++ name
  | .projection selectList source =>
      "SELECT " ++ Expr.renderAll dialect selectList ++
        (match source with
        | .empty => ""
        | _ => " FROM " ++ source.render dialect)
  | .selection predicate source =>
      source.render dialect ++ " WHERE " ++ predicate.render dialect
  | .join kind left right predicate =>
      left.render dialect ++ (" " ++ kind.keyword ++ " ") ++
        right.render dialect ++
        (match predicate with
        | none => ""
        | some predicate => " ON " ++ predicate.render dialect)
  | .group keys _ _ =>
      "GROUP BY " ++ ", ".intercalate (keys.map (Grouping.render dialect))
  | .error _ _ => ""

/- A source that is not missing brings in its faults. -/
theorem faults_projection
    (dialect : Dialect)
    (selectList : List Expr)
    {source : Relation}
    (hSource : source ≠ .empty) :
    (projection selectList source).faults dialect =
      Expr.faultsOfEach dialect selectList ++ source.faults dialect := by
  cases source with
  | empty => exact absurd rfl hSource
  | _ => rfl

/- Its text stands behind a keyword. -/
theorem render_projection
    (dialect : Dialect)
    (selectList : List Expr)
    {source : Relation}
    (hSource : source ≠ .empty) :
    (projection selectList source).render dialect =
      "SELECT " ++ Expr.renderAll dialect selectList ++ " FROM " ++
        source.render dialect := by
  rw [String.append_assoc]
  cases source with
  | empty => exact absurd rfl hSource
  | _ => rfl

end Relation

def Document.faults
    (dialect : Dialect) : Document → List Problem
  | .relation tree => tree.faults dialect
  | .expression tree => tree.faults dialect

def Document.render
    (dialect : Dialect) : Document → String
  | .relation tree => tree.render dialect
  | .expression tree => tree.render dialect

------------------------------------------------------------
-- Compilation as Two Passes
------------------------------------------------------------

theorem Literal.compile_eq_settle
    (value : Literal) :
    value.compile = .settle [] value.render := by
  cases value with
  | null => rfl
  | integer value => rfl
  | string value => rfl
  | boolean value => cases value <;> rfl

theorem Attribute.compile_eq_settle
    (target : Attribute) :
    target.compile = .settle target.faults target.render := by
  rcases target with ⟨qualifier, name, error⟩
  cases error with
  | some cause => cases qualifier <;> cases name <;> rfl
  | none => cases qualifier <;> cases name <;> rfl

namespace Expr

theorem bindsLooser_eq_leftWrapped
    {dialect : Dialect}
    {op : String}
    {operator : Operator}
    (hOp : dialect.binary op = some operator)
    (left : Expr) :
    left.bindsLooser dialect operator.precedence =
      left.leftWrapped dialect op := by
  cases left with
  | binary leftOp _ _ =>
      cases hLeft : dialect.binary leftOp <;>
        simp [bindsLooser, leftWrapped, hOp, hLeft]
  | _ => rfl

theorem leftWrapped_of_unknown
    {dialect : Dialect}
    {op : String}
    (hOp : dialect.binary op = none)
    (left : Expr) :
    left.leftWrapped dialect op = false := by
  cases left <;> simp [leftWrapped, hOp]

/-
  An expression compiles to its faults or else to its text.
  The text of a failed fragment does not matter, so a symbol
  may stand for an operator that is missing.
-/
theorem compile_eq_settle
    (dialect : Dialect)
    (expr : Expr) :
    expr.compile dialect =
      .settle (expr.faults dialect) (expr.render dialect) := by
  induction expr using inductionOnArgs with
  | literal value =>
      simp only [compile, faults, render]
      exact value.compile_eq_settle
  | binary op left right hLeft hRight =>
      simp only [compile, faults, render]
      rw [hLeft, hRight]
      cases hOp : dialect.binary op with
      | none =>
          rw [Fragment.fail_eq_settle _ (" " ++ op ++ " "),
            Fragment.combine_settle, Fragment.combine_settle]
          simp [leftWrapped_of_unknown hOp, Dialect.binaryText, hOp]
      | some operator =>
          dsimp only
          rw [Fragment.wrapIf_settle, Fragment.text_eq_settle,
            Fragment.combine_settle, Fragment.combine_settle,
            bindsLooser_eq_leftWrapped hOp]
          simp [Dialect.binaryText, hOp]
  | unary op operand hOperand =>
      simp only [compile, faults, render]
      rw [hOperand]
      cases hOp : dialect.unary op with
      | none =>
          rw [Fragment.fail_eq_settle _ (op ++ " "),
            Fragment.combine_settle]
          simp [Dialect.unaryText, hOp]
      | some operator =>
          dsimp only
          rw [Fragment.text_eq_settle, Fragment.combine_settle]
          simp [Dialect.unaryText, hOp]
  | call name args hArgs =>
      have hEach :
          args.map (compile dialect) =
            args.map fun arg =>
              .settle (arg.faults dialect) (arg.render dialect) :=
        List.map_congr_left hArgs
      simp only [compile, faults, render]
      rw [compileEach_eq_map, hEach, Fragment.join_settle,
        Fragment.wrap_settle, Fragment.text_eq_settle,
        Fragment.combine_settle, faultsOfEach_eq_flatMap,
        renderEach_eq_map, List.nil_append]
  | column name table => rfl
  | reference target =>
      simp only [compile, faults, render]
      exact target.compile_eq_settle
  | aliased name expr hExpr =>
      simp only [compile, faults, render]
      rw [hExpr, Fragment.followedBy_settle,
        Fragment.followedBy_settle]
  | parameter name => rfl
  | error cause => rfl

theorem compileAll_eq_settle
    (dialect : Dialect)
    (exprs : List Expr) :
    compileAll dialect exprs =
      .settle (faultsOfEach dialect exprs) (renderAll dialect exprs) := by
  have hEach :
      exprs.map (compile dialect) =
        exprs.map fun expr =>
          .settle (expr.faults dialect) (expr.render dialect) :=
    List.map_congr_left fun expr _ => expr.compile_eq_settle dialect
  unfold compileAll renderAll
  rw [hEach, Fragment.join_settle, faultsOfEach_eq_flatMap]

end Expr

theorem Grouping.compile_eq_settle
    (dialect : Dialect)
    (grouping : Grouping) :
    grouping.compile dialect =
      .settle (grouping.faults dialect) (grouping.render dialect) := by
  cases grouping with
  | key expr => exact expr.compile_eq_settle dialect
  | sets lists =>
      simp only [compile, faults, render, Expr.compileAll_eq_settle,
        Fragment.wrap_settle]
      rw [Fragment.join_settle, Fragment.wrap_settle,
        Fragment.after_settle]
  | cube exprs =>
      simp only [compile, faults, render]
      rw [Expr.compileAll_eq_settle, Fragment.wrap_settle,
        Fragment.after_settle]
  | rollup exprs =>
      simp only [compile, faults, render]
      rw [Expr.compileAll_eq_settle, Fragment.wrap_settle,
        Fragment.after_settle]

/- A relation compiles to its faults or else to its text. -/
theorem Relation.compile_eq_settle
    (dialect : Dialect)
    (relation : Relation) :
    relation.compile dialect =
      .settle (relation.faults dialect) (relation.render dialect) := by
  induction relation with
  | empty => rfl
  | table base => rfl
  | rename name source hSource =>
      simp only [compile, faults, render]
      rw [hSource, Fragment.followedBy_settle,
        Fragment.followedBy_settle]
  | projection selectList source hSource =>
      simp only [compile, faults, render]
      rw [Expr.compileAll_eq_settle, Fragment.after_settle, hSource,
        Fragment.followedBy_settle, Fragment.combine_settle]
      cases source with
      | empty => simp [isEmpty]
      | _ => simp [isEmpty, String.append_assoc]
  | selection predicate source hSource =>
      simp only [compile, faults, render]
      rw [hSource, predicate.compile_eq_settle,
        Fragment.followedBy_settle, Fragment.combine_settle]
  | join kind left right predicate hLeft hRight =>
      have hSides :
          (((left.compile dialect).combine
            (Fragment.text kind.keyword).pad).combine
            (right.compile dialect)) =
            .settle (left.faults dialect ++ right.faults dialect)
              (left.render dialect ++ (" " ++ kind.keyword ++ " ") ++
                right.render dialect) := by
        rw [hLeft, hRight, Fragment.pad, Fragment.text_eq_settle,
          Fragment.wrap_settle, Fragment.combine_settle,
          Fragment.combine_settle, List.append_nil]
      simp only [compile, faults, render]
      rw [hSides]
      cases predicate with
      | none => simp
      | some predicate =>
          dsimp only
          rw [predicate.compile_eq_settle]
          simp [Fragment.followedBy_settle, Fragment.combine_settle,
            String.append_assoc]
  | group keys aggregates source hSource =>
      have hKeys :
          keys.map (Grouping.compile dialect) =
            keys.map fun key =>
              .settle (key.faults dialect) (key.render dialect) :=
        List.map_congr_left fun key _ => key.compile_eq_settle dialect
      simp only [compile, faults, render]
      rw [hKeys, Fragment.join_settle, Fragment.after_settle,
        Expr.compileAll_eq_settle, Fragment.check_settle, hSource,
        Fragment.check_settle]
      cases source with
      | empty => simp [isEmpty]
      | _ => simp [isEmpty]
  | error cause inside => rfl

theorem Document.compile_eq_settle
    (dialect : Dialect)
    (document : Document) :
    document.compile dialect =
      .settle (document.faults dialect) (document.render dialect) := by
  cases document with
  | relation tree => exact tree.compile_eq_settle dialect
  | expression tree => exact tree.compile_eq_settle dialect

/- The problems of a compilation are the faults of its nodes. -/
theorem Document.problems_compile
    (dialect : Dialect)
    (document : Document) :
    (document.compile dialect).problems = document.faults dialect := by
  rw [compile_eq_settle, Fragment.problems_settle]

/-
  Compiling a document, be it an expression or a relation, is
  the same as listing its faults and printing it on its own:
  the result is the printed text if there are no faults, and
  exactly the faults, in their order, if there are.
-/
theorem Document.compile_is_two_passes
    (dialect : Dialect)
    (document : Document) :
    document.compile dialect =
      match document.faults dialect with
      | [] => .text (document.render dialect)
      | first :: others => .failed ⟨first, others⟩ := by
  rw [compile_eq_settle]
  cases document.faults dialect with
  | nil => rfl
  | cons first others => rfl

end SqlCompiler
