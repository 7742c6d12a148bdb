import SqlCompiler.Compilation.Expr
import SqlCompiler.Document

/-
  This file compiles relations.  Joins are never put in
  parentheses, and of a group only its clause is rendered; its
  aggregates and its source still have to compile.

  Key definitions include:
    * `Grouping.compile`
    * `Relation.compile`
    * `Document.compile`
-/

namespace SqlCompiler

def Grouping.compile
    (dialect : Dialect) : Grouping → Fragment
  | .key expr => expr.compile dialect
  | .sets lists =>
      .after "GROUPING SETS " <|
        (Fragment.join ", " (lists.map fun set =>
          (Expr.compileAll dialect set).wrap "(" ")")).wrap "(" ")"
  | .cube exprs =>
      .after "CUBE " ((Expr.compileAll dialect exprs).wrap "(" ")")
  | .rollup exprs =>
      .after "ROLLUP " ((Expr.compileAll dialect exprs).wrap "(" ")")

/- The SQL of a relation in a dialect. -/
def Relation.compile
    (dialect : Dialect) : Relation → Fragment
  | .empty => .fail (.internal "cannot compile the empty relation")
  | .table base => .text base.name
  | .rename name source =>
      ((source.compile dialect).followedBy " AS ").followedBy name
  | .projection selectList source =>
      let clause :=
        Fragment.after "SELECT " (Expr.compileAll dialect selectList)
      if source.isEmpty then
        clause
      else
        (clause.followedBy " FROM ").combine (source.compile dialect)
  | .selection predicate source =>
      ((source.compile dialect).followedBy " WHERE ").combine
        (predicate.compile dialect)
  | .join kind left right predicate =>
      let sides :=
        ((left.compile dialect).combine
          (Fragment.text kind.keyword).pad).combine
          (right.compile dialect)
      match predicate with
      | none => sides
      | some predicate =>
          (sides.followedBy " ON ").combine
            (predicate.compile dialect)
  | .group keys aggregates source =>
      let clause :=
        Fragment.after "GROUP BY "
          (.join ", " (keys.map (Grouping.compile dialect)))
      let checked := clause.check (Expr.compileAll dialect aggregates)
      if source.isEmpty then
        checked
      else
        checked.check (source.compile dialect)
  | .error cause _ => .fail (.binding cause)

/- The SQL of a document in a dialect. -/
def Document.compile
    (dialect : Dialect) : Document → Fragment
  | .relation tree => tree.compile dialect
  | .expression tree => tree.compile dialect

end SqlCompiler
