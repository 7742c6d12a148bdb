import SqlCompiler.Expr.Basic

/-
  This file defines relational-algebra trees over scalar
  expressions.

  Key definitions include:
    * `JoinKind`
    * `JoinKind.keyword`
    * `Grouping`
    * `Relation`
    * `Relation.isEmpty`
    * `Relation.kind`
-/

namespace SqlCompiler

------------------------------------------------------------
-- Parts of Relations
------------------------------------------------------------

/- The kinds of joins. -/
inductive JoinKind where
  | inner
  | leftOuter
  | rightOuter
  | fullOuter
deriving DecidableEq, Repr

/- The words that SQL writes between the sides of a join. -/
def JoinKind.keyword : JoinKind → String
  | .inner => "JOIN"
  | .leftOuter => "LEFT OUTER JOIN"
  | .rightOuter => "RIGHT OUTER JOIN"
  | .fullOuter => "FULL OUTER JOIN"

/- One element of a grouping clause. -/
inductive Grouping where
  | key (expr : Expr)
  | sets (lists : List (List Expr))
  | cube (exprs : List Expr)
  | rollup (exprs : List Expr)
deriving BEq, Repr

------------------------------------------------------------
-- Relations
------------------------------------------------------------

/-
  A relation.  The empty relation stands for the missing
  source of a statement.
-/
inductive Relation where
  | empty
  | table (base : Table)
  | rename (name : String) (source : Relation)
  | projection (selectList : List Expr) (source : Relation)
  | selection (predicate : Expr) (source : Relation)
  | join (kind : JoinKind) (left right : Relation)
      (predicate : Option Expr)
  | group (keys : List Grouping) (aggregates : List Expr)
      (source : Relation)
  | error (cause : BindingError) (inside : Relation)
deriving BEq, Repr, Inhabited

namespace Relation

/- Whether a relation stands for a missing source. -/
def isEmpty : Relation → Bool
  | .empty => true
  | _ => false

/- The word for a relation's outermost operation. -/
def kind : Relation → String
  | .empty => "none"
  | .table _ => "table"
  | .rename _ _ => "rename"
  | .projection _ _ => "projection"
  | .selection _ _ => "selection"
  | .join _ _ _ _ => "join"
  | .group _ _ _ => "group"
  | .error _ _ => "error"

end Relation

end SqlCompiler
