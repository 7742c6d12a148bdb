import SqlCompiler.Compilation.Relation

/-
  This file changes the labels of a tree and keeps its shape:
  the symbols of its operators, and those parts of tables,
  references and parameters that are not rendered.  Compiling
  the relabeled tree is the same as compiling the tree itself
  in a dialect that looks up the new symbols, except that the
  problems name the new symbols too.

  Key definitions include:
    * `Fragment.mapProblems`
    * `Problem.relabel`
    * `Dialect.pull`
    * `Relabeling`
    * `Expr.relabel`
    * `Relation.relabel`
    * `Document.relabel`

  Key theorems include:
    * `Expr.compile_relabel`
    * `Relation.compile_relabel`
    * `Document.compile_relabel`
-/

namespace SqlCompiler

------------------------------------------------------------
-- Fragments with Other Problems
------------------------------------------------------------

def Problems.map
    (change : Problem → Problem)
    (problems : Problems) : Problems :=
  ⟨change problems.first, problems.others.map change⟩

theorem Problems.map_append
    (change : Problem → Problem)
    (left right : Problems) :
    (left.append right).map change =
      (left.map change).append (right.map change) := by
  simp [map, append, toList]

namespace Fragment

/- The same text, or the same number of changed problems. -/
def mapProblems
    (change : Problem → Problem) : Fragment → Fragment
  | .text sql => .text sql
  | .failed problems => .failed (problems.map change)

variable (change : Problem → Problem)

theorem problems_mapProblems
    (fragment : Fragment) :
    (fragment.mapProblems change).problems =
      fragment.problems.map change := by
  cases fragment <;> rfl

theorem mapProblems_id
    (fragment : Fragment) :
    fragment.mapProblems id = fragment := by
  cases fragment <;> simp [mapProblems, Problems.map]

@[simp] theorem mapProblems_text
    (sql : String) :
    (Fragment.text sql).mapProblems change = .text sql :=
  rfl

@[simp] theorem mapProblems_fail
    (problem : Problem) :
    (fail problem).mapProblems change = fail (change problem) :=
  rfl

@[simp] theorem mapProblems_combine
    (left right : Fragment) :
    (left.combine right).mapProblems change =
      (left.mapProblems change).combine (right.mapProblems change) := by
  cases left <;> cases right <;>
    simp [combine, mapProblems, Problems.map_append]

@[simp] theorem mapProblems_followedBy
    (fragment : Fragment)
    (suffix : String) :
    (fragment.followedBy suffix).mapProblems change =
      (fragment.mapProblems change).followedBy suffix := by
  cases fragment <;> rfl

@[simp] theorem mapProblems_after
    (lead : String)
    (fragment : Fragment) :
    (after lead fragment).mapProblems change =
      after lead (fragment.mapProblems change) := by
  cases fragment <;> rfl

@[simp] theorem mapProblems_wrapIf
    (left right : String)
    (condition : Bool)
    (fragment : Fragment) :
    (fragment.wrapIf left right condition).mapProblems change =
      (fragment.mapProblems change).wrapIf left right condition := by
  cases fragment <;> cases condition <;> rfl

@[simp] theorem mapProblems_wrap
    (left right : String)
    (fragment : Fragment) :
    (fragment.wrap left right).mapProblems change =
      (fragment.mapProblems change).wrap left right :=
  mapProblems_wrapIf change left right true fragment

@[simp] theorem mapProblems_check
    (fragment other : Fragment) :
    (fragment.check other).mapProblems change =
      (fragment.mapProblems change).check
        (other.mapProblems change) := by
  cases other with
  | text sql => rfl
  | failed problems => exact mapProblems_combine change fragment _

@[simp] theorem mapProblems_join
    (separator : String)
    (items : List Fragment) :
    (join separator items).mapProblems change =
      join separator (items.map (mapProblems change)) := by
  cases items with
  | nil => rfl
  | cons first rest =>
      rw [List.map_cons, join, join, List.foldl_map]
      induction rest generalizing first with
      | nil => rfl
      | cons item rest ih =>
          rw [List.foldl_cons, List.foldl_cons, ih, mapProblems_combine,
            mapProblems_followedBy]

end Fragment

------------------------------------------------------------
-- Labels
------------------------------------------------------------

/- A problem with another symbol, if it has one. -/
def Problem.relabel
    (change : String → String) : Problem → Problem
  | .unknownBinary symbol => .unknownBinary (change symbol)
  | .unknownUnary symbol => .unknownUnary (change symbol)
  | .binding cause => .binding cause
  | .internal what => .internal what
  | .unsupported feature => .unsupported feature

theorem Problem.relabel_id :
    Problem.relabel id = id := by
  funext problem
  cases problem <;> rfl

/- The dialect that changes symbols before it looks them up. -/
def Dialect.pull
    (change : String → String)
    (dialect : Dialect) : Dialect where
  name := dialect.name
  binary symbol := dialect.binary (change symbol)
  unary symbol := dialect.unary (change symbol)

/-
  A change of labels.  The symbols change at will; tables and
  references compile as before.
-/
structure Relabeling where
  symbol : String → String
  table : Table → Table
  target : Attribute → Attribute
  parameter : String → String
  table_name : ∀ base, (table base).name = base.name
  compile_target :
    ∀ reference, (target reference).compile = reference.compile

/- The problems of a reference have no symbols. -/
theorem Attribute.mapProblems_compile
    (change : String → String)
    (target : Attribute) :
    target.compile.mapProblems (Problem.relabel change) =
      target.compile := by
  rcases target with ⟨qualifier, name, error⟩
  cases error <;> cases qualifier <;> cases name <;> rfl

theorem Literal.mapProblems_compile
    (change : Problem → Problem)
    (value : Literal) :
    value.compile.mapProblems change = value.compile := by
  cases value with
  | boolean value => cases value <;> rfl
  | _ => rfl

------------------------------------------------------------
-- Expressions
------------------------------------------------------------

namespace Expr

mutual

def relabel
    (labels : Relabeling) : Expr → Expr
  | .literal value => .literal value
  | .binary op left right =>
      .binary (labels.symbol op) (left.relabel labels)
        (right.relabel labels)
  | .unary op operand =>
      .unary (labels.symbol op) (operand.relabel labels)
  | .call name args => .call name (relabelEach labels args)
  | .column name table => .column name (labels.table table)
  | .reference target => .reference (labels.target target)
  | .alias name expr => .alias name (expr.relabel labels)
  | .parameter name => .parameter (labels.parameter name)
  | .error cause => .error cause

def relabelEach
    (labels : Relabeling) : List Expr → List Expr
  | [] => []
  | expr :: rest => expr.relabel labels :: relabelEach labels rest

end

variable (labels : Relabeling) (dialect : Dialect)

theorem relabelEach_eq_map
    (exprs : List Expr) :
    relabelEach labels exprs = exprs.map (relabel labels) := by
  induction exprs with
  | nil => rfl
  | cons expr rest ih => simp [relabelEach, ih]

theorem bindsLooser_relabel
    (precedence : UInt8)
    (expr : Expr) :
    (expr.relabel labels).bindsLooser dialect precedence =
      expr.bindsLooser (dialect.pull labels.symbol) precedence := by
  cases expr <;> simp only [relabel, bindsLooser, Dialect.pull]

theorem compile_relabel
    (expr : Expr) :
    (expr.relabel labels).compile dialect =
      (expr.compile (dialect.pull labels.symbol)).mapProblems
        (Problem.relabel labels.symbol) := by
  induction expr using inductionOnArgs with
  | literal value =>
      simp only [relabel, compile]
      rw [value.mapProblems_compile]
  | binary op left right hLeft hRight =>
      simp only [relabel, compile]
      rw [hLeft, hRight]
      simp only [bindsLooser_relabel]
      cases hOp : dialect.binary (labels.symbol op) with
      | none => simp [Dialect.pull, hOp, Problem.relabel]
      | some operator => simp [Dialect.pull, hOp]
  | unary op operand hOperand =>
      simp only [relabel, compile]
      rw [hOperand]
      cases hOp : dialect.unary (labels.symbol op) with
      | none => simp [Dialect.pull, hOp, Problem.relabel]
      | some operator => simp [Dialect.pull, hOp]
  | call name args hArgs =>
      have hEach :
          (args.map (relabel labels)).map (compile dialect) =
            (args.map (compile (dialect.pull labels.symbol))).map
              (Fragment.mapProblems (Problem.relabel labels.symbol)) := by
        rw [List.map_map, List.map_map]
        exact List.map_congr_left hArgs
      simp only [relabel, compile, compileEach_eq_map,
        relabelEach_eq_map, hEach, Fragment.mapProblems_combine,
        Fragment.mapProblems_text, Fragment.mapProblems_wrap,
        Fragment.mapProblems_join]
  | column name table =>
      simp only [relabel, compile, labels.table_name table,
        Fragment.mapProblems_text]
  | reference target =>
      simp only [relabel, compile, labels.compile_target target]
      rw [target.mapProblems_compile]
  | aliased name expr hExpr =>
      simp only [relabel, compile, hExpr,
        Fragment.mapProblems_followedBy]
  | parameter name => rfl
  | error cause => rfl

theorem compileAll_relabel
    (exprs : List Expr) :
    compileAll dialect (relabelEach labels exprs) =
      (compileAll (dialect.pull labels.symbol) exprs).mapProblems
        (Problem.relabel labels.symbol) := by
  unfold compileAll
  rw [Fragment.mapProblems_join, relabelEach_eq_map, List.map_map,
    List.map_map]
  congr 1
  exact List.map_congr_left fun expr _ =>
    compile_relabel labels dialect expr

end Expr

------------------------------------------------------------
-- Relations
------------------------------------------------------------

namespace Grouping

def relabel
    (labels : Relabeling) : Grouping → Grouping
  | .key expr => .key (expr.relabel labels)
  | .sets lists => .sets (lists.map (Expr.relabelEach labels))
  | .cube exprs => .cube (Expr.relabelEach labels exprs)
  | .rollup exprs => .rollup (Expr.relabelEach labels exprs)

theorem compile_relabel
    (labels : Relabeling)
    (dialect : Dialect)
    (grouping : Grouping) :
    (grouping.relabel labels).compile dialect =
      (grouping.compile (dialect.pull labels.symbol)).mapProblems
        (Problem.relabel labels.symbol) := by
  cases grouping with
  | key expr => exact expr.compile_relabel labels dialect
  | sets lists =>
      simp only [relabel, compile, List.map_map, Fragment.mapProblems_after,
        Fragment.mapProblems_wrap, Fragment.mapProblems_join]
      congr 3
      apply List.map_congr_left
      intro set _
      simp only [Function.comp_apply, Expr.compileAll_relabel,
        Fragment.mapProblems_wrap]
  | cube exprs =>
      simp only [relabel, compile, Expr.compileAll_relabel,
        Fragment.mapProblems_after, Fragment.mapProblems_wrap]
  | rollup exprs =>
      simp only [relabel, compile, Expr.compileAll_relabel,
        Fragment.mapProblems_after, Fragment.mapProblems_wrap]

end Grouping

namespace Relation

def relabel
    (labels : Relabeling) : Relation → Relation
  | .empty => .empty
  | .table base => .table (labels.table base)
  | .rename name source => .rename name (source.relabel labels)
  | .projection selectList source =>
      .projection (Expr.relabelEach labels selectList)
        (source.relabel labels)
  | .selection predicate source =>
      .selection (predicate.relabel labels) (source.relabel labels)
  | .join kind left right predicate =>
      .join kind (left.relabel labels) (right.relabel labels)
        (predicate.map (Expr.relabel labels))
  | .group keys aggregates source =>
      .group (keys.map (Grouping.relabel labels))
        (Expr.relabelEach labels aggregates) (source.relabel labels)
  | .error cause inside => .error cause (inside.relabel labels)

variable (labels : Relabeling) (dialect : Dialect)

theorem isEmpty_relabel
    (relation : Relation) :
    (relation.relabel labels).isEmpty = relation.isEmpty := by
  cases relation <;> rfl

theorem compile_relabel
    (relation : Relation) :
    (relation.relabel labels).compile dialect =
      (relation.compile (dialect.pull labels.symbol)).mapProblems
        (Problem.relabel labels.symbol) := by
  induction relation with
  | empty => rfl
  | table base =>
      simp only [relabel, compile, labels.table_name base,
        Fragment.mapProblems_text]
  | rename name source hSource =>
      simp only [relabel, compile, hSource,
        Fragment.mapProblems_followedBy]
  | projection selectList source hSource =>
      simp only [relabel, compile, isEmpty_relabel, hSource,
        Expr.compileAll_relabel]
      cases source.isEmpty <;> simp
  | selection predicate source hSource =>
      simp only [relabel, compile, hSource, Expr.compile_relabel,
        Fragment.mapProblems_combine, Fragment.mapProblems_followedBy]
  | join kind left right predicate hLeft hRight =>
      simp only [relabel, compile, hLeft, hRight]
      cases predicate with
      | none => simp [Fragment.pad]
      | some predicate =>
          simp [Fragment.pad, Expr.compile_relabel]
  | group keys aggregates source hSource =>
      have hKeys :
          (keys.map (Grouping.relabel labels)).map
              (Grouping.compile dialect) =
            (keys.map
              (Grouping.compile (dialect.pull labels.symbol))).map
                (Fragment.mapProblems
                  (Problem.relabel labels.symbol)) := by
        rw [List.map_map, List.map_map]
        exact List.map_congr_left fun key _ =>
          key.compile_relabel labels dialect
      simp only [relabel, compile, isEmpty_relabel, hSource, hKeys,
        Expr.compileAll_relabel]
      cases source.isEmpty <;> simp
  | error cause inside => rfl

end Relation

------------------------------------------------------------
-- Documents
------------------------------------------------------------

namespace Document

def relabel
    (labels : Relabeling) : Document → Document
  | .relation tree => .relation (tree.relabel labels)
  | .expression tree => .expression (tree.relabel labels)

theorem compile_relabel
    (labels : Relabeling)
    (dialect : Dialect)
    (document : Document) :
    (document.relabel labels).compile dialect =
      (document.compile (dialect.pull labels.symbol)).mapProblems
        (Problem.relabel labels.symbol) := by
  cases document with
  | relation tree => exact tree.compile_relabel labels dialect
  | expression tree => exact tree.compile_relabel labels dialect

end Document

end SqlCompiler
