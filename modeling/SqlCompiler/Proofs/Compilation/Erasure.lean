import SqlCompiler.Dialect.BuiltIn
import SqlCompiler.Proofs.Compilation.Relabeling

/-
  This file takes out of a tree what does not reach the output.
  Two kinds of things go.  Labels that are not rendered become
  blank, which leaves the shape of the tree as it is.  Relations
  that are not rendered become empty: those inside an error, and
  the source of a group, if all that the group hides compiles.

  The empty relation is an error in most places.  It is none as
  the source of a group or inside an error, and nowhere else
  does a relation become empty.

  Key definitions include:
    * `Attribute.shown`
    * `Relabeling.blank`
    * `Relation.hiddenPartsCompile`
    * `Relation.pruned`
    * `Document.erased`

  Key theorems include:
    * `Relation.compile_pruned`
    * `Document.compile_erased`
    * `Document.only_rendered_content_matters`
-/

namespace SqlCompiler

------------------------------------------------------------
-- Labels
------------------------------------------------------------

/-
  The part of a reference that is rendered or reported: an error
  alone, or a name with its qualifier.
-/
def Attribute.shown
    (target : Attribute) : Attribute :=
  match target.error, target.name with
  | some cause, _ => ⟨none, none, some cause⟩
  | none, some name => ⟨target.qualifier, some name, none⟩
  | none, none => ⟨none, none, none⟩

theorem Attribute.compile_shown
    (target : Attribute) :
    target.shown.compile = target.compile := by
  rcases target with ⟨qualifier, name, error⟩
  cases error <;> cases name <;> cases qualifier <;> rfl

/- Blank what is not rendered: columns and parameters too. -/
def Relabeling.blank : Relabeling where
  symbol := id
  table base := ⟨base.name, []⟩
  target := Attribute.shown
  parameter _ := ""
  table_name _ := rfl
  compile_target := Attribute.compile_shown

/- No symbol changes, so neither do the problems. -/
theorem Document.compile_blank
    (dialect : Dialect)
    (document : Document) :
    (document.relabel .blank).compile dialect =
      document.compile dialect := by
  have hRelabel := document.compile_relabel .blank dialect
  have hProblem : Problem.relabel Relabeling.blank.symbol = id :=
    Problem.relabel_id
  rw [hProblem, Fragment.mapProblems_id] at hRelabel
  exact hRelabel

------------------------------------------------------------
-- Relations that are not Rendered
------------------------------------------------------------

/- To check what compiles is to do nothing. -/
theorem Fragment.check_of_compiles
    {other : Fragment}
    (hOther : other.sql?.isSome = true)
    (fragment : Fragment) :
    fragment.check other = fragment := by
  cases other with
  | text sql => rfl
  | failed problems => cases hOther

namespace Relation

/- Whether the aggregates and the source of a group compile. -/
def hiddenPartsCompile
    (dialect : Dialect)
    (aggregates : List Expr)
    (source : Relation) : Bool :=
  (Expr.compileAll dialect aggregates).sql?.isSome &&
    (source.isEmpty || (source.compile dialect).sql?.isSome)

/-
  The relation without what its errors have inside and without
  what its groups hide, unless a group hides a problem.
-/
def pruned
    (dialect : Dialect) : Relation → Relation
  | .empty => .empty
  | .table base => .table base
  | .rename name source => .rename name (source.pruned dialect)
  | .projection selectList source =>
      .projection selectList (source.pruned dialect)
  | .selection predicate source =>
      .selection predicate (source.pruned dialect)
  | .join kind left right predicate =>
      .join kind (left.pruned dialect) (right.pruned dialect) predicate
  | .group keys aggregates source =>
      if hiddenPartsCompile dialect aggregates source then
        .group keys [] .empty
      else
        .group keys aggregates (source.pruned dialect)
  | .error cause _ => .error cause .empty

variable (dialect : Dialect)

theorem isEmpty_pruned
    (relation : Relation) :
    (relation.pruned dialect).isEmpty = relation.isEmpty := by
  cases relation with
  | group keys aggregates source =>
      unfold pruned
      split
      · rfl
      · rfl
  | _ => rfl

/- A group whose hidden parts compile is only its clause. -/
theorem compile_group_of_hiddenPartsCompile
    {dialect : Dialect}
    {aggregates : List Expr}
    {source : Relation}
    (hHidden : hiddenPartsCompile dialect aggregates source = true)
    (keys : List Grouping) :
    (Relation.group keys aggregates source).compile dialect =
      .after "GROUP BY "
        (.join ", " (keys.map (Grouping.compile dialect))) := by
  rcases Bool.and_eq_true_iff.1 hHidden with ⟨hAggregates, hSource⟩
  simp only [compile]
  rw [Fragment.check_of_compiles hAggregates]
  rcases Bool.or_eq_true_iff.1 hSource with hEmpty | hCompiles
  · rw [if_pos hEmpty]
  · rw [Fragment.check_of_compiles hCompiles, ite_self]

/- A group whose hidden parts were removed still compiles. -/
theorem compile_pruned
    (relation : Relation) :
    (relation.pruned dialect).compile dialect =
      relation.compile dialect := by
  induction relation with
  | empty => rfl
  | table base => rfl
  | rename name source hSource =>
      simp only [pruned, compile, hSource]
  | projection selectList source hSource =>
      simp only [pruned, compile, isEmpty_pruned, hSource]
  | selection predicate source hSource =>
      simp only [pruned, compile, hSource]
  | join kind left right predicate hLeft hRight =>
      simp only [pruned, compile, hLeft, hRight]
  | group keys aggregates source hSource =>
      unfold pruned
      split
      · rename_i hHidden
        rw [compile_group_of_hiddenPartsCompile hHidden]
        exact compile_group_of_hiddenPartsCompile rfl keys
      · simp only [compile, isEmpty_pruned, hSource]
  | error cause inside => rfl

end Relation

------------------------------------------------------------
-- Documents
------------------------------------------------------------

namespace Document

def pruned
    (dialect : Dialect) : Document → Document
  | .relation tree => .relation (tree.pruned dialect)
  | .expression tree => .expression tree

/- The document with nothing but what the output shows. -/
def erased
    (dialect : Dialect)
    (document : Document) : Document :=
  (document.pruned dialect).relabel .blank

theorem compile_erased
    (dialect : Dialect)
    (document : Document) :
    (document.erased dialect).compile dialect =
      document.compile dialect := by
  rw [erased, compile_blank]
  cases document with
  | relation tree => exact tree.compile_pruned dialect
  | expression tree => rfl

/-
  Only what is rendered, or reported, matters.  A document and
  its erasure compile to the same fragment, so documents with
  equal erasures cannot be told apart by the output.
-/
theorem only_rendered_content_matters
    (dialect : Dialect)
    (document : Document) :
    (document.erased dialect).compile dialect =
        document.compile dialect ∧
      ∀ other : Document,
        document.erased dialect = other.erased dialect →
          document.compile dialect = other.compile dialect := by
  refine ⟨document.compile_erased dialect, ?_⟩
  intro other hErased
  rw [← document.compile_erased dialect, hErased, other.compile_erased]

/-
  Two joins that differ in columns, in the name of a parameter,
  in the parts of a failed reference, in what a group hides and
  in what an error has inside.
-/
theorem only_rendered_content_matters_in_joins :
    let key : Grouping := .key (.reference (.named "k"))
    let predicate (name : String) (target : Attribute) : Expr :=
      .equals (.parameter name) (.reference target)
    let document : Document :=
      .relation
        (.join .inner
          (.group [key] [.call "sum" [.column "x" ⟨"t", ["x"]⟩]]
            (.table ⟨"t", ["x", "k"]⟩))
          (.error (.unknownRelation "u") (.table ⟨"u", []⟩))
          (some (predicate "p"
            ⟨some "u", some "x", some (.unknownAttribute "x")⟩)))
    let other : Document :=
      .relation
        (.join .inner (.group [key] [] .empty)
          (.error (.unknownRelation "u") .empty)
          (some (predicate "q" (.failed (.unknownAttribute "x")))))
    document.erased .generic = other.erased .generic ∧
      document.compile .generic =
        .failed
          ⟨.binding (.unknownRelation "u"),
            [.unsupported "parameter binding",
              .binding (.unknownAttribute "x")]⟩ := by
  intro key predicate document other
  have hErased : document.erased .generic = other.erased .generic := by
    rfl
  rw [(only_rendered_content_matters .generic document).2 other hErased]
  exact ⟨hErased, by decide⟩

end Document

end SqlCompiler
