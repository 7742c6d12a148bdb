import Mathlib.Data.List.Perm.Basic
import SqlCompiler.Compilation.Event
import SqlCompiler.Dialect.BuiltIn
import SqlCompiler.Proofs.Compilation.Passes

/-
  This file compares the debug log of a compilation with the
  problems it reports.  Every event announces one problem, and
  the events announce exactly the problems of three kinds: a
  parameter, an unknown binary and an unknown unary operator.

  The orders differ.  An operator is logged behind its
  operands, but its problem stands where the operator would
  be written.

  Key definitions include:
    * `Event.announced?`
    * `Problem.isAnnounced`
    * `Announce`
    * `Relation.hollow`

  Key theorems include:
    * `Expr.announce_faults`
    * `Relation.announce_faults`
    * `Document.log_announces_problems`
-/

namespace SqlCompiler

------------------------------------------------------------
-- Announcements
------------------------------------------------------------

/- The problem that an event announces, if it does. -/
def Event.announced? : Event → Option Problem
  | .parameterRequested _ => some (.unsupported "parameter binding")
  | .unknownBinary symbol _ => some (.unknownBinary symbol)
  | .unknownUnary symbol _ => some (.unknownUnary symbol)
  | .layering _ _ _ _ | .dialectReady _ => none

/- Whether a problem is of a kind that is logged. -/
def Problem.isAnnounced : Problem → Bool
  | .unknownBinary _ | .unknownUnary _ | .unsupported _ => true
  | .binding _ | .internal _ => false

/-
  Events announce problems when each event announces one of
  them, up to order, and none of a logged kind is left out.
-/
def Announce
    (events : List Event)
    (problems : List Problem) : Prop :=
  (events.map Event.announced?).Perm
    ((problems.filter Problem.isAnnounced).map some)

theorem announce_nil :
    Announce [] [] :=
  .nil

namespace Announce

variable {events others : List Event} {problems further : List Problem}

theorem append
    (hEvents : Announce events problems)
    (hOthers : Announce others further) :
    Announce (events ++ others) (problems ++ further) := by
  unfold Announce at *
  rw [List.map_append, List.filter_append, List.map_append]
  exact hEvents.append hOthers

/- The order of the problems does not matter. -/
theorem reorder
    (hEvents : Announce events problems)
    (hPerm : problems.Perm further) :
    Announce events further :=
  List.Perm.trans hEvents ((hPerm.filter _).map _)

theorem flatMap
    {α : Type}
    {items : List α}
    {eventsOf : α → List Event}
    {problemsOf : α → List Problem}
    (hItems :
      ∀ item ∈ items, Announce (eventsOf item) (problemsOf item)) :
    Announce (items.flatMap eventsOf) (items.flatMap problemsOf) := by
  induction items with
  | nil => exact announce_nil
  | cons item rest ih =>
      rw [List.flatMap_cons, List.flatMap_cons]
      refine append (hItems item List.mem_cons_self) (ih ?_)
      intro other hMem
      exact hItems other (List.mem_cons_of_mem _ hMem)

/- Without problems, nothing is logged. -/
theorem eq_nil
    (hEvents : Announce events []) :
    events = [] :=
  List.map_eq_nil_iff.1 (List.perm_nil.1 hEvents)

end Announce

/- What is said only under a condition. -/
theorem announce_ite
    {event : Event}
    {problem : Problem}
    (hEvent : event.announced? = some problem)
    (hProblem : problem.isAnnounced = true)
    (condition : Bool) :
    Announce (if condition then [event] else [])
      (if condition then [problem] else []) := by
  cases condition with
  | false => exact announce_nil
  | true => simp [Announce, hEvent, hProblem]

------------------------------------------------------------
-- Expressions
------------------------------------------------------------

theorem Attribute.announce_faults
    (target : Attribute) :
    Announce [] target.faults := by
  rcases target with ⟨qualifier, name, error⟩
  cases error <;> cases name <;> exact .nil

namespace Expr

theorem eventsOfEach_eq_flatMap
    (dialect : Dialect)
    (exprs : List Expr) :
    eventsOfEach dialect exprs = exprs.flatMap (events dialect) := by
  induction exprs with
  | nil => rfl
  | cons expr rest ih => simp [eventsOfEach, ih]

/-
  An operator comes last in the log, and between its operands
  among the problems.
-/
theorem announce_faults
    (dialect : Dialect)
    (expr : Expr) :
    Announce (expr.events dialect) (expr.faults dialect) := by
  induction expr using inductionOnArgs with
  | literal value => exact announce_nil
  | binary op left right hLeft hRight =>
      have hOwn :
          Announce
            (if (dialect.binary op).isNone then
              [.unknownBinary op dialect.name]
            else
              [])
            (if (dialect.binary op).isNone then
              [.unknownBinary op]
            else
              []) :=
        announce_ite rfl rfl _
      simp only [events, faults]
      refine ((hLeft.append hRight).append hOwn).reorder ?_
      rw [List.append_assoc, List.append_assoc]
      exact List.perm_append_comm.append_left _
  | unary op operand hOperand =>
      have hOwn :
          Announce
            (if (dialect.unary op).isNone then
              [.unknownUnary op dialect.name]
            else
              [])
            (if (dialect.unary op).isNone then
              [.unknownUnary op]
            else
              []) :=
        announce_ite rfl rfl _
      simp only [events, faults]
      exact (hOperand.append hOwn).reorder List.perm_append_comm
  | call name args hArgs =>
      simp only [events, faults]
      rw [eventsOfEach_eq_flatMap, faultsOfEach_eq_flatMap]
      exact .flatMap hArgs
  | column name table => exact announce_nil
  | reference target =>
      simp only [events, faults]
      exact target.announce_faults
  | aliased name expr hExpr =>
      simp only [events, faults]
      exact hExpr
  | parameter name => exact .refl _
  | error cause => exact .nil

theorem announce_faultsOfEach
    (dialect : Dialect)
    (exprs : List Expr) :
    Announce (eventsOfEach dialect exprs)
      (faultsOfEach dialect exprs) := by
  rw [eventsOfEach_eq_flatMap, faultsOfEach_eq_flatMap]
  exact .flatMap fun expr _ => expr.announce_faults dialect

end Expr

------------------------------------------------------------
-- Relations
------------------------------------------------------------

theorem Grouping.announce_faults
    (dialect : Dialect)
    (grouping : Grouping) :
    Announce (grouping.events dialect) (grouping.faults dialect) := by
  cases grouping with
  | key expr => exact expr.announce_faults dialect
  | sets lists =>
      exact .flatMap fun set _ => Expr.announce_faultsOfEach dialect set
  | cube exprs => exact Expr.announce_faultsOfEach dialect exprs
  | rollup exprs => exact Expr.announce_faultsOfEach dialect exprs

namespace Relation

theorem announce_faults
    (dialect : Dialect)
    (relation : Relation) :
    Announce (relation.events dialect) (relation.faults dialect) := by
  induction relation with
  | empty => exact .nil
  | table base => exact announce_nil
  | rename name source hSource => exact hSource
  | projection selectList source hSource =>
      refine (Expr.announce_faultsOfEach dialect selectList).append ?_
      cases source with
      | empty => exact announce_nil
      | _ => exact hSource
  | selection predicate source hSource =>
      exact hSource.append (predicate.announce_faults dialect)
  | join kind left right predicate hLeft hRight =>
      refine (hLeft.append hRight).append ?_
      cases predicate with
      | none => exact announce_nil
      | some predicate => exact predicate.announce_faults dialect
  | group keys aggregates source hSource =>
      have hKeys :
          Announce (keys.flatMap (Grouping.events dialect))
            (keys.flatMap (Grouping.faults dialect)) :=
        .flatMap fun key _ => key.announce_faults dialect
      refine (hKeys.append
        (Expr.announce_faultsOfEach dialect aggregates)).append ?_
      cases source with
      | empty => exact announce_nil
      | _ => exact hSource
  | error cause inside => exact .nil

/- A relation with nothing left inside its errors. -/
def hollow : Relation → Relation
  | .empty => .empty
  | .table base => .table base
  | .rename name source => .rename name source.hollow
  | .projection selectList source => .projection selectList source.hollow
  | .selection predicate source => .selection predicate source.hollow
  | .join kind left right predicate =>
      .join kind left.hollow right.hollow predicate
  | .group keys aggregates source => .group keys aggregates source.hollow
  | .error cause _ => .error cause .empty

theorem events_hollow
    (dialect : Dialect)
    (relation : Relation) :
    relation.hollow.events dialect = relation.events dialect := by
  induction relation with
  | empty => rfl
  | table base => rfl
  | rename name source hSource => simp only [hollow, events, hSource]
  | projection selectList source hSource =>
      simp only [hollow, events, hSource]
  | selection predicate source hSource =>
      simp only [hollow, events, hSource]
  | join kind left right predicate hLeft hRight =>
      simp only [hollow, events, hLeft, hRight]
  | group keys aggregates source hSource =>
      simp only [hollow, events, hSource]
  | error cause inside => rfl

end Relation

------------------------------------------------------------
-- Documents
------------------------------------------------------------

namespace Document

def hollow : Document → Document
  | .relation tree => .relation tree.hollow
  | .expression tree => .expression tree

theorem announce_problems
    (dialect : Dialect)
    (document : Document) :
    Announce (document.events dialect)
      (document.compile dialect).problems := by
  rw [problems_compile]
  cases document with
  | relation tree => exact tree.announce_faults dialect
  | expression tree => exact tree.announce_faults dialect

/-
  The log and the problems tell the same story.  Each event of
  a compilation announces a problem that is reported, and all
  problems of the three kinds are announced once, though maybe
  in another order.  So a document that compiles leaves no
  event.  What an error node has inside is not logged at all.
-/
theorem log_announces_problems
    (dialect : Dialect)
    (document : Document) :
    ((document.events dialect).map Event.announced?).Perm
        (((document.compile dialect).problems.filter
          Problem.isAnnounced).map some) ∧
      (∀ sql,
        document.compile dialect = .text sql →
          document.events dialect = []) ∧
      document.hollow.events dialect = document.events dialect := by
  have hAnnounce := document.announce_problems dialect
  refine ⟨hAnnounce, ?_, ?_⟩
  · intro sql hCompile
    rw [hCompile] at hAnnounce
    exact hAnnounce.eq_nil
  · cases document with
    | relation tree => exact tree.events_hollow dialect
    | expression tree => rfl

/-
  Two parameters below unknown operators are logged before
  either operator, though the binary one is reported second;
  the parameter inside the error is not logged.  A sum of
  integers leaves no event.
-/
theorem log_announces_problems_below_operators :
    let predicate : Expr :=
      .binary "<=>" (.parameter "p") (.unary "!" (.parameter "q"))
    let broken : Relation :=
      .error (.other "broken") (.selection (.parameter "r") .empty)
    let document : Document := .relation (.selection predicate broken)
    let sum : Document :=
      .expression
        (.plus (.literal (.integer 1)) (.literal (.integer 2)))
    (document.events .generic =
        [.parameterRequested "p", .parameterRequested "q",
          .unknownUnary "!" "generic", .unknownBinary "<=>" "generic"] ∧
      ((document.events .generic).map Event.announced?).Perm
        ([.unsupported "parameter binding", .unknownBinary "<=>",
          .unknownUnary "!", .unsupported "parameter binding"].map
            some)) ∧
      sum.compile .generic = .text "1 + 2" ∧ sum.events .generic = [] := by
  intro predicate broken document sum
  have hSum : sum.compile .generic = .text "1 + 2" := by
    decide
  exact ⟨⟨by decide, (log_announces_problems .generic document).1⟩,
    hSum, (log_announces_problems .generic sum).2.1 "1 + 2" hSum⟩

end Document

end SqlCompiler
