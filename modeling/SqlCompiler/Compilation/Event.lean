import SqlCompiler.Compilation.Relation
import SqlCompiler.Text

/-
  This file records what happens during compilation.  An
  operator is looked up after its operands were compiled, so
  its event follows theirs.

  Key definitions include:
    * `Event`
    * `Event.text`
    * `Event.line`
    * `Expr.events`
    * `Relation.events`
    * `Document.events`
-/

namespace SqlCompiler

------------------------------------------------------------
-- Events
------------------------------------------------------------

/- Something worth a line in the debug log. -/
inductive Event where
  | layering (table : String) (binary unary : Nat) (base : String)
  | dialectReady (dialect : String)
  | parameterRequested (name : String)
  | unknownBinary (symbol dialect : String)
  | unknownUnary (symbol dialect : String)
deriving DecidableEq, Repr

/- What is said of an event. -/
def Event.text : Event → String
  | .layering table binary unary base =>
      "Layering operator table table=" ++ table ++
        " binary=" ++ toString binary ++
        " unary=" ++ toString unary ++
        " base=" ++ Text.quoted base
  | .dialectReady dialect =>
      "Dialect ready dialect=" ++ Text.quoted dialect
  | .parameterRequested name =>
      "parameter binding requested parameter=" ++ name
  | .unknownBinary symbol dialect =>
      "unknown binary operator symbol=" ++ Text.quoted symbol ++
        " dialect=" ++ Text.quoted dialect
  | .unknownUnary symbol dialect =>
      "unknown unary operator symbol=" ++ Text.quoted symbol ++
        " dialect=" ++ Text.quoted dialect

/- The line of an event in the debug log. -/
def Event.line
    (event : Event) : String :=
  "DEBUG " ++ event.text ++ "\n"

------------------------------------------------------------
-- Expressions
------------------------------------------------------------

namespace Expr

mutual

/- The events of compiling an expression. -/
def events
    (dialect : Dialect) : Expr → List Event
  | .binary op left right =>
      left.events dialect ++ right.events dialect ++
        (if (dialect.binary op).isNone then
          [.unknownBinary op dialect.name]
        else
          [])
  | .unary op operand =>
      operand.events dialect ++
        (if (dialect.unary op).isNone then
          [.unknownUnary op dialect.name]
        else
          [])
  | .call _ args => eventsOfEach dialect args
  | .alias _ expr => expr.events dialect
  | .parameter name => [.parameterRequested name]
  | .literal _ | .column _ _ | .reference _ | .error _ => []

/- The events of compiling each expression of a list. -/
def eventsOfEach
    (dialect : Dialect) : List Expr → List Event
  | [] => []
  | expr :: rest => expr.events dialect ++ eventsOfEach dialect rest

end

end Expr

------------------------------------------------------------
-- Relations
------------------------------------------------------------

def Grouping.events
    (dialect : Dialect) : Grouping → List Event
  | .key expr => expr.events dialect
  | .sets lists => lists.flatMap (Expr.eventsOfEach dialect)
  | .cube exprs => Expr.eventsOfEach dialect exprs
  | .rollup exprs => Expr.eventsOfEach dialect exprs

/- The events of compiling a relation. -/
def Relation.events
    (dialect : Dialect) : Relation → List Event
  | .empty => []
  | .table _ => []
  | .rename _ source => source.events dialect
  | .projection selectList source =>
      Expr.eventsOfEach dialect selectList ++ source.events dialect
  | .selection predicate source =>
      source.events dialect ++ predicate.events dialect
  | .join _ left right predicate =>
      left.events dialect ++ right.events dialect ++
        (match predicate with
        | none => []
        | some predicate => predicate.events dialect)
  | .group keys aggregates source =>
      keys.flatMap (Grouping.events dialect) ++
        Expr.eventsOfEach dialect aggregates ++
        source.events dialect
  | .error _ _ => []

def Document.events
    (dialect : Dialect) : Document → List Event
  | .relation tree => tree.events dialect
  | .expression tree => tree.events dialect

end SqlCompiler
