/-
  This file defines scalar expressions.  Operators are carried
  as symbols; what a symbol means is for a dialect to say.
  Trees may carry errors of the layer that built them.

  Key definitions include:
    * `BindingError`
    * `Table`
    * `Literal`
    * `Attribute`
    * `Expr`

  Key theorems include:
    * `Expr.inductionOnArgs`
-/

namespace SqlCompiler

------------------------------------------------------------
-- Errors Carried by Trees
------------------------------------------------------------

/- An error found while names were bound, before compilation. -/
inductive BindingError where
  | unknownAttribute (name : String)
  | ambiguousAttribute (name : String)
  | unknownRelation (name : String)
  | other (message : String)
deriving DecidableEq, Repr

def BindingError.message : BindingError → String
  | .unknownAttribute name => "unknown attribute '" ++ name ++ "'"
  | .ambiguousAttribute name =>
      "ambiguous attribute '" ++ name ++ "'"
  | .unknownRelation name => "unknown relation '" ++ name ++ "'"
  | .other message => message

------------------------------------------------------------
-- Leaves
------------------------------------------------------------

/- A named base table.  Its columns are not rendered. -/
structure Table where
  name : String
  columns : List String := []
deriving DecidableEq, Repr

/- A literal value. -/
inductive Literal where
  | null
  | integer (value : Int64)
  | string (value : String)
  | boolean (value : Bool)
deriving DecidableEq, Repr

/-
  A reference to an attribute: its name with an optional
  qualifier, or the error of resolving it.
-/
structure Attribute where
  qualifier : Option String := none
  name : Option String := none
  error : Option BindingError := none
deriving DecidableEq, Repr

namespace Attribute

/- A resolved reference without a qualifier. -/
def named
    (name : String) : Attribute :=
  ⟨none, some name, none⟩

/- A resolved reference with a qualifier. -/
def qualified
    (qualifier name : String) : Attribute :=
  ⟨some qualifier, some name, none⟩

/- A reference that failed to resolve. -/
def failed
    (error : BindingError) : Attribute :=
  ⟨none, none, some error⟩

end Attribute

------------------------------------------------------------
-- Expressions
------------------------------------------------------------

/- A scalar expression. -/
inductive Expr where
  | literal (value : Literal)
  | binary (op : String) (left right : Expr)
  | unary (op : String) (operand : Expr)
  | call (name : String) (args : List Expr)
  | column (name : String) (table : Table)
  | reference (target : Attribute)
  | alias (name : String) (expr : Expr)
  | parameter (name : String)
  | error (cause : BindingError)
deriving BEq, Repr, Inhabited

namespace Expr

/-
  Induction on expressions.  For a call, the property is
  assumed of every argument.
-/
@[elab_as_elim]
theorem inductionOnArgs
    {motive : Expr → Prop}
    (literal : ∀ value, motive (.literal value))
    (binary :
      ∀ op left right,
        motive left → motive right → motive (.binary op left right))
    (unary :
      ∀ op operand, motive operand → motive (.unary op operand))
    (call :
      ∀ name args,
        (∀ arg ∈ args, motive arg) → motive (.call name args))
    (column : ∀ name table, motive (.column name table))
    (reference : ∀ target, motive (.reference target))
    (aliased :
      ∀ name expr, motive expr → motive (.alias name expr))
    (parameter : ∀ name, motive (.parameter name))
    (error : ∀ cause, motive (.error cause))
    (expr : Expr) :
    motive expr := by
  refine Expr.rec literal binary unary call column reference aliased
    parameter error ?_ ?_ expr
  · intro arg hMem
    cases hMem
  · intro first rest hFirst hRest arg hMem
    rcases List.mem_cons.1 hMem with hEq | hOld
    · exact hEq ▸ hFirst
    · exact hRest arg hOld

/- The comparison, arithmetic and logical shorthands. -/
def equals
    (left right : Expr) : Expr :=
  .binary "=" left right

def plus
    (left right : Expr) : Expr :=
  .binary "+" left right

def minus
    (left right : Expr) : Expr :=
  .binary "-" left right

def times
    (left right : Expr) : Expr :=
  .binary "*" left right

def conj
    (left right : Expr) : Expr :=
  .binary "and" left right

def disj
    (left right : Expr) : Expr :=
  .binary "or" left right

end Expr

end SqlCompiler
