import SqlCompiler.Expr.Basic

/-
  This file lists the problems that compilation reports.  A
  failed compilation has at least one, and the type of its
  problems says so.

  Key definitions include:
    * `Problem`
    * `Problem.message`
    * `Problems`
    * `Problems.ofList?`
    * `Problems.append`
    * `Problems.display`

  Key theorems include:
    * `Problems.toList_append`
    * `Problems.ofList?_eq_none_iff`
    * `Problems.ofList?_eq_some_iff`
-/

namespace SqlCompiler

------------------------------------------------------------
-- Single Problems
------------------------------------------------------------

/- A problem found while compiling a tree. -/
inductive Problem where
  | unknownBinary (symbol : String)
  | unknownUnary (symbol : String)
  | binding (cause : BindingError)
  | internal (what : String)
  | unsupported (feature : String)
deriving DecidableEq, Repr

def Problem.message : Problem → String
  | .unknownBinary symbol =>
      "unknown binary operator '" ++ symbol ++ "'"
  | .unknownUnary symbol =>
      "unknown unary operator '" ++ symbol ++ "'"
  | .binding cause => "expression error: " ++ cause.message
  | .internal what => "internal error: " ++ what
  | .unsupported feature => "unsupported feature: " ++ feature

------------------------------------------------------------
-- Lists of Problems
------------------------------------------------------------

/- The problems of one compilation in order; never empty. -/
structure Problems where
  first : Problem
  others : List Problem
deriving DecidableEq, Repr

namespace Problems

def one
    (problem : Problem) : Problems :=
  ⟨problem, []⟩

def toList
    (problems : Problems) : List Problem :=
  problems.first :: problems.others

/- The problems of a list, none if it is empty. -/
def ofList? : List Problem → Option Problems
  | [] => none
  | first :: others => some ⟨first, others⟩

/- The problems of both sides, the left ones first. -/
def append
    (left right : Problems) : Problems :=
  ⟨left.first, left.others ++ right.toList⟩

def length
    (problems : Problems) : Nat :=
  problems.others.length + 1

@[simp]
theorem toList_ne_nil
    (problems : Problems) :
    problems.toList ≠ [] :=
  List.cons_ne_nil _ _

@[simp]
theorem toList_one
    (problem : Problem) :
    (one problem).toList = [problem] :=
  rfl

@[simp]
theorem toList_append
    (left right : Problems) :
    (left.append right).toList = left.toList ++ right.toList := by
  simp [append, toList]

/- Only the empty list gives no problems. -/
theorem ofList?_eq_none_iff
    {list : List Problem} :
    ofList? list = none ↔ list = [] := by
  cases list with
  | nil => simp [ofList?]
  | cons first others => simp [ofList?]

/- Any other list gives the problems that it lists. -/
theorem ofList?_eq_some_iff
    {list : List Problem}
    {problems : Problems} :
    ofList? list = some problems ↔ problems.toList = list := by
  cases list with
  | nil => simp [ofList?, toList]
  | cons first others =>
      rcases problems with ⟨problem, rest⟩
      simp [ofList?, toList, eq_comm]

/- One line for each problem. -/
def display
    (problems : Problems) : String :=
  "\n".intercalate
    (problems.toList.map fun problem => "  - " ++ problem.message)

end Problems

end SqlCompiler
