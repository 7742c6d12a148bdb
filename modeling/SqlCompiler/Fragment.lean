import SqlCompiler.Problem

/-
  This file defines fragments: pieces of SQL text, or the
  problems that prevented them.  Putting fragments together
  keeps the problems of all of them, so that compiling a tree
  reports everything that is wrong with it.

  Key definitions include:
    * `Fragment`
    * `Fragment.combine`
    * `Fragment.join`
    * `Fragment.concat`
    * `Fragment.wrapIf`
    * `Fragment.check`
-/

namespace SqlCompiler

/- SQL text, or the problems found while producing it. -/
inductive Fragment where
  | text (sql : String)
  | failed (problems : Problems)
deriving DecidableEq, Repr

namespace Fragment

/- The fragment without text. -/
def empty : Fragment :=
  .text ""

/- A single problem. -/
def fail
    (problem : Problem) : Fragment :=
  .failed (.one problem)

------------------------------------------------------------
-- Concatenation
------------------------------------------------------------

/-
  Texts are appended.  When a side has failed, so has the
  whole, with the problems of the left side first.
-/
def combine : Fragment → Fragment → Fragment
  | .text left, .text right => .text (left ++ right)
  | .text _, .failed problems => .failed problems
  | .failed problems, .text _ => .failed problems
  | .failed left, .failed right => .failed (left.append right)

/- A fragment followed by plain text. -/
def followedBy
    (fragment : Fragment)
    (suffix : String) : Fragment :=
  match fragment with
  | .text sql => .text (sql ++ suffix)
  | .failed problems => .failed problems

/- Plain text followed by a fragment. -/
def after
    (lead : String)
    (fragment : Fragment) : Fragment :=
  combine (.text lead) fragment

/-
  The items with a separator between adjacent ones: after the
  first item, each one is put behind a separator.
-/
def join
    (separator : String) : List Fragment → Fragment
  | [] => empty
  | first :: rest =>
      rest.foldl
        (fun joined item => (joined.followedBy separator).combine item)
        first

/- The items one after the other. -/
def concat
    (items : List Fragment) : Fragment :=
  items.foldl combine empty

------------------------------------------------------------
-- Wrapping and Checking
------------------------------------------------------------

/- The text between two others, if the condition holds. -/
def wrapIf
    (left right : String)
    (condition : Bool) : Fragment → Fragment
  | .text sql =>
      if condition then
        .text (left ++ sql ++ right)
      else
        .text sql
  | .failed problems => .failed problems

def wrap
    (left right : String)
    (fragment : Fragment) : Fragment :=
  fragment.wrapIf left right true

/- The text between single spaces. -/
def pad
    (fragment : Fragment) : Fragment :=
  fragment.wrap " " " "

/-
  The text of a fragment with the problems of another one as
  well.  It serves for trees that must compile but are not
  rendered.
-/
def check
    (fragment other : Fragment) : Fragment :=
  match other with
  | .text _ => fragment
  | .failed problems => fragment.combine (.failed problems)

------------------------------------------------------------
-- Views
------------------------------------------------------------

/- The problems as a list, empty for a text. -/
def problems : Fragment → List Problem
  | .text _ => []
  | .failed problems => problems.toList

/- The text, if there is one. -/
def sql? : Fragment → Option String
  | .text sql => some sql
  | .failed _ => none

theorem problems_combine
    (left right : Fragment) :
    (left.combine right).problems = left.problems ++ right.problems := by
  cases left <;> cases right <;> simp [combine, problems]

end Fragment

end SqlCompiler
