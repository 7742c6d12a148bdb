import SqlCompiler.Text

/-
  This file defines dialects.  A dialect says how the symbol
  of an operator is written in SQL and how tightly a binary
  operator binds.

  Key definitions include:
    * `Operator`
    * `Dialect`
    * `Dialect.Entry`
    * `Dialect.lookup?`
    * `Dialect.ofEntries`

  Key theorems include:
    * `Dialect.exists_entry_of_lookup?`
-/

namespace SqlCompiler

/-
  How an operator is written, and how tightly it binds; a
  higher precedence binds tighter.  The precedence of a unary
  operator has no effect.
-/
structure Operator where
  text : String
  precedence : UInt8 := 0
deriving DecidableEq, Repr

/- A named choice of binary and unary operators. -/
structure Dialect where
  name : String
  binary : String → Option Operator
  unary : String → Option Operator

namespace Dialect

/- A symbol with its operator. -/
abbrev Entry :=
  String × Operator

/-
  The operator of the first entry with the given symbol, up to
  the case of ASCII letters.
-/
def lookup?
    (entries : List Entry)
    (symbol : String) : Option Operator :=
  (entries.find? fun entry =>
    Text.sameIgnoringCase entry.1 symbol).map (·.2)

/- A found operator belongs to an entry with that symbol. -/
theorem exists_entry_of_lookup?
    {entries : List Entry}
    {symbol : String}
    {operator : Operator}
    (hFound : lookup? entries symbol = some operator) :
    ∃ entry ∈ entries,
      Text.sameIgnoringCase entry.1 symbol = true ∧
        entry.2 = operator := by
  rcases Option.map_eq_some_iff.1 hFound with ⟨entry, hEntry, hOperator⟩
  have hSame := List.find?_some hEntry
  exact ⟨entry, List.mem_of_find?_eq_some hEntry, hSame, hOperator⟩

/- The dialect with the given entries. -/
def ofEntries
    (name : String)
    (binary unary : List Entry) : Dialect where
  name := name
  binary := lookup? binary
  unary := lookup? unary

end Dialect

end SqlCompiler
