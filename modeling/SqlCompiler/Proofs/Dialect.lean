import SqlCompiler.Dialect.BuiltIn

/-
  This file enumerates the built-in dialects and their binary
  operators.  It is also about properties that all texts of a
  dialect's operators have, whichever symbol they were found for.

  Key definitions include:
    * `Dialect.BuiltIn`
    * `Dialect.BuiltIn.dialect`
    * `Dialect.BuiltIn.operators`
    * `Dialect.AllTexts`

  Key theorems include:
    * `Dialect.BuiltIn.exists_of_named?`
    * `Dialect.BuiltIn.mem_operators`
    * `Dialect.allTexts_ofEntries`
    * `Dialect.BuiltIn.allTexts_dialect`
-/

namespace SqlCompiler.Dialect

------------------------------------------------------------
-- Built-In Dialects
------------------------------------------------------------

inductive BuiltIn where
  | generic
  | sqlite
  | postgres
deriving DecidableEq, Repr

namespace BuiltIn

def dialect : BuiltIn → Dialect
  | .generic => Dialect.generic
  | .sqlite => Dialect.sqlite
  | .postgres => Dialect.postgres

/- The entries of the binary operators. -/
def binaryEntries : BuiltIn → List Entry
  | .generic => genericEntries
  | .sqlite => sqliteEntries
  | .postgres => postgresEntries

/- The binary operators, as they are written. -/
def operators
    (builtIn : BuiltIn) : List Operator :=
  builtIn.binaryEntries.map (·.2)

/- Only built-in dialects have a name. -/
theorem exists_of_named?
    {name : String}
    {dialect : Dialect}
    (hNamed : named? name = some dialect) :
    ∃ builtIn : BuiltIn, builtIn.dialect = dialect := by
  unfold named? at hNamed
  split at hNamed
  · exact ⟨.generic, Option.some.inj hNamed⟩
  · exact ⟨.generic, Option.some.inj hNamed⟩
  · exact ⟨.generic, Option.some.inj hNamed⟩
  · exact ⟨.sqlite, Option.some.inj hNamed⟩
  · exact ⟨.postgres, Option.some.inj hNamed⟩
  · exact ⟨.postgres, Option.some.inj hNamed⟩
  · cases hNamed

/- A known symbol is written as one of the operators. -/
theorem mem_operators
    (builtIn : BuiltIn)
    {op : String}
    {operator : Operator}
    (hOp : builtIn.dialect.binary op = some operator) :
    operator ∈ builtIn.operators := by
  have hFound :
      lookup? builtIn.binaryEntries op = some operator := by
    cases builtIn <;> exact hOp
  rcases exists_entry_of_lookup? hFound with ⟨entry, hMem, -, rfl⟩
  exact List.mem_map_of_mem hMem

end BuiltIn

------------------------------------------------------------
-- Texts of Operators
------------------------------------------------------------

/- Every operator that is found has a text with the property. -/
structure AllTexts
    (property : String → Prop)
    (dialect : Dialect) : Prop where
  binary :
    ∀ symbol operator,
      dialect.binary symbol = some operator → property operator.text
  unary :
    ∀ symbol operator,
      dialect.unary symbol = some operator → property operator.text

/- It is enough to look at the entries of a dialect. -/
theorem allTexts_ofEntries
    {property : String → Prop}
    (name : String)
    {binary unary : List Entry}
    (hBinary : ∀ entry ∈ binary, property entry.2.text)
    (hUnary : ∀ entry ∈ unary, property entry.2.text) :
    AllTexts property (ofEntries name binary unary) := by
  constructor
  · intro symbol operator hFound
    rcases exists_entry_of_lookup? hFound with ⟨entry, hMem, -, rfl⟩
    exact hBinary entry hMem
  · intro symbol operator hFound
    rcases exists_entry_of_lookup? hFound with ⟨entry, hMem, -, rfl⟩
    exact hUnary entry hMem

theorem BuiltIn.allTexts_dialect
    {property : String → Prop}
    (builtIn : BuiltIn)
    (hBinary : ∀ entry ∈ builtIn.binaryEntries, property entry.2.text)
    (hUnary : ∀ entry ∈ unaryEntries, property entry.2.text) :
    AllTexts property builtIn.dialect := by
  cases builtIn with
  | generic => exact allTexts_ofEntries _ hBinary hUnary
  | sqlite => exact allTexts_ofEntries _ hBinary hUnary
  | postgres => exact allTexts_ofEntries _ hBinary hUnary

end SqlCompiler.Dialect
