import SqlCompiler.Operator.Map
import SqlCompiler.Json.Reader.Record
import SqlCompiler.Json.Value

/-
  This file defines operator tables: dialects given by data.
  A table can be checked, looked up on its own, or layered
  over another dialect, whose operators it then overrides.

  Key definitions include:
    * `OperatorTable`
    * `OperatorTable.validate`
    * `OperatorTable.toDialect`
    * `OperatorTable.layeredOver`
    * `OperatorTable.toJson`
    * `OperatorTable.reader`
    * `OperatorTable.parse`
-/

namespace SqlCompiler

/- A named table of operators. -/
structure OperatorTable where
  name : String := "custom"
  binary : OperatorMap := OperatorMap.empty
  unary : OperatorMap := OperatorMap.empty
deriving DecidableEq

/- Why a table cannot be used. -/
inductive TableError where
  | unreadable (fault : Json.Fault)
  | blankSymbol (table : String)
  | blankText (table symbol : String)
deriving DecidableEq, Repr

def TableError.message : TableError → String
  | .unreadable fault => "invalid operator table: " ++ fault.message
  | .blankSymbol table =>
      "operator table '" ++ table ++
        "' declares an operator with an empty symbol"
  | .blankText table symbol =>
      "operator '" ++ symbol ++ "' in table '" ++ table ++
        "' has no SQL text"

namespace OperatorTable

------------------------------------------------------------
-- Building and Checking
------------------------------------------------------------

def withBinary
    (table : OperatorTable)
    (symbol text : String)
    (precedence : UInt8) : OperatorTable :=
  let binary := table.binary.insert symbol ⟨text, precedence⟩
  ⟨table.name, binary, table.unary⟩

def withUnary
    (table : OperatorTable)
    (symbol text : String) : OperatorTable :=
  let unary := table.unary.insert symbol ⟨text, 0⟩
  ⟨table.name, table.binary, unary⟩

/- What is wrong with an entry; a blank symbol comes first. -/
def entryError?
    (table : OperatorTable)
    (entry : Dialect.Entry) : Option TableError :=
  if Text.isBlank entry.1 then
    some (.blankSymbol table.name)
  else if Text.isBlank entry.2.text then
    some (.blankText table.name entry.1)
  else
    none

/-
  Every entry needs a symbol and a text.  The binary entries
  are checked first, each map in the order of its symbols.
-/
def validate
    (table : OperatorTable) : Except TableError Unit :=
  let entries := table.binary.entries ++ table.unary.entries
  match entries.findSome? table.entryError? with
  | some error => .error error
  | none => .ok ()

------------------------------------------------------------
-- Tables as Dialects
------------------------------------------------------------

/- The table on its own. -/
def toDialect
    (table : OperatorTable) : Dialect where
  name := table.name
  binary := table.binary.find?
  unary := table.unary.find?

/- The table in front of another dialect. -/
def layeredOver
    (table : OperatorTable)
    (base : Dialect) : Dialect where
  name := table.name
  binary symbol := (table.binary.find? symbol).or (base.binary symbol)
  unary symbol := (table.unary.find? symbol).or (base.unary symbol)

end OperatorTable

------------------------------------------------------------
-- JSON
------------------------------------------------------------

namespace Operator

def toJson
    (operator : Operator) : Json :=
  .object
    [("text", .string operator.text),
     ("precedence", .integer operator.precedence.toNat)]

def reader : Json.Reader Operator :=
  (fun (text, precedence, _) => ⟨text, precedence⟩) <$>
    .record "struct OperatorInfo"
      (.cons (.required "text" .string) <|
       .cons (.withDefault "precedence" .uint8 0)
       .nil)

end Operator

namespace OperatorMap

def toJson
    (map : OperatorMap) : Json :=
  .object (map.entries.map fun entry => (entry.1, entry.2.toJson))

/- A repeated symbol keeps its last operator. -/
def reader : Json.Reader OperatorMap :=
  ofList <$> .entries Operator.reader

end OperatorMap

namespace OperatorTable

def toJson
    (table : OperatorTable) : Json :=
  .object
    [("name", .string table.name),
     ("binary", table.binary.toJson),
     ("unary", table.unary.toJson)]

def reader : Json.Reader OperatorTable :=
  (fun (name, binary, unary, _) => ⟨name, binary, unary⟩) <$>
    .record "struct OperatorTable"
      (.cons (.withDefault "name" .string "custom") <|
       .cons (.withDefault "binary" OperatorMap.reader .empty) <|
       .cons (.withDefault "unary" OperatorMap.reader .empty)
       .nil)

/- The usable table that a text holds. -/
def parse
    (text : String) : Except TableError OperatorTable :=
  match Json.read reader text with
  | .error fault => .error (.unreadable fault)
  | .ok table =>
      match table.validate with
      | .error error => .error error
      | .ok () => .ok table

end OperatorTable

end SqlCompiler
