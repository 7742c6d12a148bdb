import SqlCompiler.Expr.Basic
import SqlCompiler.Json.Reader.Record
import SqlCompiler.Json.Reader.Variant
import SqlCompiler.Json.Value

/-
  This file reads expressions from JSON and writes them.
  Readers and writers share the names of variants and fields;
  writers put every field, in the order of declaration.

  Key definitions include:
    * `Expr.toJson`
    * `Expr.readWithin`
    * `Expr.reader`
-/

namespace SqlCompiler

open Json (Reader)

------------------------------------------------------------
-- Leaves
------------------------------------------------------------

namespace BindingError

def toJson : BindingError → Json
  | .unknownAttribute name =>
      .tagged "unknown_attribute" (.string name)
  | .ambiguousAttribute name =>
      .tagged "ambiguous_attribute" (.string name)
  | .unknownRelation name =>
      .tagged "unknown_relation" (.string name)
  | .other message => .tagged "other" (.string message)

def reader : Reader BindingError :=
  .variant
    [⟨"unknown_attribute", .single (.unknownAttribute <$> .string)⟩,
     ⟨"ambiguous_attribute",
      .single (.ambiguousAttribute <$> .string)⟩,
     ⟨"unknown_relation", .single (.unknownRelation <$> .string)⟩,
     ⟨"other", .single (.other <$> .string)⟩]

end BindingError

namespace Table

def toJson
    (table : Table) : Json :=
  .object
    [("name", .string table.name),
     ("columns", .list (table.columns.map .string))]

def reader : Reader Table :=
  (fun (name, columns, _) => ⟨name, columns⟩) <$>
    .record "struct Table"
      (.cons (.required "name" .string) <|
       .cons (.withDefault "columns" (.list .string) [])
       .nil)

end Table

namespace Literal

def toJson : Literal → Json
  | .null => .string "null"
  | .integer value => .tagged "integer" (.integer value.toInt)
  | .string value => .tagged "string" (.string value)
  | .boolean value => .tagged "boolean" (.boolean value)

def reader : Reader Literal :=
  .variant
    [⟨"null", .nothing .null⟩,
     ⟨"integer", .single (.integer <$> .int64)⟩,
     ⟨"string", .single (.string <$> .string)⟩,
     ⟨"boolean", .single (.boolean <$> .boolean)⟩]

end Literal

namespace Attribute

def toJson
    (target : Attribute) : Json :=
  .object
    [("qualifier", .optional .string target.qualifier),
     ("name", .optional .string target.name),
     ("error", .optional BindingError.toJson target.error)]

def reader : Reader Attribute :=
  (fun (qualifier, name, error, _) => ⟨qualifier, name, error⟩) <$>
    .record "struct AttributeReference"
      (.cons (.withDefault "qualifier" (.optional .string) none) <|
       .cons (.withDefault "name" (.optional .string) none) <|
       .cons (.withDefault "error" (.optional BindingError.reader) none)
       .nil)

end Attribute

------------------------------------------------------------
-- Expressions
------------------------------------------------------------

namespace Expr

mutual

def toJson : Expr → Json
  | .literal value => .tagged "literal" value.toJson
  | .binary op left right =>
      .tagged "binary" <| .object
        [("op", .string op),
         ("left", left.toJson),
         ("right", right.toJson)]
  | .unary op operand =>
      .tagged "unary" <| .object
        [("op", .string op), ("operand", operand.toJson)]
  | .call name args =>
      .tagged "function" <| .object
        [("name", .string name), ("args", .list (listToJson args))]
  | .column name table =>
      .tagged "column" <| .object
        [("name", .string name), ("table", table.toJson)]
  | .reference target => .tagged "attribute" target.toJson
  | .alias name expr =>
      .tagged "alias" <| .object
        [("name", .string name), ("expr", expr.toJson)]
  | .parameter name => .tagged "parameter" (.string name)
  | .error cause => .tagged "error" cause.toJson

def listToJson : List Expr → List Json
  | [] => []
  | expr :: rest => expr.toJson :: listToJson rest

end

/- Writing a list of expressions is writing each of them. -/
theorem listToJson_eq_map
    (exprs : List Expr) :
    listToJson exprs = exprs.map toJson := by
  induction exprs with
  | nil => rfl
  | cons expr rest ih => simp [listToJson, ih]

/-
  The variants of expressions, given the reader of their
  operands.
-/
def variants
    (inner : Reader Expr) : List (Json.Variant Expr) :=
  [⟨"literal", .single (.literal <$> Literal.reader)⟩,
   ⟨"binary", .record <|
    (fun (op, left, right, _) => .binary op left right) <$>
      .record "struct variant Expr::Binary"
        (.cons (.required "op" .string) <|
         .cons (.required "left" inner) <|
         .cons (.required "right" inner)
         .nil)⟩,
   ⟨"unary", .record <|
    (fun (op, operand, _) => .unary op operand) <$>
      .record "struct variant Expr::Unary"
        (.cons (.required "op" .string) <|
         .cons (.required "operand" inner)
         .nil)⟩,
   ⟨"function", .record <|
    (fun (name, args, _) => .call name args) <$>
      .record "struct variant Expr::Function"
        (.cons (.required "name" .string) <|
         .cons (.withDefault "args" (.list inner) [])
         .nil)⟩,
   ⟨"column", .record <|
    (fun (name, table, _) => .column name table) <$>
      .record "struct variant Expr::Column"
        (.cons (.required "name" .string) <|
         .cons (.required "table" Table.reader)
         .nil)⟩,
   ⟨"attribute", .single (.reference <$> Attribute.reader)⟩,
   ⟨"alias", .record <|
    (fun (name, expr, _) => .alias name expr) <$>
      .record "struct variant Expr::Alias"
        (.cons (.required "name" .string) <|
         .cons (.required "expr" inner)
         .nil)⟩,
   ⟨"parameter", .single (.parameter <$> .string)⟩,
   ⟨"error", .single (.error <$> BindingError.reader)⟩]

/-
  The reader of expressions of at most `levels` levels.  Every
  level but the last enters a bracket, so the limit on nesting
  is met before the levels run out.
-/
def readWithin : Nat → Reader Expr
  | 0 => .fail .nestingTooDeep
  | levels + 1 => .variant (variants (readWithin levels))

/- The reader of expressions. -/
def reader : Reader Expr :=
  readWithin (Json.nestingLimit + 1)

end Expr

end SqlCompiler
