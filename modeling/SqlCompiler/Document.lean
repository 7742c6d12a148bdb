import SqlCompiler.Relation.Json

/-
  This file defines documents: what is read from a file or
  from standard input in order to be compiled.

  Key definitions include:
    * `Document`
    * `Document.kind`
    * `Document.reader`
    * `Document.parse`
-/

namespace SqlCompiler

/- A relation or a single expression. -/
inductive Document where
  | relation (tree : Relation)
  | expression (tree : Expr)
deriving BEq, Repr

namespace Document

/- The word for what a document holds. -/
def kind : Document → String
  | .relation tree => tree.kind
  | .expression _ => "expression"

def toJson : Document → Json
  | .relation tree => .tagged "relation" tree.toJson
  | .expression tree => .tagged "expression" tree.toJson

def reader : Json.Reader Document :=
  .variant
    [⟨"relation", .single (.relation <$> Relation.reader)⟩,
     ⟨"expression", .single (.expression <$> Expr.reader)⟩]

/- The document that a text holds. -/
def parse
    (text : String) : Except Json.Fault Document :=
  Json.read reader text

/- What is said of a text that holds no document. -/
def rejection : String :=
  "input is not a relation or expression document"

end Document

end SqlCompiler
