import SqlCompiler.Expr.Json
import SqlCompiler.Relation.Basic

/-
  This file reads relations from JSON and writes them, in the
  way of expressions.

  Key definitions include:
    * `Relation.toJson`
    * `Relation.readWithin`
    * `Relation.reader`
-/

namespace SqlCompiler

open Json (Reader)

------------------------------------------------------------
-- Parts of Relations
------------------------------------------------------------

namespace JoinKind

def toJson : JoinKind → Json
  | .inner => .string "inner"
  | .leftOuter => .string "left_outer"
  | .rightOuter => .string "right_outer"
  | .fullOuter => .string "full_outer"

def reader : Reader JoinKind :=
  .variant
    [⟨"inner", .nothing .inner⟩,
     ⟨"left_outer", .nothing .leftOuter⟩,
     ⟨"right_outer", .nothing .rightOuter⟩,
     ⟨"full_outer", .nothing .fullOuter⟩]

end JoinKind

namespace Grouping

def toJson : Grouping → Json
  | .key expr => .tagged "expr" expr.toJson
  | .sets lists =>
      .tagged "grouping_sets"
        (.list (lists.map fun set => .list (set.map Expr.toJson)))
  | .cube exprs => .tagged "cube" (.list (exprs.map Expr.toJson))
  | .rollup exprs =>
      .tagged "rollup" (.list (exprs.map Expr.toJson))

def reader : Reader Grouping :=
  .variant
    [⟨"expr", .single (.key <$> Expr.reader)⟩,
     ⟨"grouping_sets",
      .single (.sets <$> .list (.list Expr.reader))⟩,
     ⟨"cube", .single (.cube <$> .list Expr.reader)⟩,
     ⟨"rollup", .single (.rollup <$> .list Expr.reader)⟩]

end Grouping

------------------------------------------------------------
-- Relations
------------------------------------------------------------

namespace Relation

def toJson : Relation → Json
  | .empty => .string "none"
  | .table base => .tagged "table" base.toJson
  | .rename name source =>
      .tagged "rename" <| .object
        [("name", .string name), ("relation", source.toJson)]
  | .projection selectList source =>
      .tagged "projection" <| .object
        [("select_list", .list (selectList.map Expr.toJson)),
         ("relation", source.toJson)]
  | .selection predicate source =>
      .tagged "selection" <| .object
        [("predicate", predicate.toJson),
         ("relation", source.toJson)]
  | .join kind left right predicate =>
      .tagged "join" <| .object
        [("join_type", kind.toJson),
         ("left", left.toJson),
         ("right", right.toJson),
         ("predicate", .optional Expr.toJson predicate)]
  | .group keys aggregates source =>
      .tagged "group" <| .object
        [("group", .list (keys.map Grouping.toJson)),
         ("aggregates", .list (aggregates.map Expr.toJson)),
         ("relation", source.toJson)]
  | .error cause inside =>
      .tagged "error" <| .object
        [("error", cause.toJson), ("relation", inside.toJson)]

/-
  The variants of relations, given the reader of their
  sources.
-/
def variants
    (inner : Reader Relation) : List (Json.Variant Relation) :=
  [⟨"none", .nothing .empty⟩,
   ⟨"table", .single (.table <$> Table.reader)⟩,
   ⟨"rename", .record <|
    (fun (name, source, _) => .rename name source) <$>
      .record "struct variant Relation::Rename"
        (.cons (.required "name" .string) <|
         .cons (.required "relation" inner)
         .nil)⟩,
   ⟨"projection", .record <|
    (fun (selectList, source, _) =>
        .projection selectList source) <$>
      .record "struct variant Relation::Projection"
        (.cons (.required "select_list" (.list Expr.reader)) <|
         .cons (.withDefault "relation" inner .empty)
         .nil)⟩,
   ⟨"selection", .record <|
    (fun (predicate, source, _) =>
        .selection predicate source) <$>
      .record "struct variant Relation::Selection"
        (.cons (.required "predicate" Expr.reader) <|
         .cons (.required "relation" inner)
         .nil)⟩,
   ⟨"join", .record <|
    (fun (kind, left, right, predicate, _) =>
        .join kind left right predicate) <$>
      .record "struct variant Relation::Join"
        (.cons (.withDefault "join_type" JoinKind.reader .inner) <|
         .cons (.required "left" inner) <|
         .cons (.required "right" inner) <|
         .cons (.withDefault "predicate" (.optional Expr.reader) none)
         .nil)⟩,
   ⟨"group", .record <|
    (fun (keys, aggregates, source, _) =>
        .group keys aggregates source) <$>
      .record "struct variant Relation::Group"
        (.cons (.required "group" (.list Grouping.reader)) <|
         .cons (.withDefault "aggregates" (.list Expr.reader) []) <|
         .cons (.required "relation" inner)
         .nil)⟩,
   ⟨"error", .record <|
    (fun (cause, inside, _) => .error cause inside) <$>
      .record "struct variant Relation::Error"
        (.cons (.required "error" BindingError.reader) <|
         .cons (.required "relation" inner)
         .nil)⟩]

/-
  The reader of relations of at most `levels` levels, as for
  expressions.
-/
def readWithin : Nat → Reader Relation
  | 0 => .fail .nestingTooDeep
  | levels + 1 => .variant (variants (readWithin levels))

/- The reader of relations. -/
def reader : Reader Relation :=
  readWithin (Json.nestingLimit + 1)

end Relation

end SqlCompiler
