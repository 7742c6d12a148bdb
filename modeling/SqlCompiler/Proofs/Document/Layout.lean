import SqlCompiler.Proofs.Document.RoundTrip
import SqlCompiler.Proofs.Json.Layout

/-
  This file says where the records are in the JSON of trees
  and what their fields and defaults are.  It follows that the
  tree that is read does not depend on the layout of its JSON.

  Key definitions include:
    * `TreeKind`
    * `TreeKind.shape`
    * `Expr.shape`
    * `Relation.shape`
    * `Document.shape`

  Key theorems include:
    * `Expr.agrees_readWithin`
    * `Relation.agrees_readWithin`
    * `Document.read_ignores_layout`
-/

namespace SqlCompiler

open Json (Shape)
open Json.Reader

------------------------------------------------------------
-- Shapes of Trees
------------------------------------------------------------

/- The kinds of trees that contain others of their kind. -/
inductive TreeKind where
  | expr
  | relation

def Table.shape : Shape TreeKind :=
  .record
    [⟨"name", .none, .plain⟩,
     ⟨"columns", .emptyList, .plain⟩]

def Attribute.shape : Shape TreeKind :=
  .record
    [⟨"qualifier", .null, .plain⟩,
     ⟨"name", .null, .plain⟩,
     ⟨"error", .null, .plain⟩]

def Expr.shape : Shape TreeKind :=
  .variants
    [("literal", .plain),
     ("binary", .record
      [⟨"op", .none, .plain⟩,
       ⟨"left", .none, .named .expr⟩,
       ⟨"right", .none, .named .expr⟩]),
     ("unary", .record
      [⟨"op", .none, .plain⟩,
       ⟨"operand", .none, .named .expr⟩]),
     ("function", .record
      [⟨"name", .none, .plain⟩,
       ⟨"args", .emptyList, .list (.named .expr)⟩]),
     ("column", .record
      [⟨"name", .none, .plain⟩,
       ⟨"table", .none, Table.shape⟩]),
     ("attribute", Attribute.shape),
     ("alias", .record
      [⟨"name", .none, .plain⟩,
       ⟨"expr", .none, .named .expr⟩]),
     ("parameter", .plain),
     ("error", .plain)]

def Grouping.shape : Shape TreeKind :=
  .variants
    [("expr", .named .expr),
     ("grouping_sets", .list (.list (.named .expr))),
     ("cube", .list (.named .expr)),
     ("rollup", .list (.named .expr))]

def Relation.shape : Shape TreeKind :=
  .variants
    [("none", .plain),
     ("table", Table.shape),
     ("rename", .record
      [⟨"name", .none, .plain⟩,
       ⟨"relation", .none, .named .relation⟩]),
     ("projection", .record
      [⟨"select_list", .none, .list (.named .expr)⟩,
       ⟨"relation", .bare "none", .named .relation⟩]),
     ("selection", .record
      [⟨"predicate", .none, .named .expr⟩,
       ⟨"relation", .none, .named .relation⟩]),
     ("join", .record
      [⟨"join_type", .bare "inner", .plain⟩,
       ⟨"left", .none, .named .relation⟩,
       ⟨"right", .none, .named .relation⟩,
       ⟨"predicate", .null, .optional (.named .expr)⟩]),
     ("group", .record
      [⟨"group", .none, .list Grouping.shape⟩,
       ⟨"aggregates", .emptyList, .list (.named .expr)⟩,
       ⟨"relation", .none, .named .relation⟩]),
     ("error", .record
      [⟨"error", .none, .plain⟩,
       ⟨"relation", .none, .named .relation⟩])]

def TreeKind.shape : TreeKind → Shape TreeKind
  | .expr => Expr.shape
  | .relation => Relation.shape

def Document.shape : Shape TreeKind :=
  .variants
    [("relation", .named .relation),
     ("expression", .named .expr)]

------------------------------------------------------------
-- Readers of Trees
------------------------------------------------------------

variable {depth : Nat}

theorem Table.agrees_reader :
    Agrees TreeKind.shape depth Table.shape reader reader :=
  agrees_map
    (agrees_record (by decide) <|
      .cons (.required (agrees_plain _)) <|
      .cons (.withDefault_of_reads (agrees_plain _)
        (reads_emptyList _) (reads_emptyList _))
      .nil)
    _

theorem Attribute.agrees_reader :
    Agrees TreeKind.shape depth Attribute.shape reader reader :=
  agrees_map
    (agrees_record (by decide) <|
      .cons (.withDefault_of_reads (agrees_plain _)
        (reads_null _) (reads_null _)) <|
      .cons (.withDefault_of_reads (agrees_plain _)
        (reads_null _) (reads_null _)) <|
      .cons (.withDefault_of_reads (agrees_plain _)
        (reads_null _) (reads_null _))
      .nil)
    _

namespace Expr

theorem agrees_variants
    {inner : Json.Reader Expr}
    [Regular inner]
    (hInner : Agrees TreeKind.shape depth (.named .expr) inner inner) :
    Agrees TreeKind.shape (depth + 1) shape
      (variant (variants inner)) (variant (variants inner)) := by
  refine agrees_variant <|
    .cons ?literal <| .cons ?binary <| .cons ?unary <| .cons ?call <|
    .cons ?column <| .cons ?reference <| .cons ?aliased <|
    .cons ?parameter <| .cons ?error .nil
  case literal => exact .single (agrees_plain _)
  case binary =>
    exact .fields (by decide) <|
      .cons (.required (agrees_plain _)) <|
      .cons (.required hInner) <|
      .cons (.required hInner) .nil
  case unary =>
    exact .fields (by decide) <|
      .cons (.required (agrees_plain _)) <|
      .cons (.required hInner) .nil
  case call =>
    exact .fields (by decide) <|
      .cons (.required (agrees_plain _)) <|
      .cons (.withDefault_of_reads (agrees_list hInner)
        (reads_emptyList _) (reads_emptyList _)) .nil
  case column =>
    exact .fields (by decide) <|
      .cons (.required (agrees_plain _)) <|
      .cons (.required Table.agrees_reader) .nil
  case reference =>
    exact .single (agrees_map Attribute.agrees_reader _)
  case aliased =>
    exact .fields (by decide) <|
      .cons (.required (agrees_plain _)) <|
      .cons (.required hInner) .nil
  case parameter => exact .single (agrees_plain _)
  case error => exact .single (agrees_plain _)

/-
  No edit makes an expression deeper, so the levels that were
  enough before are enough at any depth.
-/
theorem agrees_readWithin
    (levels : Nat)
    {depth : Nat} :
    Agrees TreeKind.shape depth (.named .expr) (readWithin levels)
      (readWithin levels) := by
  induction levels generalizing depth with
  | zero => exact agrees_fail _ _
  | succ levels ih =>
      cases depth with
      | zero => exact agrees_zero _ _
      | succ depth => exact agrees_named (agrees_variants ih)

theorem agrees_reader :
    Agrees TreeKind.shape depth (.named .expr) reader reader :=
  agrees_readWithin (Json.nestingLimit + 1)

end Expr

theorem Grouping.agrees_reader :
    Agrees TreeKind.shape depth Grouping.shape reader reader := by
  cases depth with
  | zero => exact agrees_zero _ _
  | succ depth =>
      have hExprs :
          Agrees TreeKind.shape depth (.list (.named .expr))
            (list Expr.reader) (list Expr.reader) :=
        agrees_list Expr.agrees_reader
      exact agrees_variant <|
        .cons (.single (agrees_map Expr.agrees_reader _)) <|
        .cons (.single (agrees_map (agrees_list hExprs) _)) <|
        .cons (.single (agrees_map hExprs _)) <|
        .cons (.single (agrees_map hExprs _)) .nil

namespace Relation

theorem agrees_variants
    {inner inner' : Json.Reader Relation}
    [Regular inner]
    [Regular inner']
    (hInner :
      Agrees TreeKind.shape depth (.named .relation) inner inner')
    (hDrop :
      ∀ written ∈ (Json.Default.bare "none").values,
        ∀ relation, Reads inner written relation → relation = .empty)
    (hAdd :
      ∀ written ∈ (Json.Default.bare "none").values,
        written.nesting < depth → Reads inner' written .empty) :
    Agrees TreeKind.shape (depth + 1) shape
      (variant (variants inner)) (variant (variants inner')) := by
  have hExprs :
      Agrees TreeKind.shape depth (.list (.named .expr))
        (list Expr.reader) (list Expr.reader) :=
    agrees_list Expr.agrees_reader
  refine agrees_variant <|
    .cons ?empty <| .cons ?table <| .cons ?rename <|
    .cons ?projection <| .cons ?selection <| .cons ?join <|
    .cons ?group <| .cons ?error .nil
  case empty => exact .nothing _
  case table => exact .single (agrees_map Table.agrees_reader _)
  case rename =>
    exact .fields (by decide) <|
      .cons (.required (agrees_plain _)) <|
      .cons (.required hInner) .nil
  case projection =>
    exact .fields (by decide) <|
      .cons (.required hExprs) <|
      .cons (.withDefault hInner hDrop hAdd) .nil
  case selection =>
    exact .fields (by decide) <|
      .cons (.required Expr.agrees_reader) <|
      .cons (.required hInner) .nil
  case join =>
    exact .fields (by decide) <|
      .cons (.withDefault_of_reads (agrees_plain _)
        (reads_bare_values rfl) (reads_bare_values rfl)) <|
      .cons (.required hInner) <|
      .cons (.required hInner) <|
      .cons (.withDefault_of_reads
        (agrees_optional Expr.agrees_reader)
        (reads_null _) (reads_null _)) .nil
  case group =>
    exact .fields (by decide) <|
      .cons (.required (agrees_list Grouping.agrees_reader)) <|
      .cons (.withDefault_of_reads hExprs
        (reads_emptyList _) (reads_emptyList _)) <|
      .cons (.required hInner) .nil
  case error =>
    exact .fields (by decide) <|
      .cons (.required (agrees_plain _)) <|
      .cons (.required hInner) .nil

/-
  A missing source that is written out makes a relation one
  level deeper.  Since it is no deeper than its brackets, there
  is a level left for it.
-/
theorem agrees_readWithin
    (levels levels' : Nat) :
    Agrees TreeKind.shape levels' (.named .relation)
      (readWithin levels) (readWithin levels') := by
  induction levels generalizing levels' with
  | zero => exact agrees_fail _ _
  | succ levels ih =>
      cases levels' with
      | zero => exact agrees_zero _ _
      | succ levels' =>
          refine agrees_named (agrees_variants (ih levels') ?_ ?_)
          · intro written hWritten relation hReads
            cases levels with
            | zero => exact absurd hReads not_reads_fail
            | succ levels =>
                exact hReads.unique
                  (reads_bare_values rfl written hWritten)
          · intro written hWritten hNesting
            cases levels' with
            | zero => cases hNesting
            | succ levels' =>
                exact reads_bare_values rfl written hWritten

end Relation

namespace Document

/- The reader of documents with a limit on their relations. -/
def readWithin
    (levels : Nat) : Json.Reader Document :=
  .variant
    [⟨"relation", .single (.relation <$> Relation.readWithin levels)⟩,
     ⟨"expression", .single (.expression <$> Expr.reader)⟩]

theorem agrees_readWithin
    (levels levels' : Nat) :
    Agrees TreeKind.shape levels' shape (readWithin levels)
      (readWithin levels') := by
  cases levels' with
  | zero => exact agrees_zero _ _
  | succ levels' =>
      have hRelation :=
        (Relation.agrees_readWithin levels (levels' + 1)).mono
          (Nat.le_succ levels')
      exact agrees_variant <|
        .cons (.single (agrees_map hRelation _)) <|
        .cons (.single (agrees_map Expr.agrees_reader _)) .nil

instance
    (levels : Nat) :
    Regular (readWithin levels) := by
  unfold readWithin
  infer_instance

/-
  What a text is read as does not depend on its layout: any
  number of edits, at any depth, leave the result as it was.
-/
theorem read_ignores_layout
    {value value' : Json}
    (hValue : value.WellFormed)
    (hNesting : value'.nesting ≤ Json.nestingLimit) :
    (∀ expr : Expr,
      Json.Edits TreeKind.shape (.named .expr) value value' →
        Json.read Expr.reader value.compact = .ok expr →
          Json.read Expr.reader value'.compact = .ok expr) ∧
      (∀ relation : Relation,
        Json.Edits TreeKind.shape (.named .relation) value value' →
          Json.read Relation.reader value.compact = .ok relation →
            Json.read Relation.reader value'.compact = .ok relation) ∧
      ∀ document : Document,
        Json.Edits TreeKind.shape shape value value' →
          parse value.compact = .ok document →
            parse value'.compact = .ok document := by
  refine ⟨?_, ?_, ?_⟩
  · intro expr hEdits hRead
    exact Json.read_compact_of_edits (fun _ => Expr.reader)
      (fun _ _ => Expr.agrees_reader) hEdits hValue hNesting hRead
  · intro relation hEdits hRead
    exact Json.read_compact_of_edits Relation.readWithin
      Relation.agrees_readWithin hEdits hValue hNesting hRead
  · intro document hEdits hRead
    exact Json.read_compact_of_edits readWithin agrees_readWithin
      hEdits hValue hNesting hRead

/-
  A call becomes a list, a missing source is left out, and an
  unknown member goes in front.
-/
theorem read_ignores_layout_projection :
    parse
        (Json.tagged "relation" (.tagged "projection" (.object
          [("note", .list [.null]),
           ("select_list", .list
             [.tagged "function"
               (.list [.string "f", .list []])])]))).compact =
      .ok (.relation (.projection [.call "f" []] .empty)) := by
  have hRead := parse_compact_toJson
    (.relation (.projection [.call "f" []] .empty)) (by decide)
  refine (read_ignores_layout (wellFormed_toJson _) (by decide)).2.2 _
    ?_ hRead
  refine .head (.content rfl (.named (.content rfl
    (.member List.mem_cons_self [] _ (.item [] [] (.named (.content rfl
      (.line rfl)))))))) ?_
  refine .head (.content rfl (.named (.content rfl
    (.drop (List.mem_cons_of_mem _ List.mem_cons_self)
      List.mem_cons_self [_] [])))) ?_
  exact .single (.content rfl (.named (.content rfl
    (.insert (by decide) (by simp) [] _))))

end Document

end SqlCompiler
