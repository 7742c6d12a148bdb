import SqlCompiler.Document
import SqlCompiler.Proofs.Json.Fields

/-
  This file reads trees back from the JSON that was written
  for them.  Readers and writers are separate definitions; the
  statements hold them together, variant by variant and field
  by field.

  Key theorems include:
    * `Expr.reads_toJson`
    * `Relation.reads_toJson`
    * `Document.reads_toJson`
    * `Document.read_undoes_write`
-/

namespace SqlCompiler

open Json (Slots)
open Json.Reader

------------------------------------------------------------
-- Parts of Trees
------------------------------------------------------------

namespace Json.Reader

variable {α β : Type}

/- A variant with content is read behind its name. -/
theorem reads_tagged
    {variants : List (Variant α)}
    [RegularVariants variants]
    {name : String}
    {payload : Payload α}
    {content : Json}
    {a : α}
    (hChosen : chosen variants name = .ok payload)
    (hContent : Reads payload.content content a) :
    Reads (variant variants) (.tagged name content) a :=
  (means_variant variants).complete
    ⟨name, payload, hChosen, Or.inr ⟨content, rfl, hContent⟩⟩

theorem reads_bare
    {variants : List (Variant α)}
    [RegularVariants variants]
    {name : String}
    {a : α}
    (hChosen : chosen variants name = .ok (.nothing a)) :
    Reads (variant variants) (.string name) a :=
  (means_variant variants).complete
    ⟨name, .nothing a, hChosen, Or.inl ⟨rfl, rfl⟩⟩

theorem reads_map
    {reader : Reader α}
    [Regular reader]
    {value : Json}
    {a : α}
    {f : α → β}
    (hReads : Reads reader value a) :
    Reads (f <$> reader) value (f a) :=
  (means_map f).complete ⟨a, hReads, rfl⟩

theorem reads_string
    (value : String) :
    Reads string (.string value) value :=
  means_string.complete rfl

/- A record is read from its fields in their order. -/
theorem reads_fields
    {αs : List Type}
    {label : String}
    {slots : Slots αs}
    [RegularSlots slots]
    {f : Row αs → α}
    {members : List (String × Json)}
    {a : α}
    (row : Row αs)
    (hResult : f row = a)
    (hNames : slots.names.Nodup)
    (hWrites : slots.Writes members row) :
    Reads (f <$> record label slots) (.object members) a :=
  (means_map f).complete
    ⟨row, reads_record_of_writes hNames hWrites, hResult⟩

/- A list is read if all of its items are. -/
theorem reads_list_map
    {reader : Reader α}
    [Regular reader]
    {encode : α → Json}
    {items : List α}
    (hItems : ∀ item ∈ items, Reads reader (encode item) item) :
    Reads (list reader) (.list (items.map encode)) items := by
  apply (means_list reader).complete
  refine ⟨items.map encode, rfl, ?_⟩
  rw [List.forall₂_map_left_iff]
  exact List.forall₂_same.2 hItems

/- A value can be told from its absence unless it is null. -/
theorem reads_optional
    {reader : Reader α}
    [Regular reader]
    {encode : α → Json}
    {item : Option α}
    (hNull : ∀ a ∈ item, encode a ≠ .null)
    (hReads : ∀ a ∈ item, Reads reader (encode a) a) :
    Reads (optional reader) (.optional encode item) item := by
  apply (means_optional reader).complete
  cases item with
  | none => exact Or.inl ⟨rfl, rfl⟩
  | some a =>
      exact Or.inr ⟨hNull a rfl, a, hReads a rfl, rfl⟩

end Json.Reader

/- The content of a variant has a level less to itself. -/
theorem exists_level
    {name : String}
    {content : Json}
    {levels : Nat}
    (hLevels : (Json.tagged name content).nesting < levels) :
    ∃ inner, levels = inner + 1 ∧ content.nesting < inner := by
  rw [Json.nesting_tagged] at hLevels
  exact ⟨levels - 1, by omega, by omega⟩

theorem exists_level_object
    {name : String}
    {members : List (String × Json)}
    {levels : Nat}
    (hLevels :
      (Json.tagged name (.object members)).nesting < levels) :
    ∃ inner,
      levels = inner + 1 ∧
        ∀ field value,
          (field, value) ∈ members → value.nesting < inner := by
  rcases exists_level hLevels with ⟨inner, hEq, hObject⟩
  exact ⟨inner, hEq, fun _ _ hMem =>
    Nat.lt_trans (Json.nesting_lt_object hMem) hObject⟩

namespace BindingError

instance : Regular reader := by
  unfold reader
  infer_instance

theorem reads_toJson
    (cause : BindingError) :
    Reads reader cause.toJson cause := by
  cases cause with
  | unknownAttribute name =>
      exact reads_tagged rfl (reads_map (reads_string name))
  | ambiguousAttribute name =>
      exact reads_tagged rfl (reads_map (reads_string name))
  | unknownRelation name =>
      exact reads_tagged rfl (reads_map (reads_string name))
  | other message =>
      exact reads_tagged rfl (reads_map (reads_string message))

end BindingError

namespace Table

instance : Regular reader := by
  unfold reader
  infer_instance

theorem reads_toJson
    (table : Table) :
    Reads reader table.toJson table := by
  have hColumns :
      Reads (list string) (.list (table.columns.map .string))
        table.columns :=
    reads_list_map fun column _ => reads_string column
  exact reads_fields (table.name, table.columns, ()) rfl (by simp)
    ⟨rfl, reads_string table.name, rfl, hColumns, rfl⟩

end Table

namespace Literal

instance : Regular reader := by
  unfold reader
  infer_instance

theorem reads_toJson
    (literal : Literal) :
    Reads reader literal.toJson literal := by
  cases literal with
  | null => exact reads_bare rfl
  | integer value =>
      exact reads_tagged rfl (reads_map (reads_int64 value))
  | string value =>
      exact reads_tagged rfl (reads_map (reads_string value))
  | boolean value =>
      exact reads_tagged rfl (reads_map (means_boolean.complete rfl))

end Literal

namespace Attribute

instance : Regular reader := by
  unfold reader
  infer_instance

theorem reads_toJson
    (target : Attribute) :
    Reads reader target.toJson target := by
  have hText :
      ∀ item : Option String,
        Reads (optional string) (.optional .string item) item :=
    fun item =>
      reads_optional (fun _ _ => nofun) fun text _ => reads_string text
  have hError :
      Reads (optional BindingError.reader)
        (.optional BindingError.toJson target.error) target.error :=
    reads_optional
      (fun cause _ => by cases cause <;> exact nofun)
      fun cause _ => cause.reads_toJson
  exact reads_fields (target.qualifier, target.name, target.error, ())
    rfl (by simp)
    ⟨rfl, hText target.qualifier, rfl, hText target.name, rfl, hError,
      rfl⟩

end Attribute

------------------------------------------------------------
-- Expressions
------------------------------------------------------------

namespace Expr

instance
    (inner : Json.Reader Expr)
    [Regular inner] :
    RegularVariants (variants inner) := by
  unfold variants
  infer_instance

instance
    (levels : Nat) :
    Regular (readWithin levels) := by
  induction levels with
  | zero => exact ⟨fun hOk => by cases hOk⟩
  | succ levels ih =>
      rw [readWithin]
      infer_instance

instance : Regular reader := by
  unfold reader
  infer_instance

theorem toJson_ne_null
    (expr : Expr) :
    expr.toJson ≠ .null := by
  cases expr <;> exact nofun

/-
  Every level writes a bracket around the next one, so there
  are enough levels if there are more than brackets.
-/
theorem reads_readWithin
    (expr : Expr)
    {levels : Nat}
    (hLevels : expr.toJson.nesting < levels) :
    Reads (readWithin levels) expr.toJson expr := by
  induction expr using inductionOnArgs generalizing levels with
  | literal value =>
      rcases exists_level hLevels with ⟨inner, rfl, -⟩
      exact reads_tagged rfl (reads_map value.reads_toJson)
  | binary op left right hLeft hRight =>
      rcases exists_level_object hLevels with ⟨inner, rfl, hInner⟩
      have hLeft := hLeft (hInner "left" left.toJson (by simp))
      have hRight := hRight (hInner "right" right.toJson (by simp))
      refine reads_tagged rfl ?_
      exact reads_fields (op, left, right, ()) rfl (by simp)
          ⟨rfl, reads_string op, rfl, hLeft, rfl, hRight, rfl⟩
  | unary op operand hOperand =>
      rcases exists_level_object hLevels with ⟨inner, rfl, hInner⟩
      have hOperand :=
        hOperand (hInner "operand" operand.toJson (by simp))
      refine reads_tagged rfl ?_
      exact reads_fields (op, operand, ()) rfl (by simp)
          ⟨rfl, reads_string op, rfl, hOperand, rfl⟩
  | call name args hArgs =>
      rw [toJson, listToJson_eq_map] at hLevels ⊢
      rcases exists_level_object hLevels with ⟨inner, rfl, hInner⟩
      have hList := hInner "args" (.list (args.map toJson)) (by simp)
      have hArgs :
          Reads (list (readWithin inner)) (.list (args.map toJson))
            args :=
        reads_list_map fun arg hMem =>
          hArgs arg hMem <|
            Nat.lt_trans (Json.nesting_lt_list (List.mem_map_of_mem hMem))
              hList
      refine reads_tagged rfl ?_
      exact reads_fields (name, args, ()) rfl (by simp)
          ⟨rfl, reads_string name, rfl, hArgs, rfl⟩
  | column name table =>
      rcases exists_level hLevels with ⟨inner, rfl, -⟩
      refine reads_tagged rfl ?_
      exact reads_fields (name, table, ()) rfl (by simp)
          ⟨rfl, reads_string name, rfl, table.reads_toJson, rfl⟩
  | reference target =>
      rcases exists_level hLevels with ⟨inner, rfl, -⟩
      exact reads_tagged rfl (reads_map target.reads_toJson)
  | aliased name expr hExpr =>
      rcases exists_level_object hLevels with ⟨inner, rfl, hInner⟩
      have hExpr := hExpr (hInner "expr" expr.toJson (by simp))
      refine reads_tagged rfl ?_
      exact reads_fields (name, expr, ()) rfl (by simp)
          ⟨rfl, reads_string name, rfl, hExpr, rfl⟩
  | parameter name =>
      rcases exists_level hLevels with ⟨inner, rfl, -⟩
      exact reads_tagged rfl (reads_map (reads_string name))
  | error cause =>
      rcases exists_level hLevels with ⟨inner, rfl, -⟩
      exact reads_tagged rfl (reads_map cause.reads_toJson)

theorem reads_toJson
    (expr : Expr)
    (hNesting : expr.toJson.nesting ≤ Json.nestingLimit) :
    Reads reader expr.toJson expr :=
  expr.reads_readWithin (Nat.lt_succ_of_le hNesting)

/- Expressions in a list nest less than the list. -/
theorem reads_list_toJson
    {exprs : List Expr}
    (hNesting :
      (Json.list (exprs.map toJson)).nesting ≤ Json.nestingLimit) :
    Reads (list reader) (.list (exprs.map toJson)) exprs :=
  reads_list_map fun expr hMem =>
    expr.reads_toJson
      (Json.nesting_le_of_list hNesting (List.mem_map_of_mem hMem))

end Expr

------------------------------------------------------------
-- Relations
------------------------------------------------------------

namespace JoinKind

instance : Regular reader := by
  unfold reader
  infer_instance

theorem reads_toJson
    (kind : JoinKind) :
    Reads reader kind.toJson kind := by
  cases kind <;> exact reads_bare rfl

end JoinKind

namespace Grouping

instance : Regular reader := by
  unfold reader
  infer_instance

theorem reads_toJson
    {grouping : Grouping}
    (hNesting : grouping.toJson.nesting ≤ Json.nestingLimit) :
    Reads reader grouping.toJson grouping := by
  cases grouping with
  | key expr =>
      have hExpr := Json.nesting_le_of_tagged hNesting
      exact reads_tagged rfl (reads_map (expr.reads_toJson hExpr))
  | sets lists =>
      have hLists := Json.nesting_le_of_tagged hNesting
      refine reads_tagged rfl (reads_map (reads_list_map ?_))
      intro set hMem
      exact Expr.reads_list_toJson
        (Json.nesting_le_of_list hLists (List.mem_map_of_mem hMem))
  | cube exprs =>
      have hExprs := Json.nesting_le_of_tagged hNesting
      exact reads_tagged rfl (reads_map (Expr.reads_list_toJson hExprs))
  | rollup exprs =>
      have hExprs := Json.nesting_le_of_tagged hNesting
      exact reads_tagged rfl (reads_map (Expr.reads_list_toJson hExprs))

theorem reads_list_toJson
    {groupings : List Grouping}
    (hNesting :
      (Json.list (groupings.map toJson)).nesting ≤ Json.nestingLimit) :
    Reads (list reader) (.list (groupings.map toJson)) groupings :=
  reads_list_map fun _ hMem =>
    reads_toJson
      (Json.nesting_le_of_list hNesting (List.mem_map_of_mem hMem))

end Grouping

namespace Relation

instance
    (inner : Json.Reader Relation)
    [Regular inner] :
    RegularVariants (variants inner) := by
  unfold variants
  infer_instance

instance
    (levels : Nat) :
    Regular (readWithin levels) := by
  induction levels with
  | zero => exact ⟨fun hOk => by cases hOk⟩
  | succ levels ih =>
      rw [readWithin]
      infer_instance

instance : Regular reader := by
  unfold reader
  infer_instance

/-
  Relations are read as expressions are.  The expressions in
  them are read with all levels that there are.
-/
theorem reads_readWithin
    (relation : Relation)
    {levels : Nat}
    (hLevels : relation.toJson.nesting < levels)
    (hLimit : levels ≤ Json.nestingLimit + 1) :
    Reads (readWithin levels) relation.toJson relation := by
  induction relation generalizing levels with
  | empty =>
      cases levels with
      | zero => cases hLevels
      | succ inner => exact reads_bare rfl
  | table base =>
      rcases exists_level hLevels with ⟨inner, rfl, -⟩
      exact reads_tagged rfl (reads_map base.reads_toJson)
  | rename name source hSource =>
      rcases exists_level_object hLevels with ⟨inner, rfl, hInner⟩
      have hSource := hSource
        (hInner "relation" source.toJson (by simp)) (by omega)
      refine reads_tagged rfl ?_
      exact reads_fields (name, source, ()) rfl (by simp)
        ⟨rfl, reads_string name, rfl, hSource, rfl⟩
  | projection selectList source hSource =>
      rcases exists_level_object hLevels with ⟨inner, rfl, hInner⟩
      have hSource := hSource
        (hInner "relation" source.toJson (by simp)) (by omega)
      have hList :=
        hInner "select_list" (.list (selectList.map Expr.toJson))
          (by simp)
      refine reads_tagged rfl ?_
      exact reads_fields (selectList, source, ()) rfl (by simp)
        ⟨rfl, Expr.reads_list_toJson (by omega), rfl, hSource, rfl⟩
  | selection predicate source hSource =>
      rcases exists_level_object hLevels with ⟨inner, rfl, hInner⟩
      have hSource := hSource
        (hInner "relation" source.toJson (by simp)) (by omega)
      have hPredicate :=
        hInner "predicate" predicate.toJson (by simp)
      refine reads_tagged rfl ?_
      exact reads_fields (predicate, source, ()) rfl (by simp)
        ⟨rfl, predicate.reads_toJson (by omega), rfl, hSource, rfl⟩
  | join kind left right predicate hLeft hRight =>
      rcases exists_level_object hLevels with ⟨inner, rfl, hInner⟩
      have hLeft := hLeft
        (hInner "left" left.toJson (by simp)) (by omega)
      have hRight := hRight
        (hInner "right" right.toJson (by simp)) (by omega)
      have hNesting :=
        hInner "predicate" (.optional Expr.toJson predicate) (by simp)
      have hPredicate :
          Reads (optional Expr.reader)
            (.optional Expr.toJson predicate) predicate := by
        apply reads_optional
        · exact fun expr _ => expr.toJson_ne_null
        · rintro expr rfl
          rw [Json.optional] at hNesting
          exact expr.reads_toJson (by omega)
      refine reads_tagged rfl ?_
      exact reads_fields (kind, left, right, predicate, ()) rfl (by simp)
        ⟨rfl, kind.reads_toJson, rfl, hLeft, rfl, hRight, rfl,
          hPredicate, rfl⟩
  | group keys aggregates source hSource =>
      rcases exists_level_object hLevels with ⟨inner, rfl, hInner⟩
      have hSource := hSource
        (hInner "relation" source.toJson (by simp)) (by omega)
      have hKeys :=
        hInner "group" (.list (keys.map Grouping.toJson)) (by simp)
      have hAggregates :=
        hInner "aggregates" (.list (aggregates.map Expr.toJson))
          (by simp)
      refine reads_tagged rfl ?_
      exact reads_fields (keys, aggregates, source, ()) rfl (by simp)
        ⟨rfl, Grouping.reads_list_toJson (by omega), rfl,
          Expr.reads_list_toJson (by omega), rfl, hSource, rfl⟩
  | error cause inside hInside =>
      rcases exists_level_object hLevels with ⟨inner, rfl, hInner⟩
      have hInside := hInside
        (hInner "relation" inside.toJson (by simp)) (by omega)
      refine reads_tagged rfl ?_
      exact reads_fields (cause, inside, ()) rfl (by simp)
        ⟨rfl, cause.reads_toJson, rfl, hInside, rfl⟩

theorem reads_toJson
    (relation : Relation)
    (hNesting : relation.toJson.nesting ≤ Json.nestingLimit) :
    Reads reader relation.toJson relation :=
  relation.reads_readWithin (Nat.lt_succ_of_le hNesting) (Nat.le_refl _)

end Relation

------------------------------------------------------------
-- Documents
------------------------------------------------------------

namespace Document

instance : Regular reader := by
  unfold reader
  infer_instance

theorem reads_toJson
    (document : Document)
    (hNesting : document.toJson.nesting ≤ Json.nestingLimit) :
    Reads reader document.toJson document := by
  cases document with
  | relation tree =>
      have hTree := Json.nesting_le_of_tagged hNesting
      exact reads_tagged rfl (reads_map (tree.reads_toJson hTree))
  | expression tree =>
      have hTree := Json.nesting_le_of_tagged hNesting
      exact reads_tagged rfl (reads_map (tree.reads_toJson hTree))

end Document

------------------------------------------------------------
-- Texts of Trees
------------------------------------------------------------

theorem BindingError.wellFormed_toJson
    (cause : BindingError) :
    cause.toJson.WellFormed := by
  cases cause <;> simp [toJson]

theorem Table.wellFormed_toJson
    (table : Table) :
    table.toJson.WellFormed := by
  simp [toJson]

theorem Literal.wellFormed_toJson
    (literal : Literal) :
    literal.toJson.WellFormed := by
  cases literal <;> simp [toJson]

theorem Json.wellFormed_optional
    {α : Type}
    {encode : α → Json}
    (hEncode : ∀ a, (encode a).WellFormed)
    (item : Option α) :
    (Json.optional encode item).WellFormed := by
  cases item with
  | none => exact .null
  | some a => exact hEncode a

theorem Attribute.wellFormed_toJson
    (target : Attribute) :
    target.toJson.WellFormed := by
  simp [toJson, Json.wellFormed_optional,
    BindingError.wellFormed_toJson]

theorem Expr.wellFormed_toJson
    (expr : Expr) :
    expr.toJson.WellFormed := by
  induction expr using inductionOnArgs with
  | literal value => simp [toJson, Literal.wellFormed_toJson]
  | binary op left right hLeft hRight => simp [toJson, hLeft, hRight]
  | unary op operand hOperand => simp [toJson, hOperand]
  | call name args hArgs =>
      simpa [toJson, listToJson_eq_map] using hArgs
  | column name table => simp [toJson, Table.wellFormed_toJson]
  | reference target => simp [toJson, Attribute.wellFormed_toJson]
  | aliased name expr hExpr => simp [toJson, hExpr]
  | parameter name => simp [toJson]
  | error cause => simp [toJson, BindingError.wellFormed_toJson]

theorem Grouping.wellFormed_toJson
    (grouping : Grouping) :
    grouping.toJson.WellFormed := by
  cases grouping <;> simp [toJson, Expr.wellFormed_toJson]

theorem Relation.wellFormed_toJson
    (relation : Relation) :
    relation.toJson.WellFormed := by
  induction relation with
  | empty => simp [toJson]
  | table base => simp [toJson, Table.wellFormed_toJson]
  | rename name source hSource => simp [toJson, hSource]
  | projection selectList source hSource =>
      simp [toJson, hSource, Expr.wellFormed_toJson]
  | selection predicate source hSource =>
      simp [toJson, hSource, Expr.wellFormed_toJson]
  | join kind left right predicate hLeft hRight =>
      have hKind : kind.toJson.WellFormed := by
        cases kind <;> exact .string _
      simp [toJson, hKind, hLeft, hRight, Json.wellFormed_optional,
        Expr.wellFormed_toJson]
  | group keys aggregates source hSource =>
      simp [toJson, hSource, Expr.wellFormed_toJson,
        Grouping.wellFormed_toJson]
  | error cause inside hInside =>
      simp [toJson, hInside, BindingError.wellFormed_toJson]

namespace Document

theorem wellFormed_toJson
    (document : Document) :
    document.toJson.WellFormed := by
  cases document with
  | relation tree => simp [toJson, Relation.wellFormed_toJson]
  | expression tree => simp [toJson, Expr.wellFormed_toJson]

theorem toList_compact_tagged
    (name : String)
    (content : Json) :
    (Json.tagged name content).compact.toList =
      '\x7b' :: (Json.stringText name ++ ':' :: content.compact.toList ++
        ['\x7d']) := by
  simp [Json.tagged, Json.compact, Json.text, Json.membersText]

/- A document wraps the text of its tree. -/
theorem compact_relation
    (tree : Relation) :
    (Document.relation tree).toJson.compact =
      "\x7b\"relation\":" ++ tree.toJson.compact ++ "\x7d" := by
  rw [← String.toList_inj, toJson, toList_compact_tagged,
    String.toList_append, String.toList_append]
  rfl

theorem compact_expression
    (tree : Expr) :
    (Document.expression tree).toJson.compact =
      "\x7b\"expression\":" ++ tree.toJson.compact ++ "\x7d" := by
  rw [← String.toList_inj, toJson, toList_compact_tagged,
    String.toList_append, String.toList_append]
  rfl

theorem parse_compact_toJson
    (document : Document)
    (hNesting : document.toJson.nesting ≤ Json.nestingLimit) :
    parse document.toJson.compact = .ok document :=
  Json.read_compact_of_reads document.wellFormed_toJson hNesting
    (document.reads_toJson hNesting)

/-
  Every tree is read back from the text that was written for
  it, by itself and as a document, as long as the brackets do
  not nest too deeply.
-/
theorem read_undoes_write :
    (∀ expr : Expr,
      expr.toJson.nesting ≤ Json.nestingLimit →
        Json.read Expr.reader expr.toJson.compact = .ok expr ∧
          (expr.toJson.nesting < Json.nestingLimit →
            parse
                ("\x7b\"expression\":" ++ expr.toJson.compact ++
                  "\x7d") =
              .ok (.expression expr))) ∧
      ∀ relation : Relation,
        relation.toJson.nesting ≤ Json.nestingLimit →
          Json.read Relation.reader relation.toJson.compact =
              .ok relation ∧
            (relation.toJson.nesting < Json.nestingLimit →
              parse
                  ("\x7b\"relation\":" ++ relation.toJson.compact ++
                    "\x7d") =
                .ok (.relation relation)) := by
  constructor
  · intro expr hNesting
    refine ⟨?_, fun hRoom => ?_⟩
    · exact Json.read_compact_of_reads expr.wellFormed_toJson hNesting
        (expr.reads_toJson hNesting)
    · rw [← compact_expression]
      apply parse_compact_toJson
      rw [toJson, Json.nesting_tagged]
      exact hRoom
  · intro relation hNesting
    refine ⟨?_, fun hRoom => ?_⟩
    · exact Json.read_compact_of_reads relation.wellFormed_toJson
        hNesting (relation.reads_toJson hNesting)
    · rw [← compact_relation]
      apply parse_compact_toJson
      rw [toJson, Json.nesting_tagged]
      exact hRoom

/- A join without a predicate, over a table with odd names. -/
theorem read_undoes_write_join :
    let table : Relation := .table ⟨"a \"b\"\n\x01é", ["x", ""]⟩
    let predicate : Expr :=
      .binary "=" (.reference (.failed (.other "\\")))
        (.call "f" [.literal (.integer (-9223372036854775808))])
    let tree : Relation :=
      .selection predicate (.join .leftOuter table .empty none)
    Json.read Expr.reader predicate.toJson.compact = .ok predicate ∧
      parse ("\x7b\"relation\":" ++ tree.toJson.compact ++ "\x7d") =
        .ok (.relation tree) :=
  ⟨(read_undoes_write.1 _ (by decide)).1,
    (read_undoes_write.2 _ (by decide)).2 (by decide)⟩

end Document

end SqlCompiler
