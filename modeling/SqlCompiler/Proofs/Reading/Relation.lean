import SqlCompiler.Proofs.Reading.Query

/-
  This file shows that flat queries can be read back from
  their texts: joins with predicates, nested in any way, with
  an optional filter and an optional select list.  Since they
  can be read back, no two of them share a text, except for
  symbols that the dialect writes alike.

  Key definitions include:
    * `Expr.Readable`
    * `Reading.ReadsThrough`
    * `Relation.Joined`
    * `Relation.Flat`
    * `Relation.spelled`

  Key theorems include:
    * `Relation.Joined.readsThrough_render`
    * `Relation.Flat.query?_render`
    * `Relation.Joined.render_ne_of_regrouped`
    * `Relation.Flat.compile_unambiguous`
-/

namespace SqlCompiler

------------------------------------------------------------
-- Expressions inside of Queries
------------------------------------------------------------

namespace Expr

open Reading (pieces punctuation)

/- A plain expression that keeps its grouping when read. -/
structure Readable
    (dialect : Dialect)
    (expr : Expr) : Prop where
  plain : expr.Plain dialect
  tight : expr.rightTight dialect = true

variable {builtIn : Dialect.BuiltIn} {expr : Expr}

/- Neither keywords nor commas occur in expressions. -/
theorem Plain.isInner_of_mem
    (hPlain : expr.Plain builtIn.dialect) :
    ∀ piece ∈ pieces punctuation
        (expr.render builtIn.dialect).toList,
      Reading.IsInner piece := by
  have hLegible := Reading.legible_punctuation builtIn
  induction hPlain with
  | leaf hLeaf =>
      have hWord := hLeaf.isLeafWord_render builtIn.dialect
      rw [hWord.pieces_eq hLegible]
      intro piece hMem
      rw [List.mem_singleton.1 hMem]
      exact Reading.isInner_word hWord.operandChar
  | @binary op operator left right hOp _ _ hLeft hRight =>
      intro piece hMem
      rw [Plain.pieces_binary hOp] at hMem
      rcases List.mem_append.1 hMem with hBefore | hOthers
      · split at hBefore
        · rw [Plain.pieces_parenthesized hLegible] at hBefore
          rcases List.mem_cons.1 hBefore with rfl | hInside
          · decide
          · rcases List.mem_append.1 hInside with hGroup | hClosing
            · exact hLeft piece hGroup
            · rw [List.mem_singleton.1 hClosing]
              decide
        · exact hLeft piece hBefore
      · rcases List.mem_append.1 hOthers with hSymbol | hAfter
        · exact Reading.isInner_operator builtIn operator
            (builtIn.mem_operators hOp) piece hSymbol
        · exact hRight piece hAfter

namespace Readable

theorem exprOfPieces?_eq
    (hReadable : expr.Readable builtIn.dialect) :
    Reading.exprOfPieces? builtIn.operators
        (pieces punctuation (expr.render builtIn.dialect).toList) =
      some (expr.spelled builtIn.dialect) := by
  rw [hReadable.plain.exprOfPieces?_render
      (Reading.legible_punctuation builtIn)
      (fun _ _ hOp => builtIn.mem_operators hOp),
    hReadable.plain.tree_exposed_of_rightTight hReadable.tight]

/- The pieces of an expression belong to the clause before. -/
theorem clauses_append
    (hReadable : expr.Readable builtIn.dialect)
    (others : List Reading.Piece) :
    Reading.clauses
        (pieces punctuation (expr.render builtIn.dialect).toList ++
          others) =
      ⟨pieces punctuation (expr.render builtIn.dialect).toList ++
          (Reading.clauses others).lead,
        (Reading.clauses others).rest⟩ :=
  Reading.clauses_append
    (fun piece hMem => (hReadable.plain.isInner_of_mem piece hMem).1)
    others

/- A keyword and an expression make a clause. -/
theorem clauses_keyword
    (hReadable : expr.Readable builtIn.dialect)
    (keyword : Reading.Keyword)
    {others : List Reading.Piece}
    (hOthers : (Reading.clauses others).lead = []) :
    Reading.clauses
        (pieces punctuation keyword.word.toList ++
          (pieces punctuation
              (expr.render builtIn.dialect).toList ++
            others)) =
      ⟨[],
        (keyword,
          pieces punctuation
            (expr.render builtIn.dialect).toList) ::
          (Reading.clauses others).rest⟩ := by
  rw [Reading.clauses_word, hReadable.clauses_append, hOthers,
    List.append_nil]

end Readable

/- A select list has no keywords. -/
theorem keyword?_of_mem_renderAll
    {selectList : List Expr}
    (hReadable :
      ∀ expr ∈ selectList, expr.Readable builtIn.dialect) :
    ∀ piece ∈ pieces punctuation
        (renderAll builtIn.dialect selectList).toList,
      Reading.keyword? piece = none := by
  rw [renderAll, Reading.pieces_intercalate, List.map_map]
  apply Reading.keyword?_of_mem_intercalate
  intro run hRun piece hMem
  rcases List.mem_map.1 hRun with ⟨expr, hExpr, rfl⟩
  exact ((hReadable expr hExpr).plain.isInner_of_mem piece hMem).1

theorem mapM_exprOfPieces?
    {selectList : List Expr}
    (hReadable :
      ∀ expr ∈ selectList, expr.Readable builtIn.dialect) :
    (selectList.map fun expr =>
        pieces punctuation (expr.render builtIn.dialect).toList).mapM
          (Reading.exprOfPieces? builtIn.operators) =
      some (selectList.map (spelled builtIn.dialect)) := by
  induction selectList with
  | nil => rfl
  | cons expr rest ih =>
      have hHead :=
        (hReadable expr List.mem_cons_self).exprOfPieces?_eq
      have hRest := ih fun other hMem =>
        hReadable other (List.mem_cons_of_mem _ hMem)
      simp [hHead, hRest]

/- A select list is read expression by expression. -/
theorem exprs?_renderAll
    {selectList : List Expr}
    (hNonempty : selectList ≠ [])
    (hReadable :
      ∀ expr ∈ selectList, expr.Readable builtIn.dialect) :
    Reading.exprs? builtIn.operators
        (pieces punctuation
          (renderAll builtIn.dialect selectList).toList) =
      some (selectList.map (spelled builtIn.dialect)) := by
  have hNoComma :
      ∀ run ∈ selectList.map
          (fun expr => pieces punctuation
            (expr.render builtIn.dialect).toList),
        Reading.Piece.mark ',' ∉ run := by
    intro run hRun hComma
    rcases List.mem_map.1 hRun with ⟨expr, hMem, rfl⟩
    exact ((hReadable expr hMem).plain.isInner_of_mem _ hComma).2 rfl
  rw [renderAll, Reading.pieces_intercalate, Reading.exprs?,
    List.map_map]
  simp only [Function.comp_def]
  rw [List.splitOn_intercalate _ hNoComma (by simpa using hNonempty)]
  exact mapM_exprOfPieces? hReadable

end Expr

------------------------------------------------------------
-- Reading through Joins
------------------------------------------------------------

namespace Reading

/-
  Reading the pieces of a relation starts at a table and leads
  to that relation, whichever joins are open and whatever
  clauses come behind.
-/
def ReadsThrough
    (operators : List Operator)
    (text : List Piece)
    (relation : Relation) : Prop :=
  ∀ rest : List Piece,
    (clauses rest).lead = [] →
      ∃ name,
        (clauses (text ++ rest)).lead = [.word name] ∧
          ∀ opened,
            joined? operators opened (tableOf name)
                (clauses (text ++ rest)).rest =
              joined? operators opened relation (clauses rest).rest

variable {operators : List Operator}

theorem clauses_name
    {name : String}
    (hName : isName name.toList = true)
    {rest : List Piece}
    (hRest : (clauses rest).lead = []) :
    clauses (pieces punctuation name.toList ++ rest) =
      ⟨[.word name.toList], (clauses rest).rest⟩ := by
  have hInner :
      ∀ piece ∈ [Piece.word name.toList], keyword? piece = none := by
    intro piece hMem
    rw [List.mem_singleton.1 hMem]
    exact (isInner_word (exists_operandChar_of_isName hName)).1
  rw [pieces_name hName, clauses_append hInner, hRest,
    List.append_nil]

theorem readsThrough_table
    {name : String}
    (hName : isName name.toList = true) :
    ReadsThrough operators (pieces punctuation name.toList)
      (.table ⟨name, []⟩) := by
  intro rest hRest
  refine ⟨name.toList, ?_, ?_⟩
  · rw [clauses_name hName hRest]
  · intro opened
    rw [clauses_name hName hRest, tableOf, String.ofList_toList]

theorem ReadsThrough.rename
    {text : List Piece}
    {source : Relation}
    {name : String}
    (hSource : ReadsThrough operators text source)
    (hName : isName name.toList = true) :
    ReadsThrough operators
      (text ++
        (pieces punctuation Keyword.rename.word.toList ++
          pieces punctuation name.toList))
      (.rename name source) := by
  intro rest hRest
  have hClauses :
      clauses
          (pieces punctuation Keyword.rename.word.toList ++
            (pieces punctuation name.toList ++ rest)) =
        ⟨[], (.rename, [.word name.toList]) ::
          (clauses rest).rest⟩ := by
    rw [clauses_word, clauses_name hName hRest]
  rcases hSource _ (congrArg Clauses.lead hClauses) with
    ⟨first, hLead, hRead⟩
  rw [List.append_assoc, List.append_assoc]
  refine ⟨first, hLead, ?_⟩
  intro opened
  rw [hRead, hClauses, joined?, String.ofList_toList]

/-
  The right side is read with the join open, and its predicate
  closes the join again.
-/
theorem ReadsThrough.join
    {builtIn : Dialect.BuiltIn}
    {leftText rightText : List Piece}
    {left right : Relation}
    {predicate : Expr}
    (hLeft : ReadsThrough builtIn.operators leftText left)
    (hRight : ReadsThrough builtIn.operators rightText right)
    (hPredicate : predicate.Readable builtIn.dialect)
    (kind : JoinKind) :
    ReadsThrough builtIn.operators
      (leftText ++
        (pieces punctuation kind.keyword.toList ++
          (rightText ++
            (pieces punctuation Keyword.on.word.toList ++
              pieces punctuation
                (predicate.render builtIn.dialect).toList))))
      (.join kind left right
        (some (predicate.spelled builtIn.dialect))) := by
  intro rest hRest
  have hOn := hPredicate.clauses_keyword .on hRest
  rcases hRight _ (congrArg Clauses.lead hOn) with
    ⟨next, hNext, hReadRight⟩
  rcases hLeft _ (lead_kind kind _) with
    ⟨first, hLead, hReadLeft⟩
  simp only [List.append_assoc]
  refine ⟨first, hLead, ?_⟩
  intro opened
  rw [hReadLeft, joined?_kind _ _ _ kind hNext, hReadRight, hOn]
  simp [joined?, hPredicate.exprOfPieces?_eq]

end Reading

------------------------------------------------------------
-- Flat Queries
------------------------------------------------------------

namespace Relation

/-
  Tables and renamed tables, and joins of them with predicates
  on every join, nested in any way.
-/
inductive Joined
    (dialect : Dialect) : Relation → Prop
  | table
      {name : String}
      (hName : Reading.isName name.toList = true) :
      Joined dialect (.table ⟨name, []⟩)
  | rename
      {name base : String}
      (hName : Reading.isName name.toList = true)
      (hBase : Reading.isName base.toList = true) :
      Joined dialect (.rename name (.table ⟨base, []⟩))
  | join
      (kind : JoinKind)
      {left right : Relation}
      {predicate : Expr}
      (hLeft : Joined dialect left)
      (hRight : Joined dialect right)
      (hPredicate : predicate.Readable dialect) :
      Joined dialect (.join kind left right (some predicate))

/- Joins, perhaps with a filter. -/
inductive Filtered
    (dialect : Dialect) : Relation → Prop
  | joined
      {source : Relation}
      (hSource : source.Joined dialect) :
      Filtered dialect source
  | selection
      {predicate : Expr}
      {source : Relation}
      (hPredicate : predicate.Readable dialect)
      (hSource : source.Joined dialect) :
      Filtered dialect (.selection predicate source)

/- Joins, perhaps with a filter, perhaps with a select list. -/
inductive Flat
    (dialect : Dialect) : Relation → Prop
  | filtered
      {source : Relation}
      (hSource : source.Filtered dialect) :
      Flat dialect source
  | projection
      {selectList : List Expr}
      {source : Relation}
      (hNonempty : selectList ≠ [])
      (hReadable : ∀ expr ∈ selectList, expr.Readable dialect)
      (hSource : source.Filtered dialect) :
      Flat dialect (.projection selectList source)

/-
  The relation with binary operators replaced by how the
  dialect writes them.
-/
def spelled
    (dialect : Dialect) : Relation → Relation
  | .rename name source => .rename name (source.spelled dialect)
  | .projection selectList source =>
      .projection (selectList.map (Expr.spelled dialect))
        (source.spelled dialect)
  | .selection predicate source =>
      .selection (predicate.spelled dialect) (source.spelled dialect)
  | .join kind left right predicate =>
      .join kind (left.spelled dialect) (right.spelled dialect)
        (predicate.map (Expr.spelled dialect))
  | relation => relation

variable {builtIn : Dialect.BuiltIn} {relation : Relation}

/- Joins are read back with their grouping. -/
theorem Joined.readsThrough_render
    (hJoined : relation.Joined builtIn.dialect) :
    Reading.ReadsThrough builtIn.operators
      (Reading.pieces Reading.punctuation
        (relation.render builtIn.dialect).toList)
      (relation.spelled builtIn.dialect) := by
  induction hJoined with
  | table hName => exact Reading.readsThrough_table hName
  | rename hName hBase =>
      rw [render, show " AS " =
          " " ++ Reading.Keyword.rename.word ++ " " by decide,
        Reading.pieces_spaced]
      exact (Reading.readsThrough_table hBase).rename hName
  | @join kind left right predicate _ _ hPredicate hLeft hRight =>
      have hText :
          (Relation.join kind left right (some predicate)).render
              builtIn.dialect =
            left.render builtIn.dialect ++
              (" " ++ kind.keyword ++ " ") ++
              (right.render builtIn.dialect ++
                (" " ++ Reading.Keyword.on.word ++ " ") ++
                predicate.render builtIn.dialect) := by
        simp [render, String.append_assoc, Reading.Keyword.word]
      rw [hText, Reading.pieces_spaced, Reading.pieces_spaced]
      exact hLeft.join hRight hPredicate kind

namespace Filtered

/- The clauses of a query without a select list are read back. -/
theorem filtered?_render
    (hFiltered : relation.Filtered builtIn.dialect) :
    Reading.filtered? builtIn.operators
        (Reading.clauses
          (Reading.pieces Reading.punctuation
            (relation.render builtIn.dialect).toList))
      = some (relation.spelled builtIn.dialect) := by
  cases hFiltered with
  | joined hSource =>
      rcases hSource.readsThrough_render [] rfl with
        ⟨first, hLead, hRead⟩
      rw [List.append_nil] at hLead hRead
      rw [Reading.filtered?, hLead]
      exact hRead []
  | @selection predicate source hPredicate hSource =>
      have hFilter := hPredicate.clauses_keyword .filter
        (show (Reading.clauses []).lead = [] from rfl)
      rw [List.append_nil] at hFilter
      rcases hSource.readsThrough_render _
          (congrArg Reading.Clauses.lead hFilter) with
        ⟨first, hLead, hRead⟩
      rw [render, show " WHERE " =
          " " ++ Reading.Keyword.filter.word ++ " " by decide,
        Reading.pieces_spaced, Reading.filtered?, hLead]
      dsimp only
      rw [hRead, hFilter]
      simp [Reading.clauses, Reading.joined?, spelled,
        hPredicate.exprOfPieces?_eq]

theorem ne_empty
    {dialect : Dialect}
    (hFiltered : relation.Filtered dialect) :
    relation ≠ .empty := by
  rintro rfl
  cases hFiltered with
  | joined hSource => cases hSource

end Filtered

namespace Flat

/- Flat queries are read back. -/
theorem query?_render
    (hFlat : relation.Flat builtIn.dialect) :
    Reading.query? builtIn.operators
        (relation.render builtIn.dialect) =
      some (relation.spelled builtIn.dialect) := by
  cases hFlat with
  | filtered hSource =>
      exact Reading.queryOfClauses?_of_filtered?
        hSource.filtered?_render
  | @projection selectList source hNonempty hReadable hSource =>
      have hText :
          (Relation.projection selectList source).render
              builtIn.dialect =
            Reading.Keyword.select.word ++ " " ++
              (Expr.renderAll builtIn.dialect selectList ++
                (" " ++ Reading.Keyword.source.word ++ " ") ++
                source.render builtIn.dialect) := by
        rw [render_projection _ _ hSource.ne_empty]
        simp [String.append_assoc, Reading.Keyword.word]
      rw [Reading.query?, hText, Reading.pieces_before,
        Reading.pieces_spaced, Reading.clauses_word,
        Reading.clauses_append
          (Expr.keyword?_of_mem_renderAll hReadable),
        Reading.clauses_word, List.append_nil]
      simp only [Reading.queryOfClauses?,
        Expr.exprs?_renderAll hNonempty hReadable]
      rw [hSource.filtered?_render]
      rfl

end Flat

------------------------------------------------------------
-- Unambiguous Texts
------------------------------------------------------------

section Faults

variable {dialect : Dialect}

theorem Joined.faults_eq
    (hJoined : relation.Joined dialect) :
    relation.faults dialect = [] := by
  induction hJoined with
  | table _ => rfl
  | rename _ _ => rfl
  | join _ _ _ hPredicate hLeft hRight =>
      simp [faults, hLeft, hRight, hPredicate.plain.faults_eq]

theorem Filtered.faults_eq
    (hFiltered : relation.Filtered dialect) :
    relation.faults dialect = [] := by
  cases hFiltered with
  | joined hSource => exact hSource.faults_eq
  | selection hPredicate hSource =>
      simp [faults, hSource.faults_eq, hPredicate.plain.faults_eq]

theorem Flat.faults_eq
    (hFlat : relation.Flat dialect) :
    relation.faults dialect = [] := by
  cases hFlat with
  | filtered hSource => exact hSource.faults_eq
  | @projection selectList _ _ hReadable hSource =>
      have hList :
          ∀ expr ∈ selectList, expr.faults dialect = [] :=
        fun expr hMem => (hReadable expr hMem).plain.faults_eq
      rw [faults_projection _ _ hSource.ne_empty, hSource.faults_eq,
        List.append_nil, Expr.faultsOfEach_eq_flatMap,
        List.flatMap_eq_nil_iff]
      exact hList

theorem Flat.compile_eq
    (hFlat : relation.Flat dialect) :
    relation.compile dialect = .text (relation.render dialect) := by
  rw [compile_eq_settle, hFlat.faults_eq]
  rfl

end Faults

/- Regrouping two joins changes the text of a query. -/
theorem Joined.render_ne_of_regrouped
    {first second third : Relation}
    {inner outer : Expr}
    (hFirst : first.Joined builtIn.dialect)
    (hSecond : second.Joined builtIn.dialect)
    (hThird : third.Joined builtIn.dialect)
    (hInner : inner.Readable builtIn.dialect)
    (hOuter : outer.Readable builtIn.dialect)
    (kind other : JoinKind) :
    (Relation.join other (.join kind first second (some inner)) third
        (some outer)).render builtIn.dialect ≠
      (Relation.join kind first
        (.join other second third (some outer))
        (some inner)).render builtIn.dialect := by
  intro hSame
  have hLeft : Flat builtIn.dialect _ :=
    .filtered (.joined
      (.join other (.join kind hFirst hSecond hInner) hThird hOuter))
  have hRight : Flat builtIn.dialect _ :=
    .filtered (.joined
      (.join kind hFirst (.join other hSecond hThird hOuter) hInner))
  have hRead := hLeft.query?_render
  rw [hSame, hRight.query?_render] at hRead
  have hSelf := congrArg sizeOf
    (Relation.join.inj (Option.some.inj hRead)).2.1
  simp only [spelled, Relation.join.sizeOf_spec] at hSelf
  omega

/-
  Flat queries compile, and no two of them to the same text,
  unless they differ only in symbols that the dialect writes
  alike.
-/
theorem Flat.compile_unambiguous
    (builtIn : Dialect.BuiltIn)
    (first second : Relation)
    (hFirst : first.Flat builtIn.dialect)
    (hSecond : second.Flat builtIn.dialect) :
    ∃ firstSql secondSql,
      first.compile builtIn.dialect = .text firstSql ∧
        second.compile builtIn.dialect = .text secondSql ∧
        (firstSql = secondSql →
          first.spelled builtIn.dialect =
            second.spelled builtIn.dialect) := by
  refine ⟨first.render builtIn.dialect,
    second.render builtIn.dialect, hFirst.compile_eq,
    hSecond.compile_eq, ?_⟩
  intro hSame
  have hRead := hFirst.query?_render
  rw [hSame, hSecond.query?_render] at hRead
  exact (Option.some.inj hRead).symm

/-
  A query over joins nested to the left and the same query
  over joins nested to the right have different texts.
-/
theorem Flat.compile_unambiguous_at_nestings :
    let builtIn : Dialect.BuiltIn := .postgres
    let column (table name : String) : Expr :=
      .reference (.qualified table name)
    let accounts : Relation := .rename "a" (.table ⟨"accounts", []⟩)
    let orders : Relation := .table ⟨"orders", []⟩
    let items : Relation := .table ⟨"items", []⟩
    let inner : Expr := .binary "=" (column "a" "id") (column "b" "id")
    let outer : Expr := .binary "<" (column "b" "id") (column "c" "id")
    let query (source : Relation) : Relation :=
      .projection [column "a" "id", .literal (.integer (-1))]
        (.selection (.binary "or" inner outer) source)
    let leftNested : Relation :=
      query (.join .leftOuter (.join .inner accounts orders (some inner))
        items (some outer))
    let rightNested : Relation :=
      query (.join .inner accounts
        (.join .leftOuter orders items (some outer)) (some inner))
    ∃ leftSql rightSql,
      leftNested.compile builtIn.dialect = .text leftSql ∧
        rightNested.compile builtIn.dialect = .text rightSql ∧
        leftSql ≠ rightSql := by
  intro builtIn column accounts orders items inner outer query
    leftNested rightNested
  have hColumn :
      ∀ table name : String,
        Reading.isName table.toList = true →
          Reading.isName name.toList = true →
          (column table name).Plain builtIn.dialect :=
    fun _ _ hTable hName => .leaf (.qualified hTable hName)
  have hInner : inner.Readable builtIn.dialect :=
    ⟨.binary rfl (hColumn "a" "id" rfl rfl) (hColumn "b" "id" rfl rfl),
      by decide⟩
  have hOuter : outer.Readable builtIn.dialect :=
    ⟨.binary rfl (hColumn "b" "id" rfl rfl) (hColumn "c" "id" rfl rfl),
      by decide⟩
  have hAccounts : accounts.Joined builtIn.dialect := .rename rfl rfl
  have hOrders : orders.Joined builtIn.dialect := .table rfl
  have hItems : items.Joined builtIn.dialect := .table rfl
  have hQuery :
      ∀ source : Relation,
        source.Joined builtIn.dialect →
          (query source).Flat builtIn.dialect := by
    intro source hSource
    refine .projection (by simp) ?_
      (.selection ⟨.binary rfl hInner.plain hOuter.plain, by decide⟩
        hSource)
    intro expr hMem
    rcases List.mem_cons.1 hMem with rfl | hLast
    · exact ⟨hColumn "a" "id" rfl rfl, rfl⟩
    · rw [List.mem_singleton.1 hLast]
      exact ⟨.leaf (.integer (-1)), rfl⟩
  rcases Flat.compile_unambiguous builtIn leftNested rightNested
      (hQuery _ (.join _ (.join _ hAccounts hOrders hInner) hItems
        hOuter))
      (hQuery _ (.join _ hAccounts (.join _ hOrders hItems hOuter)
        hInner)) with
    ⟨leftSql, rightSql, hLeft, hRight, hOnly⟩
  refine ⟨leftSql, rightSql, hLeft, hRight, ?_⟩
  intro hSame
  have hSpelled := hOnly hSame
  simp [leftNested, rightNested, query, spelled] at hSpelled

end Relation

end SqlCompiler
