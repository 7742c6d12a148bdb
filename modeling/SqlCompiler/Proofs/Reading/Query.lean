import SqlCompiler.Proofs.Reading.Expr

/-
  This file reads queries back from SQL text: joins with
  predicates, with an optional filter and an optional select
  list.  The pieces of a text are cut into clauses in front of
  the keywords, and the clauses are read one after another.

  No parentheses are written around joins, and none are
  needed.  Every join word is followed by its `ON`, so that
  the two pair up like parentheses do, and the grouping of the
  joins is recovered with a stack of open joins.

  Key definitions include:
    * `Reading.Keyword`
    * `Reading.clauses`
    * `Reading.joined?`
    * `Reading.query?`

  Key theorems include:
    * `Reading.pieces_intercalate`
    * `Reading.clauses_word`
    * `Reading.joined?_kind`
-/

namespace SqlCompiler

------------------------------------------------------------
-- Clauses
------------------------------------------------------------

namespace Reading

/- The marks of queries. -/
def punctuation : List Char :=
  ['(', ')', ',']

/- The words that structure a query. -/
inductive Keyword where
  | select
  | source
  | rename
  | join
  | left
  | right
  | full
  | outer
  | on
  | filter
deriving DecidableEq, Repr

namespace Keyword

def word : Keyword → String
  | .select => "SELECT"
  | .source => "FROM"
  | .rename => "AS"
  | .join => "JOIN"
  | .left => "LEFT"
  | .right => "RIGHT"
  | .full => "FULL"
  | .outer => "OUTER"
  | .on => "ON"
  | .filter => "WHERE"

def all : List Keyword :=
  [.select, .source, .rename, .join, .left, .right, .full, .outer,
   .on, .filter]

/- The outer join that begins with a keyword. -/
def outerKind? : Keyword → Option JoinKind
  | .left => some .leftOuter
  | .right => some .rightOuter
  | .full => some .fullOuter
  | _ => none

end Keyword

def keyword? : Piece → Option Keyword
  | .word letters =>
      Keyword.all.find? fun keyword => keyword.word.toList == letters
  | .mark _ => none

/- A keyword with the pieces up to the next one. -/
abbrev Clause :=
  Keyword × List Piece

/- Pieces before the first keyword, and the clauses after them. -/
structure Clauses where
  lead : List Piece
  rest : List Clause
deriving DecidableEq

/- Cut pieces in front of their keywords. -/
def clauses : List Piece → Clauses
  | [] => ⟨[], []⟩
  | piece :: others =>
      let after := clauses others
      match keyword? piece with
      | some keyword => ⟨[], (keyword, after.lead) :: after.rest⟩
      | none => ⟨piece :: after.lead, after.rest⟩

theorem clauses_keyword
    {piece : Piece}
    {keyword : Keyword}
    (hKeyword : keyword? piece = some keyword)
    (others : List Piece) :
    clauses (piece :: others) =
      ⟨[], (keyword, (clauses others).lead) ::
        (clauses others).rest⟩ := by
  simp [clauses, hKeyword]

/- Pieces that are no keywords belong to the clause before. -/
theorem clauses_append
    {run : List Piece}
    (hRun : ∀ piece ∈ run, keyword? piece = none)
    (others : List Piece) :
    clauses (run ++ others) =
      ⟨run ++ (clauses others).lead, (clauses others).rest⟩ := by
  induction run with
  | nil => rfl
  | cons piece rest ih =>
      have hRest :
          ∀ other ∈ rest, keyword? other = none := by
        intro other hMem
        exact hRun other (List.mem_cons_of_mem _ hMem)
      simp [clauses, hRun piece List.mem_cons_self, ih hRest]

------------------------------------------------------------
-- Reading Queries
------------------------------------------------------------

/- The table of a name. -/
def tableOf
    (name : List Char) : Relation :=
  .table ⟨String.ofList name, []⟩

/-
  Read on behind a relation.  A join word opens a join, whose
  right side comes next; the next predicate belongs to the
  join that was opened last.
-/
def joined?
    (operators : List Operator)
    (opened : List (Relation × JoinKind))
    (relation : Relation) : List Clause → Option Relation
  | [] => if opened.isEmpty then some relation else none
  | (.rename, [.word name]) :: rest =>
      joined? operators opened
        (.rename (String.ofList name) relation) rest
  | (.join, [.word name]) :: rest =>
      joined? operators ((relation, .inner) :: opened)
        (tableOf name) rest
  | (.on, predicate) :: rest =>
      match opened, exprOfPieces? operators predicate with
      | (left, kind) :: opened, some predicate =>
          joined? operators opened
            (.join kind left relation (some predicate)) rest
      | _, _ => none
  | [(.filter, predicate)] =>
      match opened, exprOfPieces? operators predicate with
      | [], some predicate => some (.selection predicate relation)
      | _, _ => none
  | (side, []) :: (.outer, []) :: (.join, [.word name]) :: rest =>
      match side.outerKind? with
      | some kind =>
          joined? operators ((relation, kind) :: opened)
            (tableOf name) rest
      | none => none
  | _ => none

/- Joins that begin with a table, perhaps with a filter. -/
def filtered?
    (operators : List Operator)
    (query : Clauses) : Option Relation :=
  match query.lead with
  | [.word name] => joined? operators [] (tableOf name) query.rest
  | _ => none

/- Expressions with commas between them. -/
def exprs?
    (operators : List Operator)
    (list : List Piece) : Option (List Expr) :=
  (list.splitOn (.mark ',')).mapM (exprOfPieces? operators)

def queryOfClauses?
    (operators : List Operator)
    (query : Clauses) : Option Relation :=
  match query with
  | ⟨[], (.select, list) :: (.source, lead) :: rest⟩ =>
      match exprs? operators list, filtered? operators ⟨lead, rest⟩ with
      | some selectList, some source =>
          some (.projection selectList source)
      | _, _ => none
  | _ => filtered? operators query

/- A query that begins with a table has no select list. -/
theorem queryOfClauses?_of_filtered?
    {operators : List Operator}
    {query : Clauses}
    {relation : Relation}
    (hQuery : filtered? operators query = some relation) :
    queryOfClauses? operators query = some relation := by
  rcases query with ⟨lead, rest⟩
  cases lead with
  | nil => cases hQuery
  | cons piece others => exact hQuery

/- The query that a text writes. -/
def query?
    (operators : List Operator)
    (text : String) : Option Relation :=
  queryOfClauses? operators
    (clauses (pieces punctuation text.toList))

------------------------------------------------------------
-- Pieces of Queries
------------------------------------------------------------

theorem legible_punctuation
    (builtIn : Dialect.BuiltIn) :
    Legible punctuation builtIn.operators where
  opening := by decide
  closing := by decide
  marks_apart := by simp [punctuation, isLeafChar, isOperandChar]
  spelled := by cases builtIn <;> decide
  operators_apart := (legible_builtIn builtIn).operators_apart
  unique := (legible_builtIn builtIn).unique

/- A piece inside of an expression: no keyword, no comma. -/
def IsInner
    (piece : Piece) : Prop :=
  keyword? piece = none ∧ piece ≠ .mark ','

instance
    (piece : Piece) :
    Decidable (IsInner piece) :=
  inferInstanceAs
    (Decidable (keyword? piece = none ∧ piece ≠ .mark ','))

theorem isInner_operator
    (builtIn : Dialect.BuiltIn) :
    ∀ operator ∈ builtIn.operators,
      ∀ piece ∈ pieces punctuation operator.text.toList,
        IsInner piece := by
  cases builtIn <;> decide

/- Keywords are written in capitals, unlike leaves and names. -/
theorem isInner_word
    {word : List Char}
    (hWord : ∃ c ∈ word, isOperandChar c = true) :
    IsInner (.word word) := by
  rcases hWord with ⟨c, hMem, hChar⟩
  refine ⟨?_, by simp⟩
  apply List.find?_eq_none.2
  intro keyword _ hSame
  have hEq : keyword.word.toList = word := by
    simpa using hSame
  have hCapitals :
      keyword.word.toList.all (!isOperandChar ·) = true := by
    cases keyword <;> decide
  have hApart := List.all_eq_true.1 hCapitals c (hEq ▸ hMem)
  simp [hChar] at hApart

theorem pieces_name
    {name : String}
    (hName : isName name.toList = true) :
    pieces punctuation name.toList = [.word name.toList] :=
  (isLeafWord_named hName).pieces_eq (legible_punctuation .generic)

theorem pieces_intercalate
    (texts : List String) :
    pieces punctuation (", ".intercalate texts).toList =
      [Piece.mark ','].intercalate
        (texts.map fun text => pieces punctuation text.toList) := by
  induction texts with
  | nil => rfl
  | cons text rest ih =>
      cases rest with
      | nil => simp
      | cons next rest =>
          have hText :
              (", ".intercalate (text :: next :: rest)).toList =
                text.toList ++ ',' ::
                  ([] ++ ' ' ::
                    (", ".intercalate (next :: rest)).toList) := by
            simp
          rw [hText, pieces_mark (by decide) (by decide),
            pieces_space, ih]
          simp [pieces, piecesFrom, finished]

/- Commas bring no keywords in. -/
theorem keyword?_of_mem_intercalate
    {runs : List (List Piece)}
    (hRuns : ∀ run ∈ runs, ∀ piece ∈ run, keyword? piece = none) :
    ∀ piece ∈ [Piece.mark ','].intercalate runs,
      keyword? piece = none := by
  induction runs with
  | nil =>
      intro piece hMem
      cases hMem
  | cons run rest ih =>
      have hRun := hRuns run List.mem_cons_self
      have hRest :=
        ih fun other hMem => hRuns other (List.mem_cons_of_mem _ hMem)
      cases rest with
      | nil => simpa using hRun
      | cons next rest =>
          intro piece hMem
          rw [List.intercalate_cons_cons, List.append_assoc] at hMem
          rcases List.mem_append.1 hMem with hBefore | hOthers
          · exact hRun piece hBefore
          · rcases List.mem_append.1 hOthers with hComma | hAfter
            · rw [List.mem_singleton.1 hComma]
              rfl
            · exact hRest piece hAfter

------------------------------------------------------------
-- Clauses of Queries
------------------------------------------------------------

/- A keyword starts a clause. -/
theorem clauses_word
    (keyword : Keyword)
    (others : List Piece) :
    clauses (pieces punctuation keyword.word.toList ++ others) =
      ⟨[], (keyword, (clauses others).lead) ::
        (clauses others).rest⟩ := by
  have hPieces :
      pieces punctuation keyword.word.toList =
        [.word keyword.word.toList] := by
    cases keyword <;> decide
  have hKeyword :
      keyword? (.word keyword.word.toList) = some keyword := by
    cases keyword <;> decide
  rw [hPieces, List.singleton_append, clauses_keyword hKeyword]

/- The words of an outer join are three clauses. -/
theorem clauses_outer
    (side : Keyword)
    {kind : JoinKind}
    (hSide : side.outerKind? = some kind)
    (others : List Piece) :
    clauses (pieces punctuation kind.keyword.toList ++ others) =
      ⟨[], (side, []) :: (.outer, []) ::
        (.join, (clauses others).lead) :: (clauses others).rest⟩ := by
  have hWords :
      kind.keyword =
        side.word ++ " " ++
          (Keyword.outer.word ++ " " ++ Keyword.join.word) := by
    cases side <;> cases hSide <;> decide
  rw [hWords, pieces_before, pieces_before, List.append_assoc,
    List.append_assoc, clauses_word, clauses_word, clauses_word]

theorem joined?_outer
    (operators : List Operator)
    (opened : List (Relation × JoinKind))
    (relation : Relation)
    {side : Keyword}
    {kind : JoinKind}
    (hSide : side.outerKind? = some kind)
    (name : List Char)
    (rest : List Clause) :
    joined? operators opened relation
        ((side, []) :: (.outer, []) ::
          (.join, [.word name]) :: rest) =
      joined? operators ((relation, kind) :: opened)
        (tableOf name) rest := by
  cases side <;> cases hSide <;> simp [joined?, Keyword.outerKind?]

/-
  Behind a relation and a join word, reading goes on with the
  right side of the join.
-/
theorem joined?_kind
    (operators : List Operator)
    (opened : List (Relation × JoinKind))
    (relation : Relation)
    (kind : JoinKind)
    {name : List Char}
    {next : List Piece}
    (hNext : (clauses next).lead = [.word name]) :
    joined? operators opened relation
        (clauses
          (pieces punctuation kind.keyword.toList ++ next)).rest =
      joined? operators ((relation, kind) :: opened)
        (tableOf name) (clauses next).rest := by
  have hOuter :
      ∀ side : Keyword,
        side.outerKind? = some kind →
          joined? operators opened relation
              (clauses
                (pieces punctuation kind.keyword.toList ++
                  next)).rest =
            joined? operators ((relation, kind) :: opened)
              (tableOf name) (clauses next).rest := by
    intro side hSide
    rw [clauses_outer side hSide, hNext]
    exact joined?_outer operators opened relation hSide name _
  cases kind with
  | inner =>
      rw [show JoinKind.inner.keyword = Keyword.join.word from rfl,
        clauses_word, hNext]
      simp [joined?]
  | leftOuter => exact hOuter .left rfl
  | rightOuter => exact hOuter .right rfl
  | fullOuter => exact hOuter .full rfl

/- A join word begins with a keyword. -/
theorem lead_kind
    (kind : JoinKind)
    (next : List Piece) :
    (clauses
      (pieces punctuation kind.keyword.toList ++ next)).lead = [] := by
  cases kind with
  | inner =>
      exact congrArg Clauses.lead (clauses_word .join next)
  | leftOuter =>
      exact congrArg Clauses.lead (clauses_outer .left rfl next)
  | rightOuter =>
      exact congrArg Clauses.lead (clauses_outer .right rfl next)
  | fullOuter =>
      exact congrArg Clauses.lead (clauses_outer .full rfl next)

end Reading

end SqlCompiler
