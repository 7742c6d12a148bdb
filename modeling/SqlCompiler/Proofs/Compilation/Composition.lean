import SqlCompiler.Proofs.Compilation.Passes
import SqlCompiler.Proofs.Dialect
import SqlCompiler.Proofs.Text.Integer
import SqlCompiler.Proofs.Text.Parentheses

/-
  This file says how compiled texts are put together.  They are
  made of string literals and plain texts, where parentheses come
  in pairs and something plain stands between any two parts, so
  that a literal is never followed by a quote.

  Which texts are plain is left open.  Names and operators have to
  be, and so has to be every text without quotes and parentheses.

  Key definitions include:
    * `MarkFree`
    * `PlainTexts`
    * `Composed`
    * `Expr.strings`
    * `Expr.names`
    * `Relation.strings`
    * `Relation.names`

  Key theorems include:
    * `Composed.intercalate`
    * `Expr.composed_render`
    * `Relation.composed_render`
    * `Document.composed_compile`
-/

namespace SqlCompiler

------------------------------------------------------------
-- Plain Texts
------------------------------------------------------------

/- A text without single quotes and parentheses. -/
def MarkFree
    (text : String) : Prop :=
  '\'' ∉ text.toList ∧ Text.ParenFree text.toList

instance
    (text : String) :
    Decidable (MarkFree text) :=
  inferInstanceAs
    (Decidable
      ('\'' ∉ text.toList ∧ '(' ∉ text.toList ∧ ')' ∉ text.toList))

/- A choice of texts that may be written anywhere. -/
class PlainTexts
    (plain : String → Prop) : Prop where
  append :
    ∀ {left right : String},
      plain left → plain right → plain (left ++ right)
  markFree : ∀ {text : String}, MarkFree text → plain text

instance : PlainTexts MarkFree where
  append := by
    intro left right hLeft hRight
    unfold MarkFree Text.ParenFree at *
    simp only [String.toList_append, List.mem_append, not_or]
    exact ⟨⟨hLeft.1, hRight.1⟩, ⟨hLeft.2.1, hRight.2.1⟩,
      ⟨hLeft.2.2, hRight.2.2⟩⟩
  markFree hText := hText

/- An operator between single spaces separates its operands. -/
theorem PlainTexts.spaced
    {plain : String → Prop}
    [PlainTexts plain]
    {text : String}
    (hText : plain text) :
    plain (" " ++ text ++ " ") := by
  have hSpace : plain " " := markFree (by decide)
  exact append (append hSpace hText) hSpace

theorem spaced_ne_empty
    (text : String) :
    " " ++ text ++ " " ≠ "" := by
  simp

------------------------------------------------------------
-- Composed Texts
------------------------------------------------------------

/-
  The texts that compilation puts together, with the values of
  their string literals.
-/
inductive Composed
    (plain : String → Prop) : String → List String → Prop
  | plain
      {text : String}
      (hText : plain text) :
      Composed plain text []
  | quote
      (value : String) :
      Composed plain (Literal.quote value) [value]
  | after
      {lead text : String}
      {values : List String}
      (hLead : plain lead)
      (hText : Composed plain text values) :
      Composed plain (lead ++ text) values
  | across
      {left between right : String}
      {leftValues rightValues : List String}
      (hLeft : Composed plain left leftValues)
      (hBetween : plain between)
      (hNonempty : between ≠ "")
      (hRight : Composed plain right rightValues) :
      Composed plain (left ++ between ++ right)
        (leftValues ++ rightValues)
  | parenthesized
      {text : String}
      {values : List String}
      (hText : Composed plain text values) :
      Composed plain ("(" ++ text ++ ")") values

namespace Composed

variable {plain : String → Prop} [PlainTexts plain]

theorem markFree
    {text : String}
    (hText : MarkFree text) :
    Composed plain text [] :=
  .plain (PlainTexts.markFree hText)

/- A name may follow another text. -/
theorem named
    {text name : String}
    {values : List String}
    (hText : Composed plain text values)
    (hName : plain name) :
    Composed plain (text ++ " AS " ++ name) values := by
  have hAs : plain " AS " := PlainTexts.markFree (by decide)
  have hBoth := hText.across hAs (by decide) (.plain hName)
  rwa [List.append_nil] at hBoth

/- Items with commas between them. -/
theorem intercalate
    {α : Type}
    {sql : α → String}
    {values : α → List String}
    {items : List α}
    (hItems :
      ∀ item ∈ items, Composed plain (sql item) (values item)) :
    Composed plain (", ".intercalate (items.map sql))
      (items.flatMap values) := by
  induction items with
  | nil => exact .markFree (show MarkFree "" by decide)
  | cons item rest ih =>
      have hItem := hItems item List.mem_cons_self
      have hRest :=
        ih fun other hMem => hItems other (List.mem_cons_of_mem _ hMem)
      cases rest with
      | nil => simpa using hItem
      | cons next rest =>
          have hComma : plain ", " := PlainTexts.markFree (by decide)
          simpa using hItem.across hComma (by decide) hRest

end Composed

------------------------------------------------------------
-- Strings and Names of Trees
------------------------------------------------------------

namespace Expr

mutual

/- The values of the string literals, in textual order. -/
def strings : Expr → List String
  | .literal (.string value) => [value]
  | .literal _ => []
  | .binary _ left right => left.strings ++ right.strings
  | .unary _ operand => operand.strings
  | .call _ args => stringsOfEach args
  | .alias _ expr => expr.strings
  | .column _ _ | .reference _ | .parameter _ | .error _ => []

def stringsOfEach : List Expr → List String
  | [] => []
  | expr :: rest => expr.strings ++ stringsOfEach rest

end

mutual

/- The names that an expression writes, operators apart. -/
def names : Expr → List String
  | .literal _ => []
  | .binary _ left right => left.names ++ right.names
  | .unary _ operand => operand.names
  | .call name args => name :: namesOfEach args
  | .column name table => [table.name, name]
  | .reference target => target.qualifier.toList ++ target.name.toList
  | .alias name expr => name :: expr.names
  | .parameter _ | .error _ => []

def namesOfEach : List Expr → List String
  | [] => []
  | expr :: rest => expr.names ++ namesOfEach rest

end

theorem stringsOfEach_eq_flatMap
    (exprs : List Expr) :
    stringsOfEach exprs = exprs.flatMap strings := by
  induction exprs with
  | nil => rfl
  | cons expr rest ih => simp [stringsOfEach, ih]

theorem namesOfEach_eq_flatMap
    (exprs : List Expr) :
    namesOfEach exprs = exprs.flatMap names := by
  induction exprs with
  | nil => rfl
  | cons expr rest ih => simp [namesOfEach, ih]

end Expr

namespace Grouping

def strings : Grouping → List String
  | .key expr => expr.strings
  | .sets lists => lists.flatMap Expr.stringsOfEach
  | .cube exprs => Expr.stringsOfEach exprs
  | .rollup exprs => Expr.stringsOfEach exprs

def names : Grouping → List String
  | .key expr => expr.names
  | .sets lists => lists.flatMap Expr.namesOfEach
  | .cube exprs => Expr.namesOfEach exprs
  | .rollup exprs => Expr.namesOfEach exprs

end Grouping

namespace Relation

/-
  The values of the string literals that are rendered.  The
  aggregates and the source of a group are not.
-/
def strings : Relation → List String
  | .empty => []
  | .table _ => []
  | .rename _ source => source.strings
  | .projection selectList source =>
      Expr.stringsOfEach selectList ++ source.strings
  | .selection predicate source =>
      source.strings ++ predicate.strings
  | .join _ left right predicate =>
      left.strings ++ right.strings ++
        (match predicate with
        | none => []
        | some predicate => predicate.strings)
  | .group keys _ _ => keys.flatMap Grouping.strings
  | .error _ _ => []

/- The names that a relation writes, operators apart. -/
def names : Relation → List String
  | .empty => []
  | .table base => [base.name]
  | .rename name source => name :: source.names
  | .projection selectList source =>
      Expr.namesOfEach selectList ++ source.names
  | .selection predicate source => source.names ++ predicate.names
  | .join _ left right predicate =>
      left.names ++ right.names ++
        (match predicate with
        | none => []
        | some predicate => predicate.names)
  | .group keys _ _ => keys.flatMap Grouping.names
  | .error _ _ => []

end Relation

def Document.strings : Document → List String
  | .relation tree => tree.strings
  | .expression tree => tree.strings

def Document.names : Document → List String
  | .relation tree => tree.names
  | .expression tree => tree.names

------------------------------------------------------------
-- Rendered Trees
------------------------------------------------------------

namespace Dialect.AllTexts

variable {plain : String → Prop} {dialect : Dialect} {op : String}

theorem binaryText
    (hDialect : dialect.AllTexts plain)
    (hKnown : dialect.binary op ≠ none) :
    plain (dialect.binaryText op) := by
  unfold Dialect.binaryText
  cases hOp : dialect.binary op with
  | none => exact absurd hOp hKnown
  | some operator => exact hDialect.binary op operator hOp

theorem unaryText
    (hDialect : dialect.AllTexts plain)
    (hKnown : dialect.unary op ≠ none) :
    plain (dialect.unaryText op) := by
  unfold Dialect.unaryText
  cases hOp : dialect.unary op with
  | none => exact absurd hOp hKnown
  | some operator => exact hDialect.unary op operator hOp

end Dialect.AllTexts

variable {plain : String → Prop} [PlainTexts plain]
variable {dialect : Dialect}

theorem Literal.composed_render
    (value : Literal) :
    Composed plain value.render (Expr.literal value).strings := by
  cases value with
  | null => exact .markFree (by decide)
  | integer value =>
      have hAbsent :
          ∀ c : Char,
            c ≠ '-' →
              c.isDigit = false →
                c ∉ (toString value.toInt).toList := by
        intro c hSign hDigit hMem
        rcases Text.mem_toString_integer hMem with hEq | hIsDigit
        · exact hSign hEq
        · rw [hDigit] at hIsDigit
          cases hIsDigit
      exact .markFree
        ⟨hAbsent '\'' (by decide) (by decide),
          hAbsent '(' (by decide) (by decide),
          hAbsent ')' (by decide) (by decide)⟩
  | string value => exact .quote value
  | boolean value => cases value <;> exact .markFree (by decide)

theorem Attribute.plain_render
    {target : Attribute}
    (hNames : ∀ name ∈ (Expr.reference target).names, plain name) :
    plain target.render := by
  rcases target with ⟨qualifier, name, error⟩
  cases name with
  | none =>
      have hEmpty : plain "" := PlainTexts.markFree (by decide)
      cases qualifier with
      | none => exact hEmpty
      | some qualifier => exact hEmpty
  | some name =>
      have hName := hNames name (by simp [Expr.names])
      cases qualifier with
      | none => exact hName
      | some qualifier =>
          have hQualifier := hNames qualifier (by simp [Expr.names])
          have hDot : plain "." := PlainTexts.markFree (by decide)
          exact PlainTexts.append (PlainTexts.append hQualifier hDot)
            hName

namespace Expr

/-
  The text of a faultless expression is composed, with the values
  of its string literals.
-/
theorem composed_render
    (hDialect : dialect.AllTexts plain)
    (expr : Expr)
    (hNames : ∀ name ∈ expr.names, plain name)
    (hFaults : expr.faults dialect = []) :
    Composed plain (expr.render dialect) expr.strings := by
  induction expr using inductionOnArgs with
  | literal value => exact value.composed_render
  | binary op left right hLeft hRight =>
      simp only [names, List.mem_append] at hNames
      simp only [faults, List.append_eq_nil_iff] at hFaults
      have hLeftText :=
        hLeft (fun name hMem => hNames name (Or.inl hMem))
          hFaults.1.1
      have hRightText :=
        hRight (fun name hMem => hNames name (Or.inr hMem))
          hFaults.2
      have hOperator : plain (dialect.binaryText op) :=
        hDialect.binaryText (by simpa using hFaults.1.2)
      simp only [render, strings]
      refine .across ?_ (PlainTexts.spaced hOperator)
        (spaced_ne_empty _) hRightText
      split
      · exact .parenthesized hLeftText
      · exact hLeftText
  | unary op operand hOperand =>
      simp only [faults, List.append_eq_nil_iff] at hFaults
      have hOperator : plain (dialect.unaryText op) :=
        hDialect.unaryText (by simpa using hFaults.1)
      have hSpace : plain " " := PlainTexts.markFree (by decide)
      simp only [render, strings]
      exact .after (PlainTexts.append hOperator hSpace)
        (hOperand hNames hFaults.2)
  | call name args hArgs =>
      simp only [names, namesOfEach_eq_flatMap, List.mem_cons,
        List.mem_flatMap] at hNames
      simp only [faults, faultsOfEach_eq_flatMap,
        List.flatMap_eq_nil_iff] at hFaults
      simp only [render, strings, renderEach_eq_map,
        stringsOfEach_eq_flatMap]
      refine .after (hNames name (Or.inl rfl))
        (.parenthesized (.intercalate ?_))
      intro arg hMem
      refine hArgs arg hMem ?_ (hFaults arg hMem)
      intro other hOther
      exact hNames other (Or.inr ⟨arg, hMem, hOther⟩)
  | column name table =>
      have hTable := hNames table.name (by simp [names])
      have hName := hNames name (by simp [names])
      have hDot : plain "." := PlainTexts.markFree (by decide)
      exact .plain
        (PlainTexts.append (PlainTexts.append hTable hDot) hName)
  | reference target => exact .plain (Attribute.plain_render hNames)
  | aliased name expr hExpr =>
      simp only [names, List.mem_cons] at hNames
      have hText :=
        hExpr (fun other hMem => hNames other (Or.inr hMem)) hFaults
      exact hText.named (hNames name (Or.inl rfl))
  | parameter name => simp [faults] at hFaults
  | error cause => simp [faults] at hFaults

/- The same for a list with commas. -/
theorem composed_renderAll
    (hDialect : dialect.AllTexts plain)
    (exprs : List Expr)
    (hNames : ∀ name ∈ namesOfEach exprs, plain name)
    (hFaults : faultsOfEach dialect exprs = []) :
    Composed plain (renderAll dialect exprs) (stringsOfEach exprs) := by
  simp only [namesOfEach_eq_flatMap, List.mem_flatMap] at hNames
  simp only [faultsOfEach_eq_flatMap,
    List.flatMap_eq_nil_iff] at hFaults
  rw [stringsOfEach_eq_flatMap]
  apply Composed.intercalate
  intro expr hMem
  refine expr.composed_render hDialect ?_ (hFaults expr hMem)
  intro name hName
  exact hNames name ⟨expr, hMem, hName⟩

end Expr

theorem Grouping.composed_render
    (hDialect : dialect.AllTexts plain)
    (grouping : Grouping)
    (hNames : ∀ name ∈ grouping.names, plain name)
    (hFaults : grouping.faults dialect = []) :
    Composed plain (grouping.render dialect) grouping.strings := by
  cases grouping with
  | key expr => exact expr.composed_render hDialect hNames hFaults
  | sets lists =>
      simp only [names, List.mem_flatMap] at hNames
      simp only [faults, List.flatMap_eq_nil_iff] at hFaults
      refine .after (PlainTexts.markFree (by decide))
        (.parenthesized (.intercalate ?_))
      intro set hMem
      refine .parenthesized
        (Expr.composed_renderAll hDialect set ?_ (hFaults set hMem))
      intro name hName
      exact hNames name ⟨set, hMem, hName⟩
  | cube exprs =>
      exact .after (PlainTexts.markFree (by decide))
        (.parenthesized
          (Expr.composed_renderAll hDialect exprs hNames hFaults))
  | rollup exprs =>
      exact .after (PlainTexts.markFree (by decide))
        (.parenthesized
          (Expr.composed_renderAll hDialect exprs hNames hFaults))

theorem Relation.composed_render
    (hDialect : dialect.AllTexts plain)
    (relation : Relation)
    (hNames : ∀ name ∈ relation.names, plain name)
    (hFaults : relation.faults dialect = []) :
    Composed plain (relation.render dialect) relation.strings := by
  induction relation with
  | empty => simp [faults] at hFaults
  | table base => exact .plain (hNames base.name (by simp [names]))
  | rename name source hSource =>
      simp only [names, List.mem_cons] at hNames
      have hText :=
        hSource (fun other hMem => hNames other (Or.inr hMem)) hFaults
      exact hText.named (hNames name (Or.inl rfl))
  | projection selectList source hSource =>
      simp only [names, List.mem_append] at hNames
      have hListFaults : Expr.faultsOfEach dialect selectList = [] :=
        (List.append_eq_nil_iff.1 hFaults).1
      have hList :
          Composed plain
            ("SELECT " ++ Expr.renderAll dialect selectList)
            (Expr.stringsOfEach selectList) :=
        .after (PlainTexts.markFree (by decide))
          (Expr.composed_renderAll hDialect selectList
            (fun name hMem => hNames name (Or.inl hMem)) hListFaults)
      by_cases hEmpty : source = .empty
      · subst hEmpty
        simpa [render, strings] using hList
      · rw [faults_projection _ _ hEmpty, List.append_eq_nil_iff]
          at hFaults
        have hSourceText :=
          hSource (fun name hMem => hNames name (Or.inr hMem)) hFaults.2
        rw [render_projection _ _ hEmpty]
        exact hList.across (PlainTexts.markFree (by decide)) (by decide)
          hSourceText
  | selection predicate source hSource =>
      simp only [names, List.mem_append] at hNames
      simp only [faults, List.append_eq_nil_iff] at hFaults
      have hSourceText :=
        hSource (fun name hMem => hNames name (Or.inl hMem)) hFaults.1
      have hPredicate :=
        predicate.composed_render hDialect
          (fun name hMem => hNames name (Or.inr hMem)) hFaults.2
      exact hSourceText.across (PlainTexts.markFree (by decide))
        (by decide) hPredicate
  | join kind left right predicate hLeft hRight =>
      simp only [names, List.mem_append] at hNames
      simp only [faults, List.append_eq_nil_iff] at hFaults
      have hLeftText :=
        hLeft (fun name hMem => hNames name (Or.inl (Or.inl hMem)))
          hFaults.1.1
      have hRightText :=
        hRight (fun name hMem => hNames name (Or.inl (Or.inr hMem)))
          hFaults.1.2
      have hKeyword : MarkFree kind.keyword := by
        cases kind <;> decide
      have hSides :=
        hLeftText.across
          (PlainTexts.spaced (PlainTexts.markFree hKeyword))
          (spaced_ne_empty _) hRightText
      cases predicate with
      | none => simpa [render, strings] using hSides
      | some predicate =>
          have hPredicate :=
            predicate.composed_render hDialect
              (fun name hMem => hNames name (Or.inr hMem)) hFaults.2
          have hOn : plain " ON " := PlainTexts.markFree (by decide)
          have hJoin := hSides.across hOn (by decide) hPredicate
          simpa [render, strings, String.append_assoc] using hJoin
  | group keys aggregates source hSource =>
      simp only [names, List.mem_flatMap] at hNames
      simp only [faults, List.append_eq_nil_iff,
        List.flatMap_eq_nil_iff] at hFaults
      refine .after (PlainTexts.markFree (by decide))
        (.intercalate ?_)
      intro key hMem
      refine key.composed_render hDialect ?_ (hFaults.1.1 key hMem)
      intro name hName
      exact hNames name ⟨key, hMem, hName⟩
  | error cause inside => simp [faults] at hFaults

theorem Document.composed_compile
    {document : Document}
    {sql : String}
    (hDialect : dialect.AllTexts plain)
    (hNames : ∀ name ∈ document.names, plain name)
    (hSql : document.compile dialect = .text sql) :
    Composed plain sql document.strings := by
  rw [compile_eq_settle, Fragment.settle_eq_text_iff] at hSql
  rcases hSql with ⟨hFaults, rfl⟩
  cases document with
  | relation tree => exact tree.composed_render hDialect hNames hFaults
  | expression tree => exact tree.composed_render hDialect hNames hFaults

end SqlCompiler
