import Mathlib.Data.List.Induction
import SqlCompiler.Proofs.Operator.Layering
import SqlCompiler.Proofs.Text.ByteOrder

/-
  This file follows a table of operators through the additions
  that built it.  A map keeps the last addition of each symbol,
  so lookups can be told from the history alone: the last addition
  of exactly the symbol, or else the last one of its smallest
  variant.  When a symbol was added matters only against other
  additions of the same symbol.

  Key definitions include:
    * `History.LastAdded`
    * `History.SmallestVariant`
    * `History.Answers`
    * `Addition`
    * `OperatorTable.build`

  Key theorems include:
    * `History.lastAdded_append_singleton`
    * `OperatorMap.mem_ofList_iff`
    * `OperatorMap.find?_ofList_iff`
    * `OperatorTable.maps_build`
    * `OperatorTable.build_reordered`
    * `OperatorTable.lookups_recall_additions`
-/

namespace SqlCompiler

------------------------------------------------------------
-- Histories
------------------------------------------------------------

/- The entries that were added to a map, the oldest one first. -/
abbrev History :=
  List Dialect.Entry

namespace History

/- The entry was added, and its symbol not again after it. -/
def LastAdded
    (history : History)
    (entry : Dialect.Entry) : Prop :=
  ∃ front back,
    history = front ++ entry :: back ∧
      ∀ later ∈ back, later.1 ≠ entry.1

/-
  The last entry of the symbol that comes first in byte order,
  among the added symbols that equal the given one up to the case
  of ASCII letters.
-/
structure SmallestVariant
    (history : History)
    (symbol : String)
    (entry : Dialect.Entry) : Prop where
  last : history.LastAdded entry
  same : Text.sameIgnoringCase entry.1 symbol = true
  smallest :
    ∀ other ∈ history,
      Text.sameIgnoringCase other.1 symbol = true →
        other.1 = entry.1 ∨ Text.bytes entry.1 < Text.bytes other.1

/- What a lookup answers after this history. -/
inductive Answers
    (history : History)
    (symbol : String) : Option Operator → Prop where
  | exactly {operator : Operator}
      (hLast : history.LastAdded (symbol, operator)) :
      Answers history symbol (some operator)
  | variant {entry : Dialect.Entry}
      (hOthers : ∀ other ∈ history, other.1 ≠ symbol)
      (hSmallest : history.SmallestVariant symbol entry) :
      Answers history symbol (some entry.2)
  | unknown
      (hNone :
        ∀ other ∈ history,
          Text.sameIgnoringCase other.1 symbol = false) :
      Answers history symbol none

variable {history : History} {added entry : Dialect.Entry}

theorem LastAdded.mem
    (hLast : history.LastAdded entry) :
    entry ∈ history := by
  rcases hLast with ⟨front, back, rfl, -⟩
  exact List.mem_append_right _ List.mem_cons_self

/- A new addition is the last one of its symbol, and of no other. -/
theorem lastAdded_append_singleton :
    LastAdded (history ++ [added]) entry ↔
      entry = added ∨
        history.LastAdded entry ∧ entry.1 ≠ added.1 := by
  constructor
  · rintro ⟨front, back, hHistory, hLater⟩
    rcases List.eq_nil_or_concat back with rfl | ⟨rest, last, rfl⟩
    · have hLast := List.append_inj_right' hHistory rfl
      exact .inl (List.singleton_inj.1 hLast).symm
    · rw [List.concat_eq_append, ← List.cons_append,
        ← List.append_assoc] at hHistory
      have hLast := List.append_inj_right' hHistory rfl
      cases List.singleton_inj.1 hLast
      refine .inr ⟨⟨front, rest, List.append_inj_left' hHistory rfl, ?_⟩, ?_⟩
      · intro later hMem
        exact hLater later (by simp [hMem])
      · exact (hLater added (by simp)).symm
  · rintro (rfl | ⟨⟨front, back, rfl, hLater⟩, hNe⟩)
    · exact ⟨history, [], rfl, by simp⟩
    · refine ⟨front, back ++ [added], by simp, ?_⟩
      intro later hMem
      rcases List.mem_append.1 hMem with hBack | hNew
      · exact hLater later hBack
      · exact List.mem_singleton.1 hNew ▸ hNe.symm

/- Every symbol that was added has a last entry. -/
theorem exists_lastAdded
    (hAdded : added ∈ history) :
    ∃ entry, history.LastAdded entry ∧ entry.1 = added.1 := by
  induction history using List.reverseRecOn with
  | nil => cases hAdded
  | append_singleton history last ih =>
      simp only [lastAdded_append_singleton]
      by_cases hSame : last.1 = added.1
      · exact ⟨last, .inl rfl, hSame⟩
      · have hBefore : added ∈ history := by
          rcases List.mem_append.1 hAdded with hBefore | hLast
          · exact hBefore
          · exact absurd (List.mem_singleton.1 hLast ▸ rfl) hSame
        rcases ih hBefore with ⟨entry, hEntry, hSymbol⟩
        exact ⟨entry, .inr ⟨hEntry, hSymbol ▸ Ne.symm hSame⟩, hSymbol⟩

end History

------------------------------------------------------------
-- Maps and Their Histories
------------------------------------------------------------

/- The first of sorted entries has the smallest symbol by bytes. -/
theorem SortedEntries.head?_eq_some_iff
    {entries : List Dialect.Entry}
    (hSorted : SortedEntries entries)
    {entry : Dialect.Entry} :
    entries.head? = some entry ↔
      entry ∈ entries ∧
        ∀ other ∈ entries,
          other.1 = entry.1 ∨ Text.bytes entry.1 < Text.bytes other.1 := by
  cases entries with
  | nil => simp
  | cons first rest =>
      have hFirst := (List.pairwise_cons.1 hSorted).1
      rw [List.head?_cons, Option.some_inj]
      constructor
      · rintro rfl
        refine ⟨List.mem_cons_self, ?_⟩
        intro other hOther
        rcases List.mem_cons.1 hOther with rfl | hRest
        · exact .inl rfl
        · exact .inr (Text.bytes_lt_of_lt (hFirst other hRest))
      · rintro ⟨hEntry, hSmallest⟩
        rcases List.mem_cons.1 hEntry with rfl | hRest
        · rfl
        · have hBefore := hFirst entry hRest
          rcases hSmallest first List.mem_cons_self with hSame | hAfter
          · exact absurd hSame (String.ne_of_lt hBefore)
          · exact absurd hAfter
              (List.lt_asymm (Text.bytes_lt_of_lt hBefore))

namespace OperatorMap

open History

variable {history : History} {symbol : String}

/-
  A map holds the last entry of each symbol.  The newest addition
  decides about its own symbol and leaves the others alone.
-/
theorem mem_ofList_iff
    {entry : Dialect.Entry} :
    entry ∈ (ofList history).entries ↔ history.LastAdded entry := by
  induction history using List.reverseRecOn with
  | nil => simp [ofList, empty, LastAdded]
  | append_singleton history added ih =>
      have hInsert :
          ofList (history ++ [added]) =
            (ofList history).insert added.1 added.2 := by
        simp [ofList]
      rw [hInsert, mem_insert_iff, ih, lastAdded_append_singleton]

/- So its symbols are those that were added. -/
theorem forall_symbols_iff
    (property : String → Prop) :
    (∀ entry ∈ (ofList history).entries, property entry.1) ↔
      ∀ entry ∈ history, property entry.1 := by
  constructor
  · intro hMap added hAdded
    rcases exists_lastAdded hAdded with ⟨entry, hLast, hSymbol⟩
    exact hSymbol ▸ hMap entry (mem_ofList_iff.2 hLast)
  · intro hHistory entry hEntry
    exact hHistory entry (mem_ofList_iff.1 hEntry).mem

/- The first variant in the map is the smallest one by bytes. -/
theorem head?_variants_iff
    {entry : Dialect.Entry} :
    ((ofList history).variants symbol).head? = some entry ↔
      history.SmallestVariant symbol entry := by
  rw [((ofList history).variants_sorted symbol).head?_eq_some_iff]
  constructor
  · rintro ⟨hEntry, hSmallest⟩
    have hParts := List.mem_filter.1 hEntry
    refine ⟨mem_ofList_iff.1 hParts.1, hParts.2, ?_⟩
    intro added hAdded hSame
    rcases exists_lastAdded hAdded with ⟨other, hLast, hSymbol⟩
    rw [← hSymbol] at hSame ⊢
    exact hSmallest other
      (List.mem_filter.2 ⟨mem_ofList_iff.2 hLast, hSame⟩)
  · intro hSmallest
    refine ⟨List.mem_filter.2
      ⟨mem_ofList_iff.2 hSmallest.last, hSmallest.same⟩, ?_⟩
    intro other hOther
    have hParts := List.mem_filter.1 hOther
    exact hSmallest.smallest other (mem_ofList_iff.1 hParts.1).mem hParts.2

/- Each kind of answer is what the lookup gives. -/
theorem find?_of_answers
    {answer : Option Operator}
    (hAnswers : history.Answers symbol answer) :
    (ofList history).find? symbol = answer := by
  cases hAnswers with
  | exactly hLast => exact find?_of_mem (mem_ofList_iff.2 hLast)
  | variant hOthers hSmallest =>
      apply find?_of_head?_variants
      · exact (forall_symbols_iff (· ≠ symbol)).2 hOthers
      · exact head?_variants_iff.2 hSmallest
  | unknown hNone =>
      apply find?_eq_none
      rw [variants_eq_nil_iff]
      exact (forall_symbols_iff (Text.sameIgnoringCase · symbol = false)).2
        hNone

/- Every history answers every symbol. -/
theorem exists_answers
    (history : History)
    (symbol : String) :
    ∃ answer, history.Answers symbol answer := by
  cases hExact : (ofList history).get? symbol with
  | some operator =>
      have hLast := mem_ofList_iff.1 (get?_eq_some_iff.1 hExact)
      exact ⟨some operator, .exactly hLast⟩
  | none =>
      have hOthers :=
        (forall_symbols_iff (· ≠ symbol)).1 (get?_eq_none_iff.1 hExact)
      cases hFirst : ((ofList history).variants symbol).head? with
      | some entry =>
          exact ⟨some entry.2,
            .variant hOthers (head?_variants_iff.1 hFirst)⟩
      | none =>
          have hNone := variants_eq_nil_iff.1 (List.head?_eq_none_iff.1 hFirst)
          exact ⟨none, .unknown
            ((forall_symbols_iff
              (Text.sameIgnoringCase · symbol = false)).1 hNone)⟩

theorem find?_ofList_iff
    {answer : Option Operator} :
    (ofList history).find? symbol = answer ↔
      history.Answers symbol answer := by
  constructor
  · rintro rfl
    rcases exists_answers history symbol with ⟨answer, hAnswers⟩
    rwa [find?_of_answers hAnswers]
  · exact find?_of_answers

end OperatorMap

------------------------------------------------------------
-- Additions to a Table
------------------------------------------------------------

/- An operator to be added to a table. -/
inductive Addition where
  | binary (symbol text : String) (precedence : UInt8)
  | unary (symbol text : String)
deriving DecidableEq, Repr

namespace Addition

def isBinary : Addition → Bool
  | .binary _ _ _ => true
  | .unary _ _ => false

/- The same text is another symbol as a unary operator. -/
def symbol : Addition → OperatorSymbol
  | .binary symbol _ _ => .binary symbol
  | .unary symbol _ => .unary symbol

def binaryEntry? : Addition → Option Dialect.Entry
  | .binary symbol text precedence => some (symbol, ⟨text, precedence⟩)
  | .unary _ _ => none

/- The precedence of a unary operator is zero. -/
def unaryEntry? : Addition → Option Dialect.Entry
  | .binary _ _ _ => none
  | .unary symbol text => some (symbol, ⟨text, 0⟩)

end Addition

def History.binary
    (additions : List Addition) : History :=
  additions.filterMap Addition.binaryEntry?

def History.unary
    (additions : List Addition) : History :=
  additions.filterMap Addition.unaryEntry?

/- Additions without an entry leave no trace. -/
theorem History.filterMap_filter
    {entryOf : Addition → Option Dialect.Entry}
    {keeps : Addition → Bool}
    (hKeeps : ∀ addition, keeps addition = (entryOf addition).isSome)
    (additions : List Addition) :
    (additions.filter keeps).filterMap entryOf =
      additions.filterMap entryOf := by
  rw [List.filterMap_filter]
  congr 1
  funext addition
  rw [hKeeps]
  cases entryOf addition <;> rfl

theorem History.binary_filter
    (additions : List Addition) :
    binary (additions.filter fun addition => addition.isBinary) =
      binary additions := by
  apply filterMap_filter
  rintro (_ | _) <;> rfl

theorem History.unary_filter
    (additions : List Addition) :
    unary (additions.filter fun addition => !addition.isBinary) =
      unary additions := by
  apply filterMap_filter
  rintro (_ | _) <;> rfl

namespace OperatorTable

def add
    (table : OperatorTable) : Addition → OperatorTable
  | .binary symbol text precedence =>
      table.withBinary symbol text precedence
  | .unary symbol text => table.withUnary symbol text

/- The table that starts empty and gets the additions in order. -/
def build
    (name : String)
    (additions : List Addition) : OperatorTable :=
  additions.foldl add ⟨name, .empty, .empty⟩

/- Each addition is an insertion into one of the maps. -/
theorem maps_foldl_add
    (additions : List Addition)
    (table : OperatorTable) :
    (additions.foldl add table).binary =
        (History.binary additions).foldl
          (fun map entry => map.insert entry.1 entry.2) table.binary ∧
      (additions.foldl add table).unary =
        (History.unary additions).foldl
          (fun map entry => map.insert entry.1 entry.2) table.unary := by
  induction additions generalizing table with
  | nil => exact ⟨rfl, rfl⟩
  | cons addition rest ih =>
      cases addition with
      | binary symbol text precedence =>
          exact ih (table.withBinary symbol text precedence)
      | unary symbol text => exact ih (table.withUnary symbol text)

theorem maps_build
    (name : String)
    (additions : List Addition) :
    (build name additions).binary =
        OperatorMap.ofList (History.binary additions) ∧
      (build name additions).unary =
        OperatorMap.ofList (History.unary additions) :=
  maps_foldl_add additions ⟨name, .empty, .empty⟩

------------------------------------------------------------
-- Reordering
------------------------------------------------------------

/- Additions of different symbols can change places. -/
theorem add_comm
    (table : OperatorTable)
    {one other : Addition}
    (hNe : one.symbol ≠ other.symbol) :
    (table.add one).add other = (table.add other).add one := by
  cases one with
  | binary symbol text precedence =>
      cases other with
      | binary another _ _ =>
          have hSymbol : symbol ≠ another :=
            fun hEq => hNe (congrArg OperatorSymbol.binary hEq)
          simp only [add, withBinary]
          rw [OperatorMap.insert_comm _ hSymbol]
      | unary _ _ => rfl
  | unary symbol text =>
      cases other with
      | binary _ _ _ => rfl
      | unary another _ =>
          have hSymbol : symbol ≠ another :=
            fun hEq => hNe (congrArg OperatorSymbol.unary hEq)
          simp only [add, withUnary]
          rw [OperatorMap.insert_comm _ hSymbol]

/-
  Additions of different symbols can be permuted, since any two of
  them commute.  Those before and after stay in their places.
-/
theorem build_reordered
    (name : String)
    (front back : List Addition)
    {moved others : List Addition}
    (hPerm : moved.Perm others)
    (hDistinct : (moved.map Addition.symbol).Nodup) :
    build name (front ++ moved ++ back) =
      build name (front ++ others ++ back) := by
  unfold build
  rw [List.foldl_append, List.foldl_append, List.foldl_append,
    List.foldl_append]
  congr 1
  apply hPerm.foldl_eq'
  intro one hOne other hOther table
  by_cases hSame : one.symbol = other.symbol
  · rw [List.inj_on_of_nodup_map hDistinct hOne hOther hSame]
  · exact table.add_comm hSame

------------------------------------------------------------
-- Lookups in Built Tables
------------------------------------------------------------

/-
  Lookups recall the additions.  A binary symbol is answered by
  the binary additions alone: by the last one of exactly this
  symbol, or else by the last one of its smallest variant in byte
  order, or not at all; and a unary symbol by the unary additions.
  Wherever additions of different symbols stand next to each other,
  their order does not matter.
-/
theorem lookups_recall_additions
    (name : String)
    (additions : List Addition) :
    (∀ symbol answer,
      ((build name additions).toDialect.binary symbol = answer ↔
          (History.binary additions).Answers symbol answer) ∧
        ((build name additions).toDialect.unary symbol = answer ↔
          (History.unary additions).Answers symbol answer)) ∧
      (∀ symbol,
        (build name additions).toDialect.binary symbol =
            (build name (additions.filter fun addition =>
              addition.isBinary)).toDialect.binary symbol ∧
          (build name additions).toDialect.unary symbol =
            (build name (additions.filter fun addition =>
              !addition.isBinary)).toDialect.unary symbol) ∧
      ∀ front moved others back,
        additions = front ++ moved ++ back →
          moved.Perm others →
            (moved.map Addition.symbol).Nodup →
              (build name additions).toDialect.SameLookups
                (build name (front ++ others ++ back)).toDialect := by
  refine ⟨?_, ?_, ?_⟩
  · intro symbol answer
    have hMaps := maps_build name additions
    unfold toDialect
    rw [hMaps.1, hMaps.2]
    exact ⟨OperatorMap.find?_ofList_iff, OperatorMap.find?_ofList_iff⟩
  · intro symbol
    unfold toDialect
    simp only [(maps_build name _).1, (maps_build name _).2,
      History.binary_filter, History.unary_filter, and_self]
  · rintro front moved others back rfl hPerm hDistinct
    rw [build_reordered name front back hPerm hDistinct]
    exact ⟨fun _ => rfl, fun _ => rfl⟩

/-
  Two variants were added, the smaller one of them twice.  The
  additions after the first one are reversed, although one of them
  replaces it.
-/
theorem lookups_recall_additions_of_variants :
    let first : Addition := .binary "AND" "*" 1
    let moved : List Addition :=
      [.binary "And" "&&" 3, .unary "AND" "!", .binary "AND" "&" 2]
    let table := build "t" ([first] ++ moved ++ [])
    table.toDialect.binary "and" = some ⟨"&", 2⟩ ∧
      table.toDialect.unary "And" = some ⟨"!", 0⟩ ∧
      (moved.map Addition.symbol).Nodup ∧
      table.toDialect.SameLookups
        (build "t" ([first] ++ moved.reverse ++ [])).toDialect := by
  intro first moved table
  have hRecall := lookups_recall_additions "t" ([first] ++ moved ++ [])
  have hDistinct : (moved.map Addition.symbol).Nodup := by
    decide
  have hBinary :
      (History.binary ([first] ++ moved ++ [])).SmallestVariant "and"
        ("AND", ⟨"&", 2⟩) := by
    refine ⟨⟨[("AND", ⟨"*", 1⟩), ("And", ⟨"&&", 3⟩)], [], rfl, by simp⟩,
      by decide, ?_⟩
    intro other hOther _
    have hSymbol : other.1 = "AND" ∨ other.1 = "And" := by
      revert other
      decide
    rcases hSymbol with hSame | hLarger
    · exact .inl hSame
    · rw [hLarger]
      exact .inr (Text.bytes_lt_of_lt (by decide))
  have hUnary :
      (History.unary ([first] ++ moved ++ [])).SmallestVariant "And"
        ("AND", ⟨"!", 0⟩) :=
    ⟨⟨[], [], rfl, by simp⟩, by decide, by decide⟩
  refine ⟨?_, ?_, hDistinct, ?_⟩
  · exact (hRecall.1 _ _).1.2 (.variant (by decide) hBinary)
  · exact (hRecall.1 _ _).2.2 (.variant (by decide) hUnary)
  · exact hRecall.2.2 [first] moved moved.reverse [] rfl
      moved.reverse_perm.symm hDistinct

end OperatorTable

end SqlCompiler
