import SqlCompiler.Operator.Table
import SqlCompiler.Proofs.Compilation.Agreement
import SqlCompiler.Proofs.Operator.Map

/-
  This file replaces layers of operator tables by single tables.
  A table over another table is the two of them merged, where a
  symbol of the upper table hides its variants in the lower one.
  So a stack of tables over a dialect is one table over it.

  Key definitions include:
    * `Dialect.SameLookups`
    * `OperatorMap.IsMerge`
    * `OperatorTable.merge`
    * `OperatorTable.stackedOver`
    * `OperatorTable.mergeAll`

  Key theorems include:
    * `OperatorTable.sameLookups_merge`
    * `OperatorTable.sameLookups_mergeAll`
    * `OperatorTable.layering_is_merging`
-/

namespace SqlCompiler

------------------------------------------------------------
-- Dialects with the Same Operators
------------------------------------------------------------

/- Both find the same operators; their names do not matter. -/
structure Dialect.SameLookups
    (one other : Dialect) : Prop where
  binary : ∀ symbol, one.binary symbol = other.binary symbol
  unary : ∀ symbol, one.unary symbol = other.unary symbol

namespace Dialect.SameLookups

variable {one other : Dialect}

theorem trans
    {third : Dialect}
    (hSame : one.SameLookups other)
    (hThird : other.SameLookups third) :
    one.SameLookups third where
  binary := by
    intro symbol
    rw [hSame.binary, hThird.binary]
  unary := by
    intro symbol
    rw [hSame.unary, hThird.unary]

theorem agreeOn
    (hSame : one.SameLookups other)
    (symbols : List OperatorSymbol) :
    AgreeOn symbols one other where
  written := by
    intro symbol _
    cases symbol with
    | binary symbol =>
        simp only [OperatorSymbol.text?, hSame.binary symbol]
    | unary symbol =>
        simp only [OperatorSymbol.text?, hSame.unary symbol]
  ordered := by
    intro op next _ _
    unfold bindsLooser
    rw [hSame.binary op, hSame.binary next]

theorem compile_eq
    (hSame : one.SameLookups other)
    (document : Document) :
    document.compile one = document.compile other := by
  cases document with
  | relation tree => exact tree.compile_congr (hSame.agreeOn _)
  | expression tree => exact tree.compile_congr (hSame.agreeOn _)

end Dialect.SameLookups

------------------------------------------------------------
-- Merged Tables
------------------------------------------------------------

/-
  The merged map holds all entries of the upper one, and those
  of the lower one whose symbols equal no symbol of the upper
  one, up to the case of ASCII letters.
-/
def OperatorMap.IsMerge
    (merged upper lower : OperatorMap) : Prop :=
  ∀ entry,
    entry ∈ merged.entries ↔
      entry ∈ upper.entries ∨
        entry ∈ lower.entries ∧
          ∀ own ∈ upper.entries,
            Text.sameIgnoringCase own.1 entry.1 = false

theorem OperatorMap.isMerge_merge
    (upper lower : OperatorMap) :
    (upper.merge lower).IsMerge upper lower := by
  intro entry
  rw [mem_merge_iff, variants_eq_nil_iff]

namespace OperatorTable

/- Two tables in one; its name is that of the upper table. -/
def merge
    (upper lower : OperatorTable) : OperatorTable where
  name := upper.name
  binary := upper.binary.merge lower.binary
  unary := upper.unary.merge lower.unary

/- The tables in front of a dialect, the first one in front. -/
def stackedOver
    (tables : List OperatorTable)
    (base : Dialect) : Dialect :=
  tables.foldr layeredOver base

/- All tables in one. -/
def mergeAll
    (tables : List OperatorTable) : OperatorTable :=
  tables.foldr merge ⟨"custom", .empty, .empty⟩

theorem sameLookups_merge
    (upper lower : OperatorTable)
    (base : Dialect) :
    (upper.layeredOver (lower.layeredOver base)).SameLookups
      ((upper.merge lower).layeredOver base) where
  binary := by
    intro symbol
    simp only [layeredOver, merge]
    rw [OperatorMap.find?_merge, Option.or_assoc]
  unary := by
    intro symbol
    simp only [layeredOver, merge]
    rw [OperatorMap.find?_merge, Option.or_assoc]

/- A table over dialects with the same operators. -/
theorem layeredOver_sameLookups
    (table : OperatorTable)
    {one other : Dialect}
    (hSame : one.SameLookups other) :
    (table.layeredOver one).SameLookups (table.layeredOver other) where
  binary := by
    intro symbol
    simp only [layeredOver, hSame.binary symbol]
  unary := by
    intro symbol
    simp only [layeredOver, hSame.unary symbol]

theorem sameLookups_mergeAll
    (tables : List OperatorTable)
    (base : Dialect) :
    (stackedOver tables base).SameLookups
      ((mergeAll tables).layeredOver base) := by
  induction tables with
  | nil => exact ⟨fun _ => rfl, fun _ => rfl⟩
  | cons table rest ih =>
      have hRest := table.layeredOver_sameLookups ih
      exact hRest.trans (sameLookups_merge table (mergeAll rest) base)

/-
  Layering is merging.  A table over a second one, over any
  dialect, finds the same operators as one table that holds all
  of its entries and those of the second table that it does not
  hide.  So does a whole stack of tables as one table, and every
  document compiles to the same fragment.
-/
theorem layering_is_merging
    (upper lower : OperatorTable)
    (tables : List OperatorTable)
    (base : Dialect) :
    ((upper.merge lower).binary.IsMerge upper.binary lower.binary ∧
        (upper.merge lower).unary.IsMerge upper.unary lower.unary) ∧
      (upper.layeredOver (lower.layeredOver base)).SameLookups
        ((upper.merge lower).layeredOver base) ∧
      (stackedOver tables base).SameLookups
        ((mergeAll tables).layeredOver base) ∧
      ∀ document : Document,
        document.compile (upper.layeredOver (lower.layeredOver base)) =
            document.compile ((upper.merge lower).layeredOver base) ∧
          document.compile (stackedOver tables base) =
            document.compile ((mergeAll tables).layeredOver base) := by
  have hTwo := sameLookups_merge upper lower base
  have hStack := sameLookups_mergeAll tables base
  refine ⟨⟨?_, ?_⟩, hTwo, hStack, ?_⟩
  · exact OperatorMap.isMerge_merge upper.binary lower.binary
  · exact OperatorMap.isMerge_merge upper.unary lower.unary
  · intro document
    exact ⟨hTwo.compile_eq document, hStack.compile_eq document⟩

end OperatorTable

end SqlCompiler
