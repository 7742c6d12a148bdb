import Mathlib.Data.List.Sort
import SqlCompiler.Operator.Map

/-
  This file says what lookups in a map of operators depend on.
  The variants of a symbol are the entries that equal it up to
  the case of ASCII letters, in the order of the map.  A lookup
  reads the variants of its symbol and no other entry, so maps
  are compared variant by variant.

  Key definitions include:
    * `OperatorMap.variants`
    * `OperatorMap.merge`

  Key theorems include:
    * `OperatorMap.mem_insert_iff`
    * `OperatorMap.insert_comm`
    * `OperatorMap.ofList_entries`
    * `OperatorMap.get?_eq_some_iff`
    * `OperatorMap.find?_eq_variants`
    * `OperatorMap.mem_merge_iff`
    * `OperatorMap.find?_merge`
-/

namespace SqlCompiler

/- Sorted lists of entries are fixed by their members. -/
theorem SortedEntries.eq_of_mem_iff
    {left right : List Dialect.Entry}
    (hLeft : SortedEntries left)
    (hRight : SortedEntries right)
    (hMem : ∀ entry, entry ∈ left ↔ entry ∈ right) :
    left = right := by
  have : Std.Irrefl fun a b : Dialect.Entry => a.1 < b.1 :=
    ⟨fun entry => String.lt_irrefl entry.1⟩
  have : Std.Antisymm fun a b : Dialect.Entry => a.1 < b.1 :=
    ⟨fun _ _ hBefore hAfter => absurd hAfter (String.lt_asymm hBefore)⟩
  exact List.Pairwise.eq_of_mem_iff hLeft hRight hMem

namespace OperatorMap

------------------------------------------------------------
-- Members
------------------------------------------------------------

/- Placing an entry takes the place of its symbol only. -/
theorem mem_place_iff
    {symbol : String}
    {operator : Operator}
    {entries : List Dialect.Entry}
    (hSorted : SortedEntries entries)
    {entry : Dialect.Entry} :
    entry ∈ place symbol operator entries ↔
      entry = (symbol, operator) ∨
        entry ∈ entries ∧ entry.1 ≠ symbol := by
  induction entries with
  | nil => simp [place]
  | cons first rest ih =>
      have hParts := List.pairwise_cons.1 hSorted
      unfold place
      split
      · rename_i hBefore
        have hOthers : entry ∈ first :: rest → entry.1 ≠ symbol := by
          intro hMem
          rcases List.mem_cons.1 hMem with hFirst | hRest
          · exact hFirst ▸ (String.ne_of_lt hBefore).symm
          · have hLater := String.lt_trans hBefore (hParts.1 entry hRest)
            exact (String.ne_of_lt hLater).symm
        rw [List.mem_cons]
        exact or_congr_right (and_iff_left_of_imp hOthers).symm
      · split
        · rename_i hSame
          have hOthers : entry ∈ rest → entry.1 ≠ symbol := by
            intro hRest
            rw [hSame]
            exact (String.ne_of_lt (hParts.1 entry hRest)).symm
          rw [List.mem_cons, List.mem_cons]
          constructor
          · rintro (hNew | hRest)
            · exact Or.inl hNew
            · exact Or.inr ⟨Or.inr hRest, hOthers hRest⟩
          · rintro (hNew | ⟨hFirst | hRest, hNe⟩)
            · exact Or.inl hNew
            · exact absurd (hFirst ▸ hSame.symm) hNe
            · exact Or.inr hRest
        · rename_i hOther
          have hFirstNe : first.1 ≠ symbol := fun hEq => hOther hEq.symm
          rw [List.mem_cons, List.mem_cons, ih hParts.2]
          constructor
          · rintro (hFirst | hNew | ⟨hRest, hNe⟩)
            · exact Or.inr ⟨Or.inl hFirst, hFirst ▸ hFirstNe⟩
            · exact Or.inl hNew
            · exact Or.inr ⟨Or.inr hRest, hNe⟩
          · rintro (hNew | ⟨hFirst | hRest, hNe⟩)
            · exact Or.inr (Or.inl hNew)
            · exact Or.inl hFirst
            · exact Or.inr (Or.inr ⟨hRest, hNe⟩)

theorem mem_insert_iff
    {map : OperatorMap}
    {symbol : String}
    {operator : Operator}
    {entry : Dialect.Entry} :
    entry ∈ (map.insert symbol operator).entries ↔
      entry = (symbol, operator) ∨
        entry ∈ map.entries ∧ entry.1 ≠ symbol :=
  mem_place_iff map.sorted

/- Entries of new symbols are added and replace none. -/
theorem mem_foldl_insert_iff
    {map : OperatorMap}
    {added : List Dialect.Entry}
    (hAdded : SortedEntries added)
    (hNew : ∀ old ∈ map.entries, ∀ entry ∈ added, old.1 ≠ entry.1)
    {entry : Dialect.Entry} :
    entry ∈
        (added.foldl (fun map entry => map.insert entry.1 entry.2)
          map).entries ↔
      entry ∈ map.entries ∨ entry ∈ added := by
  induction added generalizing map with
  | nil => simp
  | cons first rest ih =>
      have hParts := List.pairwise_cons.1 hAdded
      have hNewRest :
          ∀ old ∈ (map.insert first.1 first.2).entries,
            ∀ entry ∈ rest, old.1 ≠ entry.1 := by
        intro old hOld entry hRest
        rcases mem_insert_iff.1 hOld with hFirst | ⟨hMap, -⟩
        · exact hFirst ▸ String.ne_of_lt (hParts.1 entry hRest)
        · exact hNew old hMap entry (List.mem_cons_of_mem _ hRest)
      have hKept : entry ∈ map.entries → entry.1 ≠ first.1 :=
        fun hMap => hNew entry hMap first List.mem_cons_self
      rw [List.foldl_cons, ih hParts.2 hNewRest, mem_insert_iff,
        and_iff_left_of_imp hKept, List.mem_cons]
      tauto

/- A map is fixed by its entries. -/
theorem eq_of_mem_iff
    {one other : OperatorMap}
    (hMem : ∀ entry, entry ∈ one.entries ↔ entry ∈ other.entries) :
    one = other := by
  have hEntries : one.entries = other.entries :=
    SortedEntries.eq_of_mem_iff one.sorted other.sorted hMem
  cases one
  cases other
  cases hEntries
  rfl

/- Insertions of different symbols can change places. -/
theorem insert_comm
    (map : OperatorMap)
    {symbol other : String}
    (hNe : symbol ≠ other)
    (operator another : Operator) :
    (map.insert symbol operator).insert other another =
      (map.insert other another).insert symbol operator := by
  apply eq_of_mem_iff
  intro entry
  simp only [mem_insert_iff]
  constructor
  · rintro (rfl | ⟨rfl | ⟨hOld, hFirst⟩, hSecond⟩)
    · exact .inr ⟨.inl rfl, hNe.symm⟩
    · exact .inl rfl
    · exact .inr ⟨.inr ⟨hOld, hSecond⟩, hFirst⟩
  · rintro (rfl | ⟨rfl | ⟨hOld, hFirst⟩, hSecond⟩)
    · exact .inr ⟨.inl rfl, hNe⟩
    · exact .inl rfl
    · exact .inr ⟨.inr ⟨hOld, hSecond⟩, hFirst⟩

/- It can be built again from them. -/
theorem ofList_entries
    (map : OperatorMap) :
    ofList map.entries = map := by
  apply eq_of_mem_iff
  intro entry
  unfold ofList
  rw [mem_foldl_insert_iff map.sorted (by simp [empty])]
  simp [empty]

------------------------------------------------------------
-- Exact Lookup
------------------------------------------------------------

/- A symbol has one entry. -/
theorem eq_of_symbol_eq
    {map : OperatorMap}
    {one other : Dialect.Entry}
    (hOne : one ∈ map.entries)
    (hOther : other ∈ map.entries)
    (hSame : one.1 = other.1) :
    one = other := by
  have hNodup : (map.entries.map Prod.fst).Nodup :=
    List.pairwise_map.2 (map.sorted.imp String.ne_of_lt)
  exact List.inj_on_of_nodup_map hNodup hOne hOther hSame

theorem get?_eq_some_iff
    {map : OperatorMap}
    {symbol : String}
    {operator : Operator} :
    map.get? symbol = some operator ↔
      (symbol, operator) ∈ map.entries := by
  unfold get?
  constructor
  · intro hFound
    rcases Option.map_eq_some_iff.1 hFound with ⟨entry, hEntry, rfl⟩
    have hSymbol : entry.1 = symbol := by
      simpa using List.find?_some hEntry
    exact hSymbol ▸ List.mem_of_find?_eq_some hEntry
  · intro hMem
    cases hFound : map.entries.find? fun entry => entry.1 == symbol with
    | none =>
        have hOther := List.find?_eq_none.1 hFound _ hMem
        simp at hOther
    | some entry =>
        have hSymbol : entry.1 = symbol := by
          simpa using List.find?_some hFound
        have hEntry : entry = (symbol, operator) :=
          eq_of_symbol_eq (List.mem_of_find?_eq_some hFound) hMem hSymbol
        rw [hEntry, Option.map_some]

theorem get?_eq_none_iff
    {map : OperatorMap}
    {symbol : String} :
    map.get? symbol = none ↔
      ∀ entry ∈ map.entries, entry.1 ≠ symbol := by
  simp [get?]

/- An exact entry is found before all variants. -/
theorem find?_of_mem
    {map : OperatorMap}
    {symbol : String}
    {operator : Operator}
    (hMem : (symbol, operator) ∈ map.entries) :
    map.find? symbol = some operator := by
  rw [find?, get?_eq_some_iff.2 hMem, Option.some_or]

------------------------------------------------------------
-- Variants of a Symbol
------------------------------------------------------------

/- The entries of a symbol, in whatever case. -/
def variants
    (map : OperatorMap)
    (symbol : String) : List Dialect.Entry :=
  map.entries.filter fun entry => Text.sameIgnoringCase entry.1 symbol

theorem mem_variants_iff
    {map : OperatorMap}
    {symbol : String}
    {entry : Dialect.Entry} :
    entry ∈ map.variants symbol ↔
      entry ∈ map.entries ∧
        Text.caseKey entry.1 = Text.caseKey symbol := by
  rw [variants, List.mem_filter, Text.sameIgnoringCase_iff]

theorem variants_eq_nil_iff
    {map : OperatorMap}
    {symbol : String} :
    map.variants symbol = [] ↔
      ∀ entry ∈ map.entries,
        Text.sameIgnoringCase entry.1 symbol = false := by
  simp only [variants, List.filter_eq_nil_iff, Bool.not_eq_true]

theorem variants_sorted
    (map : OperatorMap)
    (symbol : String) :
    SortedEntries (map.variants symbol) :=
  map.sorted.filter _

theorem variants_congr
    (map : OperatorMap)
    {symbol other : String}
    (hSame : Text.caseKey symbol = Text.caseKey other) :
    map.variants symbol = map.variants other := by
  unfold variants Text.sameIgnoringCase
  rw [hSame]

/- The variant of exactly this spelling wins over the first. -/
theorem find?_eq_variants
    (map : OperatorMap)
    (symbol : String) :
    map.find? symbol =
      (((map.variants symbol).find? fun entry => entry.1 == symbol).or
        (map.variants symbol).head?).map (·.2) := by
  have hExact :
      (map.variants symbol).find? (fun entry => entry.1 == symbol) =
        map.entries.find? fun entry => entry.1 == symbol := by
    rw [variants, List.find?_filter]
    congr 1
    funext entry
    by_cases hEq : entry.1 = symbol
    · simp [hEq, Text.sameIgnoringCase]
    · simp [hEq]
  rw [hExact, variants, List.head?_filter, Option.map_or]
  rfl

theorem find?_of_variants_eq
    {map other : OperatorMap}
    {symbol : String}
    (hVariants : map.variants symbol = other.variants symbol) :
    map.find? symbol = other.find? symbol := by
  rw [find?_eq_variants, find?_eq_variants, hVariants]

theorem find?_eq_none
    {map : OperatorMap}
    {symbol : String}
    (hVariants : map.variants symbol = []) :
    map.find? symbol = none := by
  rw [find?_eq_variants, hVariants]
  rfl

/- Without an exact entry the first variant is found. -/
theorem find?_of_head?_variants
    {map : OperatorMap}
    {symbol : String}
    {entry : Dialect.Entry}
    (hOthers : ∀ other ∈ map.entries, other.1 ≠ symbol)
    (hFirst : (map.variants symbol).head? = some entry) :
    map.find? symbol = some entry.2 := by
  rw [variants, List.head?_filter] at hFirst
  rw [find?, get?_eq_none_iff.2 hOthers, Option.none_or, Dialect.lookup?,
    hFirst, Option.map_some]

/- A symbol that has a variant is found. -/
theorem exists_find?
    {map : OperatorMap}
    {symbol : String}
    (hVariants : map.variants symbol ≠ []) :
    ∃ operator, map.find? symbol = some operator := by
  rw [find?_eq_variants]
  cases hFirst : map.variants symbol with
  | nil => exact absurd hFirst hVariants
  | cons first rest =>
      cases (first :: rest).find? fun entry => entry.1 == symbol with
      | none => exact ⟨first.2, rfl⟩
      | some exactly => exact ⟨exactly.2, rfl⟩

------------------------------------------------------------
-- Merging
------------------------------------------------------------

/-
  The upper map, with the entries of the lower one whose symbols
  have no variant in it.
-/
def merge
    (upper lower : OperatorMap) : OperatorMap :=
  (lower.entries.filter fun entry =>
    (upper.variants entry.1).isEmpty).foldl
      (fun map entry => map.insert entry.1 entry.2) upper

theorem mem_merge_iff
    {upper lower : OperatorMap}
    {entry : Dialect.Entry} :
    entry ∈ (upper.merge lower).entries ↔
      entry ∈ upper.entries ∨
        entry ∈ lower.entries ∧ upper.variants entry.1 = [] := by
  unfold merge
  rw [mem_foldl_insert_iff (lower.sorted.filter _), List.mem_filter,
    List.isEmpty_iff]
  intro old hOld entry hEntry hSame
  have hNone := List.isEmpty_iff.1 (List.mem_filter.1 hEntry).2
  have hVariant : old ∈ upper.variants entry.1 :=
    mem_variants_iff.2 ⟨hOld, congrArg Text.caseKey hSame⟩
  rw [hNone] at hVariant
  cases hVariant

/- Where the upper map has a variant, it has all of them. -/
theorem variants_merge_upper
    {upper lower : OperatorMap}
    {symbol : String}
    (hUpper : upper.variants symbol ≠ []) :
    (upper.merge lower).variants symbol = upper.variants symbol := by
  apply SortedEntries.eq_of_mem_iff (variants_sorted _ _)
    (variants_sorted _ _)
  intro entry
  rw [mem_variants_iff, mem_variants_iff, mem_merge_iff]
  constructor
  · rintro ⟨hEntry | ⟨-, hNone⟩, hSame⟩
    · exact ⟨hEntry, hSame⟩
    · exact absurd (upper.variants_congr hSame ▸ hNone) hUpper
  · rintro ⟨hEntry, hSame⟩
    exact ⟨Or.inl hEntry, hSame⟩

theorem variants_merge_lower
    {upper lower : OperatorMap}
    {symbol : String}
    (hUpper : upper.variants symbol = []) :
    (upper.merge lower).variants symbol = lower.variants symbol := by
  apply SortedEntries.eq_of_mem_iff (variants_sorted _ _)
    (variants_sorted _ _)
  intro entry
  rw [mem_variants_iff, mem_variants_iff, mem_merge_iff]
  constructor
  · rintro ⟨hEntry | ⟨hEntry, -⟩, hSame⟩
    · have hVariant : entry ∈ upper.variants symbol :=
        mem_variants_iff.2 ⟨hEntry, hSame⟩
      rw [hUpper] at hVariant
      cases hVariant
    · exact ⟨hEntry, hSame⟩
  · rintro ⟨hEntry, hSame⟩
    refine ⟨Or.inr ⟨hEntry, ?_⟩, hSame⟩
    rw [upper.variants_congr hSame, hUpper]

/-
  A lookup in merged maps goes to the upper one first.  There
  any spelling counts, before an exact one in the lower map.
-/
theorem find?_merge
    (upper lower : OperatorMap)
    (symbol : String) :
    (upper.merge lower).find? symbol =
      (upper.find? symbol).or (lower.find? symbol) := by
  by_cases hUpper : upper.variants symbol = []
  · rw [find?_of_variants_eq (variants_merge_lower hUpper),
      find?_eq_none hUpper, Option.none_or]
  · rcases exists_find? hUpper with ⟨operator, hFound⟩
    rw [find?_of_variants_eq (variants_merge_upper hUpper), hFound,
      Option.some_or]

end OperatorMap

end SqlCompiler
