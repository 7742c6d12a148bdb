import SqlCompiler.Proofs.Dialect
import SqlCompiler.Proofs.Operator.Layering
import SqlCompiler.Proofs.Text.ByteOrder

/-
  This file says which tables of operators are accepted.  Every
  symbol and every text needs a character that is not white space,
  and the first entry without one is reported.  So lookups in the
  tables that were read from texts never find a blank operator,
  however many of them are stacked.

  Key definitions include:
    * `Text.Visible`
    * `Dialect.Usable`
    * `OperatorMap.FirstUnusable`
    * `OperatorTable.FirstUnusable`
    * `OperatorTable.complaint`

  Key theorems include:
    * `OperatorTable.validate_eq_ok_iff`
    * `OperatorTable.validate_eq_error_iff`
    * `OperatorTable.allTexts_stackedOver`
    * `OperatorTable.validate_accepts_usable`
-/

namespace SqlCompiler

------------------------------------------------------------
-- Usable Entries
------------------------------------------------------------

/- A text with a character that is not white space. -/
def Text.Visible
    (text : String) : Prop :=
  ∃ c ∈ text.toList, Text.isWhiteSpace c = false

theorem Text.visible_iff
    {text : String} :
    Text.Visible text ↔ Text.isBlank text = false :=
  (Text.isBlank_eq_false_iff text).symm

instance
    (text : String) :
    Decidable (Text.Visible text) :=
  decidable_of_iff (Text.isBlank text = false) Text.visible_iff.symm

/- An entry whose symbol and whose text are visible. -/
def Dialect.Usable
    (entry : Dialect.Entry) : Prop :=
  Text.Visible entry.1 ∧ Text.Visible entry.2.text

instance
    (entry : Dialect.Entry) :
    Decidable (Dialect.Usable entry) :=
  inferInstanceAs
    (Decidable (Text.Visible entry.1 ∧ Text.Visible entry.2.text))

/-
  The unusable entry of a map that comes first when its symbols
  are ordered by their bytes.
-/
structure OperatorMap.FirstUnusable
    (map : OperatorMap)
    (entry : Dialect.Entry) : Prop where
  mem : entry ∈ map.entries
  unusable : ¬ Dialect.Usable entry
  first :
    ∀ other ∈ map.entries,
      ¬ Dialect.Usable other →
        other = entry ∨ Text.bytes entry.1 < Text.bytes other.1

namespace OperatorTable

/- The binary entries come before the unary ones. -/
def FirstUnusable
    (table : OperatorTable)
    (entry : Dialect.Entry) : Prop :=
  table.binary.FirstUnusable entry ∨
    (∀ other ∈ table.binary.entries, Dialect.Usable other) ∧
      table.unary.FirstUnusable entry

/- What is said of an unusable entry. -/
def complaint
    (table : OperatorTable)
    (entry : Dialect.Entry) : TableError :=
  if Text.Visible entry.1 then
    .blankText table.name entry.1
  else
    .blankSymbol table.name

variable {table : OperatorTable} {entry : Dialect.Entry}

theorem entryError?_eq_none_iff :
    table.entryError? entry = none ↔ Dialect.Usable entry := by
  unfold entryError? Dialect.Usable
  rw [Text.visible_iff, Text.visible_iff]
  cases Text.isBlank entry.1 with
  | true => simp
  | false => cases Text.isBlank entry.2.text <;> simp

theorem entryError?_eq_some_iff
    {error : TableError} :
    table.entryError? entry = some error ↔
      ¬ Dialect.Usable entry ∧ table.complaint entry = error := by
  unfold entryError? Dialect.Usable complaint
  simp only [Text.visible_iff]
  cases Text.isBlank entry.1 with
  | true => simp
  | false => cases Text.isBlank entry.2.text <;> simp

end OperatorTable

------------------------------------------------------------
-- The First Unusable Entry
------------------------------------------------------------

namespace OperatorMap

/- The entries of a map stand in the byte order of their symbols. -/
theorem entries_sorted_by_bytes
    (map : OperatorMap) :
    map.entries.Pairwise fun a b => Text.bytes a.1 < Text.bytes b.1 :=
  map.sorted.imp Text.bytes_lt_of_lt

/- The first one in the list is the first one by bytes. -/
theorem firstUnusable_iff
    {map : OperatorMap}
    {entry : Dialect.Entry} :
    map.FirstUnusable entry ↔
      ¬ Dialect.Usable entry ∧
        ∃ front back,
          map.entries = front ++ entry :: back ∧
            ∀ other ∈ front, Dialect.Usable other := by
  constructor
  · intro hFirst
    refine ⟨hFirst.unusable, ?_⟩
    rcases List.append_of_mem hFirst.mem with ⟨front, back, hEntries⟩
    refine ⟨front, back, hEntries, ?_⟩
    have hSorted := map.entries_sorted_by_bytes
    rw [hEntries] at hSorted
    intro other hOther
    have hBefore : Text.bytes other.1 < Text.bytes entry.1 :=
      (List.pairwise_append.1 hSorted).2.2 other hOther entry
        List.mem_cons_self
    by_contra hUnusable
    have hMem : other ∈ map.entries := by
      rw [hEntries]
      exact List.mem_append_left _ hOther
    rcases hFirst.first other hMem hUnusable with rfl | hAfter
    · exact List.lt_irrefl _ hBefore
    · exact List.lt_asymm hBefore hAfter
  · rintro ⟨hUnusable, front, back, hEntries, hFront⟩
    refine ⟨?_, hUnusable, ?_⟩
    · rw [hEntries]
      exact List.mem_append_right _ List.mem_cons_self
    · have hSorted := map.entries_sorted_by_bytes
      rw [hEntries] at hSorted ⊢
      have hBack := (List.pairwise_append.1 hSorted).2.1
      intro other hOther hNot
      rcases List.mem_append.1 hOther with hBefore | hRest
      · exact absurd (hFront other hBefore) hNot
      · rcases List.mem_cons.1 hRest with hSame | hAfter
        · exact .inl hSame
        · exact .inr ((List.pairwise_cons.1 hBack).1 other hAfter)

/- A search through the map reports its first unusable entry. -/
theorem findSome?_eq_some_iff
    {table : OperatorTable}
    {map : OperatorMap}
    {error : TableError} :
    map.entries.findSome? table.entryError? = some error ↔
      ∃ entry,
        map.FirstUnusable entry ∧ table.complaint entry = error := by
  rw [List.findSome?_eq_some_iff]
  constructor
  · rintro ⟨front, entry, back, hEntries, hError, hFront⟩
    rcases OperatorTable.entryError?_eq_some_iff.1 hError with
      ⟨hUnusable, hComplaint⟩
    refine ⟨entry, firstUnusable_iff.2 ⟨hUnusable, front, back,
      hEntries, ?_⟩, hComplaint⟩
    intro other hOther
    exact OperatorTable.entryError?_eq_none_iff.1 (hFront other hOther)
  · rintro ⟨entry, hFirst, hComplaint⟩
    rcases firstUnusable_iff.1 hFirst with
      ⟨hUnusable, front, back, hEntries, hFront⟩
    refine ⟨front, entry, back, hEntries,
      OperatorTable.entryError?_eq_some_iff.2 ⟨hUnusable, hComplaint⟩, ?_⟩
    intro other hOther
    exact OperatorTable.entryError?_eq_none_iff.2 (hFront other hOther)

end OperatorMap

namespace OperatorTable

variable {table : OperatorTable}

theorem validate_eq_ok_iff :
    table.validate = .ok () ↔
      ∀ entry ∈ table.binary.entries ++ table.unary.entries,
        Dialect.Usable entry := by
  have hNone :
      table.validate = .ok () ↔
        (table.binary.entries ++ table.unary.entries).findSome?
            table.entryError? =
          none := by
    unfold validate
    dsimp only
    split
    · rename_i error hFound
      simp [hFound]
    · rename_i hFound
      simp [hFound]
  rw [hNone, List.findSome?_eq_none_iff]
  simp only [entryError?_eq_none_iff]

theorem validate_eq_error_iff
    {error : TableError} :
    table.validate = .error error ↔
      ∃ entry,
        table.FirstUnusable entry ∧ table.complaint entry = error := by
  have hSome :
      table.validate = .error error ↔
        (table.binary.entries ++ table.unary.entries).findSome?
            table.entryError? =
          some error := by
    unfold validate
    dsimp only
    split
    · rename_i found hFound
      simp [hFound]
    · rename_i hFound
      simp [hFound]
  rw [hSome, List.findSome?_append, Option.or_eq_some_iff,
    OperatorMap.findSome?_eq_some_iff, OperatorMap.findSome?_eq_some_iff,
    List.findSome?_eq_none_iff]
  simp only [entryError?_eq_none_iff, FirstUnusable]
  constructor
  · rintro (⟨entry, hFirst, hComplaint⟩ |
      ⟨hBinary, entry, hFirst, hComplaint⟩)
    · exact ⟨entry, .inl hFirst, hComplaint⟩
    · exact ⟨entry, .inr ⟨hBinary, hFirst⟩, hComplaint⟩
  · rintro ⟨entry, hFirst | ⟨hBinary, hFirst⟩, hComplaint⟩
    · exact .inl ⟨entry, hFirst, hComplaint⟩
    · exact .inr ⟨hBinary, entry, hFirst, hComplaint⟩

------------------------------------------------------------
-- Lookups in Accepted Tables
------------------------------------------------------------

/- What is read from a text has been validated. -/
theorem validate_of_parse
    {text : String}
    (hParse : parse text = .ok table) :
    table.validate = .ok () := by
  unfold parse at hParse
  split at hParse
  · cases hParse
  · split at hParse
    · cases hParse
    · rename_i hValid
      cases hParse
      exact hValid

end OperatorTable

/- A lookup finds the operator of an entry, by either stage. -/
theorem OperatorMap.exists_entry_of_find?
    {map : OperatorMap}
    {symbol : String}
    {operator : Operator}
    (hFound : map.find? symbol = some operator) :
    ∃ entry ∈ map.entries, entry.2 = operator := by
  unfold find? get? at hFound
  rcases Option.or_eq_some_iff.1 hFound with hExact | ⟨-, hVariant⟩
  · rcases Option.map_eq_some_iff.1 hExact with ⟨entry, hEntry, hOperator⟩
    exact ⟨entry, List.mem_of_find?_eq_some hEntry, hOperator⟩
  · rcases Dialect.exists_entry_of_lookup? hVariant with
      ⟨entry, hEntry, -, hOperator⟩
    exact ⟨entry, hEntry, hOperator⟩

namespace OperatorTable

variable {table : OperatorTable}

theorem allTexts_toDialect
    (hValid : table.validate = .ok ()) :
    table.toDialect.AllTexts Text.Visible := by
  have hUsable := validate_eq_ok_iff.1 hValid
  constructor
  · intro symbol operator hFound
    rcases OperatorMap.exists_entry_of_find? hFound with
      ⟨entry, hEntry, rfl⟩
    exact (hUsable entry (List.mem_append_left _ hEntry)).2
  · intro symbol operator hFound
    rcases OperatorMap.exists_entry_of_find? hFound with
      ⟨entry, hEntry, rfl⟩
    exact (hUsable entry (List.mem_append_right _ hEntry)).2

/- A layer answers from its table or else from its base. -/
theorem allTexts_layeredOver
    {property : String → Prop}
    {base : Dialect}
    (hTable : table.toDialect.AllTexts property)
    (hBase : base.AllTexts property) :
    (table.layeredOver base).AllTexts property := by
  constructor
  · intro symbol operator hFound
    rcases Option.or_eq_some_iff.1 hFound with hOwn | ⟨-, hBelow⟩
    · exact hTable.binary symbol operator hOwn
    · exact hBase.binary symbol operator hBelow
  · intro symbol operator hFound
    rcases Option.or_eq_some_iff.1 hFound with hOwn | ⟨-, hBelow⟩
    · exact hTable.unary symbol operator hOwn
    · exact hBase.unary symbol operator hBelow

theorem allTexts_stackedOver
    {property : String → Prop}
    {tables : List OperatorTable}
    {base : Dialect}
    (hTables : ∀ table ∈ tables, table.toDialect.AllTexts property)
    (hBase : base.AllTexts property) :
    (stackedOver tables base).AllTexts property := by
  induction tables with
  | nil => exact hBase
  | cons table rest ih =>
      have hRest :=
        ih fun other hMem => hTables other (List.mem_cons_of_mem _ hMem)
      exact allTexts_layeredOver (hTables table List.mem_cons_self) hRest

end OperatorTable

theorem Dialect.allTexts_of_named?
    {name : String}
    {dialect : Dialect}
    (hNamed : named? name = some dialect) :
    dialect.AllTexts Text.Visible := by
  rcases BuiltIn.exists_of_named? hNamed with ⟨builtIn, rfl⟩
  apply builtIn.allTexts_dialect
  · cases builtIn <;> decide
  · decide

namespace OperatorTable

/-
  Validation accepts exactly the usable tables.  Otherwise it
  names the first entry that is not usable, the binary ones before
  the unary ones and both in the byte order of their symbols.  So
  an operator that is found in tables read from texts, alone or
  stacked over a built-in dialect, is never blank.
-/
theorem validate_accepts_usable :
    (∀ table : OperatorTable,
      (table.validate = .ok () ↔
        ∀ entry ∈ table.binary.entries ++ table.unary.entries,
          Dialect.Usable entry) ∧
        ∀ error,
          table.validate = .error error ↔
            ∃ entry,
              table.FirstUnusable entry ∧
                table.complaint entry = error) ∧
      ∀ tables : List OperatorTable,
        (∀ table ∈ tables, ∃ text, parse text = .ok table) →
          (∀ table ∈ tables, table.toDialect.AllTexts Text.Visible) ∧
            ∀ name base,
              Dialect.named? name = some base →
                (stackedOver tables base).AllTexts Text.Visible := by
  refine ⟨fun table => ⟨validate_eq_ok_iff, fun error =>
    validate_eq_error_iff⟩, ?_⟩
  intro tables hTables
  have hTexts :
      ∀ table ∈ tables, table.toDialect.AllTexts Text.Visible := by
    intro table hMem
    rcases hTables table hMem with ⟨text, hParse⟩
    exact allTexts_toDialect (validate_of_parse hParse)
  refine ⟨hTexts, ?_⟩
  intro name base hNamed
  exact allTexts_stackedOver hTexts (Dialect.allTexts_of_named? hNamed)

/-
  A capital letter comes before the small one that was added
  earlier, and before a unary operator without a symbol.  A table
  that was read is stacked twice.
-/
theorem validate_accepts_usable_at_blanks :
    let blank : OperatorTable :=
      (((OperatorTable.mk "t" .empty .empty).withBinary
        "a" "\u2003" 1).withBinary "B" "" 2).withUnary " " "-"
    let read : OperatorTable :=
      (OperatorTable.mk "custom" .empty .empty).withUnary "!" "NO"
    blank.validate = .error (.blankText "t" "B") ∧
      parse
          "\x7b\"unary\":\x7b\"!\":\x7b\"text\":\"NO\"\x7d\x7d\x7d" =
        .ok read ∧
      Dialect.named? "SQLite" = some .sqlite ∧
      (stackedOver [read, read] .sqlite).AllTexts Text.Visible := by
  intro blank read
  have hFirst : blank.FirstUnusable ("B", ⟨"", 2⟩) := by
    have hEntries :
        blank.binary.entries =
          [("B", ⟨"", 2⟩), ("a", ⟨"\u2003", 1⟩)] := by
      decide
    refine .inl ⟨by decide, by decide, ?_⟩
    rw [hEntries]
    intro other hOther _
    rcases List.mem_pair.1 hOther with rfl | rfl
    · exact .inl rfl
    · exact .inr (Text.bytes_lt_of_lt (by decide))
  have hRead :
      parse
          "\x7b\"unary\":\x7b\"!\":\x7b\"text\":\"NO\"\x7d\x7d\x7d" =
        .ok read := by
    decide +kernel
  have hTables : ∀ table ∈ [read, read], ∃ text, parse text = .ok table := by
    intro table hMem
    have hSame : table = read := by
      simpa using hMem
    exact ⟨_, hSame ▸ hRead⟩
  have hNamed : Dialect.named? "SQLite" = some .sqlite := by
    rfl
  exact ⟨((validate_accepts_usable.1 blank).2 _).2 ⟨_, hFirst, by decide⟩,
    hRead, hNamed,
    (validate_accepts_usable.2 _ hTables).2 _ _ hNamed⟩

end OperatorTable

end SqlCompiler
