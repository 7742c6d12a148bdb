import SqlCompiler.Proofs.Document.RoundTrip
import SqlCompiler.Proofs.Json.Entries
import SqlCompiler.Proofs.Operator.Validation

/-
  This file reads tables of operators back from the JSON that was
  written for them.  Writing knows nothing of validity: a table
  that cannot be used is written all the same, and it is refused
  only after it was read.

  Key theorems include:
    * `OperatorMap.reads_toJson`
    * `OperatorTable.reads_toJson`
    * `OperatorTable.parse_undoes_write`
-/

namespace SqlCompiler

open Json.Reader

------------------------------------------------------------
-- Operators
------------------------------------------------------------

namespace Operator

instance : Regular reader := by
  unfold reader
  infer_instance

theorem reads_toJson
    (operator : Operator) :
    Reads reader operator.toJson operator :=
  reads_fields (operator.text, operator.precedence, ()) rfl (by simp)
    ⟨rfl, reads_string operator.text, rfl,
      reads_uint8 operator.precedence, rfl⟩

theorem wellFormed_toJson
    (operator : Operator) :
    operator.toJson.WellFormed := by
  simp [toJson]

theorem nesting_toJson
    (operator : Operator) :
    operator.toJson.nesting ≤ 1 := by
  apply Json.nesting_object_le
  simp [Json.integer, Json.nesting]

end Operator

------------------------------------------------------------
-- Maps
------------------------------------------------------------

namespace OperatorMap

instance : Regular reader := by
  unfold reader
  infer_instance

/-
  The entries are read one by one.  Their symbols differ, so that
  none of them replaces another one.
-/
theorem reads_toJson
    (map : OperatorMap) :
    Reads reader map.toJson map := by
  have hEntries :
      Reads (Json.Reader.entries Operator.reader) map.toJson
        map.entries := by
    apply (means_entries Operator.reader).complete
    refine ⟨_, rfl, ?_⟩
    rw [List.forall₂_map_left_iff]
    apply List.forall₂_same.2
    intro entry _
    exact ⟨rfl, entry.2.reads_toJson⟩
  have hReads : Reads reader map.toJson (ofList map.entries) :=
    reads_map hEntries
  rwa [ofList_entries] at hReads

theorem wellFormed_toJson
    (map : OperatorMap) :
    map.toJson.WellFormed := by
  apply Json.WellFormed.object
  intro member hMem
  rcases List.mem_map.1 hMem with ⟨entry, -, rfl⟩
  exact entry.2.wellFormed_toJson

theorem nesting_toJson
    (map : OperatorMap) :
    map.toJson.nesting ≤ 2 := by
  apply Json.nesting_object_le
  intro member hMem
  rcases List.mem_map.1 hMem with ⟨entry, -, rfl⟩
  exact entry.2.nesting_toJson

end OperatorMap

------------------------------------------------------------
-- Tables
------------------------------------------------------------

namespace OperatorTable

theorem reads_toJson
    (table : OperatorTable) :
    Reads reader table.toJson table :=
  reads_fields (table.name, table.binary, table.unary, ()) rfl (by simp)
    ⟨rfl, reads_string table.name, rfl, table.binary.reads_toJson, rfl,
      table.unary.reads_toJson, rfl⟩

theorem wellFormed_toJson
    (table : OperatorTable) :
    table.toJson.WellFormed := by
  simp [toJson, OperatorMap.wellFormed_toJson]

theorem nesting_toJson
    (table : OperatorTable) :
    table.toJson.nesting ≤ 3 := by
  apply Json.nesting_object_le
  simp [Json.nesting, OperatorMap.nesting_toJson]

/- Whatever a table holds, its text holds the same table. -/
theorem read_compact_toJson
    (table : OperatorTable) :
    Json.read reader table.toJson.compact = .ok table := by
  have hNesting : table.toJson.nesting ≤ Json.nestingLimit :=
    Nat.le_trans table.nesting_toJson (by decide)
  exact Json.read_compact_of_reads table.wellFormed_toJson hNesting
    table.reads_toJson

/- Validation complains about entries, never about a text. -/
theorem validate_ne_unreadable
    (table : OperatorTable)
    (fault : Json.Fault) :
    table.validate ≠ .error (.unreadable fault) := by
  intro hError
  rcases validate_eq_error_iff.1 hError with ⟨entry, -, hComplaint⟩
  unfold complaint at hComplaint
  split at hComplaint
  · cases hComplaint
  · cases hComplaint

/-
  Tables survive a trip through JSON.  The text of a table is read
  as that table, with the verdict of its validation: the table
  itself if it is valid, and otherwise the same error.  The text
  as such is never at fault.
-/
theorem parse_undoes_write
    (table : OperatorTable) :
    (parse table.toJson.compact =
      match table.validate with
      | .ok () => .ok table
      | .error error => .error error) ∧
      ∀ fault,
        parse table.toJson.compact ≠ .error (.unreadable fault) := by
  have hParse :
      parse table.toJson.compact =
        match table.validate with
        | .ok () => .ok table
        | .error error => .error error := by
    unfold parse
    rw [table.read_compact_toJson]
    dsimp only
    cases table.validate <;> rfl
  refine ⟨hParse, ?_⟩
  intro fault hFault
  rw [hParse] at hFault
  cases hValid : table.validate with
  | ok _ =>
      rw [hValid] at hFault
      cases hFault
  | error error =>
      rw [hValid] at hFault
      cases hFault
      exact table.validate_ne_unreadable fault hValid

end OperatorTable

end SqlCompiler
