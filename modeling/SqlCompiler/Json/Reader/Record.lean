import SqlCompiler.Json.Reader.Skip

/-
  This file reads records.  A record is written as an object
  whose members may come in any order, or as the list of its
  fields.  Members with unknown keys are passed over, and a
  field with a default may be left out.

  Key definitions include:
    * `Json.Slot`
    * `Json.Slots`
    * `Json.Row`
    * `Json.Filled`
    * `Json.Slots.member`
    * `Json.Slots.memberValue`
    * `Json.Slots.complete`
    * `Json.Slots.positional`
    * `Json.Reader.record`
-/

namespace SqlCompiler.Json

------------------------------------------------------------
-- Fields
------------------------------------------------------------

/- A field: its key, its reader and its default, if any. -/
structure Slot (α : Type) where
  name : String
  reader : Reader α
  default? : Option α

/- A field that has to be present. -/
def Slot.required
    {α : Type}
    (name : String)
    (reader : Reader α) : Slot α :=
  ⟨name, reader, none⟩

/- A field that may be left out. -/
def Slot.withDefault
    {α : Type}
    (name : String)
    (reader : Reader α)
    (value : α) : Slot α :=
  ⟨name, reader, some value⟩

/- The fields of a record in the order of their declaration. -/
inductive Slots : List Type → Type 1 where
  | nil : Slots []
  | cons {α : Type} {αs : List Type}
      (slot : Slot α) (slots : Slots αs) : Slots (α :: αs)

/- The values of all fields. -/
def Row : List Type → Type
  | [] => Unit
  | α :: αs => α × Row αs

/- The values of the fields that were found so far. -/
def Filled : List Type → Type
  | [] => Unit
  | α :: αs => Option α × Filled αs

namespace Slots

/- The number of fields. -/
def count : {αs : List Type} → Slots αs → Nat
  | _, .nil => 0
  | _, .cons _ slots => slots.count + 1

/- No field is filled. -/
def empty : {αs : List Type} → Slots αs → Filled αs
  | _, .nil => ()
  | _, .cons _ slots => (none, slots.empty)

------------------------------------------------------------
-- Objects
------------------------------------------------------------

/-
  The reader of the member with the given key, none when no
  field has that key.  A field that is filled already is a
  duplicate, and this shows before the colon is read.
-/
def member : {αs : List Type} →
    Slots αs → Filled αs → String → Option (Reader (Filled αs))
  | _, .nil, _, _ => none
  | _, .cons slot slots, (value, values), name =>
      if name = slot.name then
        some <|
          if value.isSome then
            Reader.fail (.duplicateField slot.name)
          else do
            Reader.colon
            let value ← slot.reader
            pure (some value, values)
      else
        (slots.member values name).map fun reader => do
          let values ← reader
          pure (value, values)

/-
  The value of a member behind its key, with the colon in
  front.  The value of an unknown member is skipped.
-/
def memberValue
    {αs : List Type}
    (slots : Slots αs)
    (filled : Filled αs)
    (name : String) : Reader (Filled αs) :=
  match slots.member filled name with
  | some reader => reader
  | none => do
      Reader.colon
      Reader.skip
      pure filled

/- The members up to the closing brace. -/
def members
    {αs : List Type}
    (slots : Slots αs) :
    Nat → Bool → Filled αs → Reader (Filled αs)
  | 0, _, _ => Reader.fail (.ended .object)
  | fuel + 1, isFirst, filled => do
      match ← Reader.memberKey isFirst with
      | none => pure filled
      | some name =>
          let filled ← slots.memberValue filled name
          slots.members fuel false filled

/-
  The values of all fields, defaults included.  The first
  field without a value is reported as missing.
-/
def complete : {αs : List Type} →
    Slots αs → Filled αs → Except Fault (Row αs)
  | _, .nil, _ => .ok ()
  | _, .cons slot slots, (value, values) =>
      match value.or slot.default? with
      | none => .error (.missingField slot.name)
      | some value =>
          (slots.complete values).map fun values => (value, values)

------------------------------------------------------------
-- Lists
------------------------------------------------------------

/-
  The fields by position.  Once the closing bracket is seen,
  the remaining fields take their defaults; the first one
  without a default makes the list too short.
-/
def positional
    (expected : String) : {αs : List Type} →
    Slots αs → Nat → Bool → Reader (Row αs)
  | _, .nil, _, _ => pure ()
  | _, .cons slot slots, index, isFirst => do
      match ← Reader.element slot.reader isFirst with
      | some value =>
          let values ← slots.positional expected (index + 1) false
          pure (value, values)
      | none =>
          match slot.default? with
          | none => Reader.fail (.wrongLength index expected)
          | some value =>
              let values ←
                slots.positional expected (index + 1) isFirst
              pure (value, values)

end Slots

------------------------------------------------------------
-- Records
------------------------------------------------------------

/- A record's label followed by its number of fields. -/
def withElements
    (label : String)
    (count : Nat) : String :=
  label ++ " with " ++ toString count ++
    (if count = 1 then " element" else " elements")

/- A record in either form. -/
def Reader.record
    {αs : List Type}
    (label : String)
    (slots : Slots αs) : Reader (Row αs) :=
  fun room tokens =>
    match tokens with
    | [] => .error (.ended .value)
    | .beginList :: rest =>
        (do
          let expected := withElements label slots.count
          let row ← nested (slots.positional expected 0 true)
          endOfList
          pure row : Reader (Row αs)) room rest
    | .beginObject :: rest =>
        (do
          let filled ←
            nested (slots.members rest.length true slots.empty)
          let row ← lift (slots.complete filled)
          endOfObject
          pure row : Reader (Row αs)) room rest
    | token :: _ => .error (token.mismatch label)

end SqlCompiler.Json
