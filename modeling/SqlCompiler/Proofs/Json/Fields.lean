import SqlCompiler.Proofs.Json.Record

/-
  This file looks at the members of an object by name.  When
  the fields of a record have different names, the order of
  the members does not matter: a field holds the value of the
  one member with its name, or else its default.

  Key definitions include:
    * `Json.valuesAt`
    * `Json.Slot.Holds`
    * `Json.Slots.Holds`
    * `Json.Slots.Writes`

  Key theorems include:
    * `Json.Reader.reads_record_iff`
    * `Json.Slots.holds_iff_writes`
-/

namespace SqlCompiler.Json

------------------------------------------------------------
-- Members by Name
------------------------------------------------------------

/- The values of the members with a name. -/
def valuesAt
    (name : String)
    (members : List (String × Json)) : List Json :=
  (members.filter fun member => member.1 = name).map Prod.snd

theorem valuesAt_cons_of_eq
    (name : String)
    (value : Json)
    (members : List (String × Json)) :
    valuesAt name ((name, value) :: members) =
      value :: valuesAt name members := by
  simp [valuesAt]

theorem valuesAt_cons_of_ne
    {name other : String}
    (hName : other ≠ name)
    (value : Json)
    (members : List (String × Json)) :
    valuesAt name ((other, value) :: members) =
      valuesAt name members := by
  simp [valuesAt, hName]

theorem valuesAt_append
    (name : String)
    (front back : List (String × Json)) :
    valuesAt name (front ++ back) =
      valuesAt name front ++ valuesAt name back := by
  simp [valuesAt]

theorem mem_valuesAt
    {name : String}
    {value : Json}
    {members : List (String × Json)} :
    value ∈ valuesAt name members ↔ (name, value) ∈ members := by
  simp [valuesAt]

theorem valuesAt_perm
    {members members' : List (String × Json)}
    (hPerm : members.Perm members')
    (name : String) :
    (valuesAt name members).Perm (valuesAt name members') :=
  (hPerm.filter _).map _

/- A member counts for its own name only. -/
theorem valuesAt_insert_of_eq
    (name : String)
    (value : Json)
    (front back : List (String × Json)) :
    valuesAt name (front ++ (name, value) :: back) =
      valuesAt name front ++ value :: valuesAt name back := by
  rw [valuesAt_append, valuesAt_cons_of_eq]

theorem valuesAt_insert_of_ne
    {name other : String}
    (hName : other ≠ name)
    (value : Json)
    (front back : List (String × Json)) :
    valuesAt name (front ++ (other, value) :: back) =
      valuesAt name (front ++ back) := by
  rw [valuesAt_append, valuesAt_append, valuesAt_cons_of_ne hName]

theorem valuesAt_eq_nil
    {name : String}
    {members : List (String × Json)}
    (hName : name ∉ members.map Prod.fst) :
    valuesAt name members = [] := by
  simp only [valuesAt, List.map_eq_nil_iff, List.filter_eq_nil_iff,
    decide_eq_true_eq]
  rintro member hMem rfl
  exact hName (List.mem_map_of_mem hMem)

/-
  The value of a field, given the values that were written
  under its name.  Without one there is the default, and more
  than one is too many.
-/
def Slot.Holds
    {α : Type}
    (slot : Slot α)
    (values : List Json)
    (a : α) : Prop :=
  match values with
  | [] => slot.default? = some a
  | [value] => slot.reader.Reads value a
  | _ :: _ :: _ => False

/- What the values under its name make of a field. -/
def Slot.Fills
    {α : Type}
    (slot : Slot α)
    (before : Option α)
    (values : List Json)
    (after : Option α) : Prop :=
  match before, values with
  | before, [] => after = before
  | none, [value] => ∃ a, slot.reader.Reads value a ∧ after = some a
  | _, _ => False

namespace Slot

variable {α : Type} {slot : Slot α} {before after : Option α}

@[simp]
theorem name_required
    (name : String)
    (reader : Reader α) :
    (required name reader).name = name :=
  rfl

@[simp]
theorem name_withDefault
    (name : String)
    (reader : Reader α)
    (value : α) :
    (withDefault name reader value).name = name :=
  rfl

theorem fills_nil_iff :
    slot.Fills before [] after ↔ after = before := by
  cases before <;> exact Iff.rfl

/- A field takes one value at most. -/
theorem fills_some_iff
    {a : α}
    {values : List Json} :
    slot.Fills (some a) values after ↔
      values = [] ∧ after = some a := by
  cases values <;> simp [Fills]

theorem fills_cons_iff
    {value : Json}
    {values : List Json} :
    slot.Fills before (value :: values) after ↔
      before = none ∧ values = [] ∧
        ∃ a, slot.reader.Reads value a ∧ after = some a := by
  cases before <;> cases values <;> simp [Fills]

/- A field that holds a value has no other one. -/
theorem holds_append_cons_iff
    {front back : List Json}
    {value : Json}
    {a : α} :
    slot.Holds (front ++ value :: back) a ↔
      front = [] ∧ back = [] ∧ slot.reader.Reads value a := by
  rcases front with _ | ⟨first, front⟩
  · cases back <;> simp [Holds]
  · cases front <;> simp [Holds]

theorem Holds.perm
    {values values' : List Json}
    {a : α}
    (hHolds : slot.Holds values a)
    (hPerm : values.Perm values') :
    slot.Holds values' a := by
  rcases values with _ | ⟨value, _ | _⟩
  · rwa [← hPerm.nil_eq]
  · rwa [← List.singleton_perm.1 hPerm]
  · cases hHolds

/- An empty field is filled first, or else takes its default. -/
theorem holds_iff_fills
    {a : α}
    {values : List Json} :
    slot.Holds values a ↔
      ∃ found,
        slot.Fills none values found ∧
          found.or slot.default? = some a := by
  cases values with
  | nil => simp [Holds, Fills]
  | cons value rest =>
      cases rest with
      | nil => simp [Holds, Fills]
      | cons next more => simp [Holds, Fills]

end Slot

namespace Slots

open Reader (Reads)

variable {α : Type} {αs : List Type}

@[simp]
def names : {αs : List Type} → Slots αs → List String
  | _, .nil => []
  | _, .cons slot slots => slot.name :: slots.names

/- Each field holds what is written under its name. -/
def Holds : {αs : List Type} →
    Slots αs → List (String × Json) → Row αs → Prop
  | _, .nil, _, _ => True
  | _, .cons slot slots, members, (a, others) =>
      slot.Holds (valuesAt slot.name members) a ∧
        slots.Holds members others

/- A field is filled by its own members and no others. -/
theorem takesAll_cons_iff
    {slot : Slot α}
    {slots : Slots αs}
    {before after : Option α}
    {others others' : Filled αs}
    {members : List (String × Json)} :
    (Slots.cons slot slots).TakesAll (before, others) members
        (after, others') ↔
      slot.Fills before (valuesAt slot.name members) after ∧
        slots.TakesAll others
          (members.filter fun member => member.1 ≠ slot.name)
          others' := by
  induction members generalizing before others with
  | nil =>
      have hTakes :
          (Slots.cons slot slots).TakesAll (before, others) []
              (after, others') ↔
            after = before ∧ others' = others :=
        Prod.mk.injEq after others' before others ▸ Iff.rfl
      exact hTakes.trans (and_congr_left' Slot.fills_nil_iff.symm)
  | cons first rest ih =>
      rcases first with ⟨name, value⟩
      by_cases hName : name = slot.name
      · subst hName
        have hFilter :
            ((slot.name, value) :: rest).filter
                (fun member => member.1 ≠ slot.name) =
              rest.filter fun member => member.1 ≠ slot.name := by
          simp
        rw [valuesAt_cons_of_eq, hFilter, Slot.fills_cons_iff]
        constructor
        · rintro ⟨⟨found, more⟩, hTakes, hRest⟩
          rw [Takes, if_pos rfl] at hTakes
          rcases hTakes with ⟨rfl, ⟨a, hReads, rfl⟩, rfl⟩
          rcases ih.1 hRest with ⟨hFills, hOthers⟩
          rcases Slot.fills_some_iff.1 hFills with ⟨hValues, hAfter⟩
          exact ⟨⟨rfl, hValues, a, hReads, hAfter⟩, hOthers⟩
        · rintro ⟨⟨rfl, hValues, a, hReads, rfl⟩, hOthers⟩
          refine ⟨(some a, others), ?_, ih.2 ⟨?_, hOthers⟩⟩
          · rw [Takes, if_pos rfl]
            exact ⟨rfl, ⟨a, hReads, rfl⟩, rfl⟩
          · exact Slot.fills_some_iff.2 ⟨hValues, rfl⟩
      · have hFilter :
            ((name, value) :: rest).filter
                (fun member => member.1 ≠ slot.name) =
              (name, value) ::
                rest.filter fun member => member.1 ≠ slot.name := by
          simp [hName]
        rw [valuesAt_cons_of_ne hName, hFilter]
        constructor
        · rintro ⟨⟨found, more⟩, hTakes, hRest⟩
          rw [Takes, if_neg hName] at hTakes
          rcases hTakes with ⟨rfl, hMore⟩
          rcases ih.1 hRest with ⟨hFills, hOthers⟩
          exact ⟨hFills, more, hMore, hOthers⟩
        · rintro ⟨hFills, more, hMore, hOthers⟩
          refine ⟨(before, more), ?_, ih.2 ⟨hFills, hOthers⟩⟩
          rw [Takes, if_neg hName]
          exact ⟨rfl, hMore⟩

/- Only the values under the names of fields count. -/
theorem holds_congr
    {slots : Slots αs}
    {members others : List (String × Json)}
    (hValues :
      ∀ name ∈ slots.names,
        valuesAt name members = valuesAt name others)
    {row : Row αs} :
    slots.Holds members row ↔ slots.Holds others row := by
  induction slots with
  | nil => exact Iff.rfl
  | @cons α αs slot slots ih =>
      rcases row with ⟨a, more⟩
      have hSlot := hValues slot.name List.mem_cons_self
      have hSlots : slots.Holds members more ↔ slots.Holds others more :=
        ih fun name hMem => hValues name (List.mem_cons_of_mem _ hMem)
      rw [Holds, Holds, hSlot, hSlots]

theorem valuesAt_filter_ne
    {name other : String}
    (hName : name ≠ other)
    (members : List (String × Json)) :
    valuesAt name (members.filter fun member => member.1 ≠ other) =
      valuesAt name members := by
  rw [valuesAt, List.filter_filter, valuesAt]
  congr 2
  funext member
  by_cases hSame : member.1 = name
  · simp [hSame, hName]
  · simp [hSame]

theorem takesAll_nil
    (members : List (String × Json)) :
    Slots.nil.TakesAll () members () := by
  induction members with
  | nil => rfl
  | cons first rest ih => exact ⟨(), trivial, ih⟩

theorem complete_cons_iff
    {slot : Slot α}
    {slots : Slots αs}
    {found : Option α}
    {others : Filled αs}
    {a : α}
    {more : Row αs} :
    (Slots.cons slot slots).complete (found, others) = .ok (a, more) ↔
      found.or slot.default? = some a ∧
        slots.complete others = .ok more := by
  rw [complete]
  cases found.or slot.default? with
  | none => simp
  | some b =>
      cases slots.complete others with
      | error fault => simp [Except.map]
      | ok row =>
          rw [Except.ok.injEq, Option.some.injEq]
          have hRow :
              (Except.ok (b, row) : Except Fault (α × Row αs)) =
                  .ok (a, more) ↔
                b = a ∧ row = more := by
            rw [Except.ok.injEq, Prod.mk.injEq]
          exact hRow

/-
  Taking all members fills the fields as their names say.  The
  members with the name of one field do not matter to the others.
-/
theorem exists_takesAll_iff_holds
    {slots : Slots αs}
    (hNames : slots.names.Nodup)
    {members : List (String × Json)}
    {row : Row αs} :
    (∃ filled,
        slots.TakesAll slots.empty members filled ∧
          slots.complete filled = .ok row) ↔
      slots.Holds members row := by
  induction slots generalizing members with
  | nil => exact ⟨fun _ => trivial, fun _ => ⟨(), takesAll_nil members, rfl⟩⟩
  | @cons α αs slot slots ih =>
      rcases row with ⟨a, more⟩
      rcases List.nodup_cons.1 hNames with ⟨hSlot, hSlots⟩
      have hOthers :
          slots.Holds
              (members.filter fun member => member.1 ≠ slot.name)
              more ↔
            slots.Holds members more :=
        holds_congr fun name hMem =>
          valuesAt_filter_ne (ne_of_mem_of_not_mem hMem hSlot) members
      rw [Holds, Slot.holds_iff_fills, ← hOthers, ← ih hSlots]
      constructor
      · rintro ⟨⟨found, others⟩, hTakes, hComplete⟩
        rcases takesAll_cons_iff.1 hTakes with ⟨hFills, hRest⟩
        rcases complete_cons_iff.1 hComplete with ⟨hFound, hMore⟩
        exact ⟨⟨found, hFills, hFound⟩, others, hRest, hMore⟩
      · rintro ⟨⟨found, hFills, hFound⟩, others, hRest, hMore⟩
        exact ⟨(found, others), takesAll_cons_iff.2 ⟨hFills, hRest⟩,
          complete_cons_iff.2 ⟨hFound, hMore⟩⟩

------------------------------------------------------------
-- Members in the Order of Declaration
------------------------------------------------------------

/- The members are the fields, all of them and in their order. -/
def Writes : {αs : List Type} →
    Slots αs → List (String × Json) → Row αs → Prop
  | _, .nil, members, _ => members = []
  | _, .cons _ _, [], _ => False
  | _, .cons slot slots, (name, value) :: rest, (a, others) =>
      name = slot.name ∧ Reads slot.reader value a ∧
        slots.Writes rest others

theorem Writes.map_fst
    {slots : Slots αs}
    {members : List (String × Json)}
    {row : Row αs}
    (hWrites : slots.Writes members row) :
    members.map Prod.fst = slots.names := by
  induction slots generalizing members with
  | nil =>
      rw [Writes] at hWrites
      rw [hWrites]
      rfl
  | @cons α αs slot slots ih =>
      cases members with
      | nil => cases hWrites
      | cons first rest =>
          rcases hWrites with ⟨hName, -, hRest⟩
          rw [List.map_cons, ih hRest, hName, names]

/- As the only members, the fields can be told by their names. -/
theorem holds_iff_writes
    {slots : Slots αs}
    (hNames : slots.names.Nodup)
    {members : List (String × Json)}
    (hMembers : members.map Prod.fst = slots.names)
    {row : Row αs} :
    slots.Holds members row ↔ slots.Writes members row := by
  induction slots generalizing members with
  | nil =>
      have hEmpty : members = [] := List.map_eq_nil_iff.1 hMembers
      exact ⟨fun _ => hEmpty, fun _ => trivial⟩
  | @cons α αs slot slots ih =>
      rcases row with ⟨a, more⟩
      rcases List.nodup_cons.1 hNames with ⟨hSlot, hSlots⟩
      cases members with
      | nil => cases hMembers
      | cons first rest =>
          rcases first with ⟨name, value⟩
          rcases List.cons.inj hMembers with ⟨rfl, hRest⟩
          have hOthers :
              slots.Holds ((slot.name, value) :: rest) more ↔
                slots.Holds rest more :=
            holds_congr fun other hMem =>
              valuesAt_cons_of_ne (ne_of_mem_of_not_mem hMem hSlot).symm
                value rest
          have hValue :
              valuesAt slot.name ((slot.name, value) :: rest) =
                [value] := by
            rw [valuesAt_cons_of_eq,
              valuesAt_eq_nil (hRest ▸ hSlot : _ ∉ rest.map Prod.fst)]
          rw [Holds, hValue, hOthers, ih hSlots hRest, Writes]
          exact ⟨fun hHolds => ⟨rfl, hHolds⟩, And.right⟩

/- Without their names, the fields make a list. -/
theorem Writes.lines
    {slots : Slots αs}
    {members : List (String × Json)}
    {row : Row αs}
    (hWrites : slots.Writes members row) :
    slots.Lines (members.map Prod.snd) row := by
  induction slots generalizing members with
  | nil =>
      rw [Writes] at hWrites
      rw [hWrites]
      rfl
  | @cons α αs slot slots ih =>
      cases members with
      | nil => cases hWrites
      | cons first rest =>
          rcases row with ⟨a, more⟩
          rcases hWrites with ⟨-, hReads, hRest⟩
          exact ⟨hReads, ih hRest⟩

end Slots

------------------------------------------------------------
-- Records
------------------------------------------------------------

namespace Reader

variable {αs : List Type} {label : String} {slots : Slots αs}

/-
  A record is written as an object whose fields are told by
  name, or as the list of its fields.
-/
theorem reads_record_iff
    [RegularSlots slots]
    (hNames : slots.names.Nodup)
    {value : Json}
    {row : Row αs} :
    Reads (record label slots) value row ↔
      (∃ members, value = .object members ∧ slots.Holds members row) ∨
        ∃ items, value = .list items ∧ slots.Lines items row := by
  rw [(means_record label slots).reads_iff, RecordMeans]
  apply or_congr_left
  constructor
  · rintro ⟨members, filled, hValue, hTakes, hComplete⟩
    exact ⟨members, hValue,
      (Slots.exists_takesAll_iff_holds hNames).1
        ⟨filled, hTakes, hComplete⟩⟩
  · rintro ⟨members, hValue, hHolds⟩
    rcases (Slots.exists_takesAll_iff_holds hNames).2 hHolds with
      ⟨filled, hTakes, hComplete⟩
    exact ⟨members, filled, hValue, hTakes, hComplete⟩

theorem reads_record_object_iff
    [RegularSlots slots]
    (hNames : slots.names.Nodup)
    {members : List (String × Json)}
    {row : Row αs} :
    Reads (record label slots) (.object members) row ↔
      slots.Holds members row := by
  simp [reads_record_iff hNames]

theorem reads_record_list_iff
    [RegularSlots slots]
    (hNames : slots.names.Nodup)
    {items : List Json}
    {row : Row αs} :
    Reads (record label slots) (.list items) row ↔
      slots.Lines items row := by
  simp [reads_record_iff hNames]

/- An object of all fields in their order is a record. -/
theorem reads_record_of_writes
    [RegularSlots slots]
    (hNames : slots.names.Nodup)
    {members : List (String × Json)}
    {row : Row αs}
    (hWrites : slots.Writes members row) :
    Reads (record label slots) (.object members) row :=
  (reads_record_object_iff hNames).2
    ((Slots.holds_iff_writes hNames hWrites.map_fst).2 hWrites)

end Reader

end SqlCompiler.Json
