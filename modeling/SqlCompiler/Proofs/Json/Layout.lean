import Mathlib.Data.List.Nodup
import Mathlib.Logic.Relation
import SqlCompiler.Proofs.Json.Fields

/-
  This file says which changes of a JSON value are only a
  matter of layout.  The shape of a value tells where records
  are; there members may change places, unknown members may be
  put in, defaults may be written or left out, and a complete
  object may become the list of its fields.  What a reader of
  that shape takes a value for does not change.

  Key definitions include:
    * `Json.Shape`
    * `Json.Edit`
    * `Json.Edits`
    * `Json.Reader.Agrees`
    * `Json.Reader.VariantsAgree`
    * `Json.Reader.FieldsAgree`

  Key theorems include:
    * `Json.Edit.wellFormed`
    * `Json.Reader.agrees_record`
    * `Json.Reader.agrees_variant`
    * `Json.read_compact_of_edits`
-/

namespace SqlCompiler.Json

------------------------------------------------------------
-- Shapes
------------------------------------------------------------

/- What stands for a field that is left out, if anything. -/
inductive Default where
  | none
  | null
  | emptyList
  | bare (name : String)

/- The ways to write a default. -/
def Default.values : Default → List Json
  | .none => []
  | .null => [.null]
  | .emptyList => [.list []]
  | .bare name => [.string name, .tagged name .null]

/- A field of a record: its name, its default and its shape. -/
structure Field (σ : Type) where
  name : String
  default : Default
  shape : σ

/-
  Where records are in a value.  A plain value has none; a
  named shape is looked up in a grammar.
-/
inductive Shape (ν : Type) where
  | plain
  | named (name : ν)
  | optional (content : Shape ν)
  | list (item : Shape ν)
  | variants (contents : List (String × Shape ν))
  | record (fields : List (Field (Shape ν)))

------------------------------------------------------------
-- Edits
------------------------------------------------------------

/-
  One change to the layout of a value, in a record at any
  depth.
-/
inductive Edit
    {ν : Type}
    (grammar : ν → Shape ν) : Shape ν → Json → Json → Prop where
  | named {name : ν} {value value' : Json}
      (hEdit : Edit grammar (grammar name) value value') :
      Edit grammar (.named name) value value'
  | optional {content : Shape ν} {value value' : Json}
      (hEdit : Edit grammar content value value') :
      Edit grammar (.optional content) value value'
  | item {item : Shape ν} {value value' : Json}
      (front back : List Json)
      (hEdit : Edit grammar item value value') :
      Edit grammar (.list item)
        (.list (front ++ value :: back))
        (.list (front ++ value' :: back))
  | content {contents : List (String × Shape ν)} {name : String}
      {content : Shape ν} {value value' : Json}
      (hName : contents.lookup name = some content)
      (hEdit : Edit grammar content value value') :
      Edit grammar (.variants contents)
        (.tagged name value) (.tagged name value')
  | member {fields : List (Field (Shape ν))}
      {field : Field (Shape ν)} {value value' : Json}
      (hField : field ∈ fields)
      (front back : List (String × Json))
      (hEdit : Edit grammar field.shape value value') :
      Edit grammar (.record fields)
        (.object (front ++ (field.name, value) :: back))
        (.object (front ++ (field.name, value') :: back))
  | position {fields : List (Field (Shape ν))}
      {field : Field (Shape ν)} {value value' : Json}
      {front : List Json}
      (hField : fields[front.length]? = some field)
      (back : List Json)
      (hEdit : Edit grammar field.shape value value') :
      Edit grammar (.record fields)
        (.list (front ++ value :: back))
        (.list (front ++ value' :: back))
  | permute {fields : List (Field (Shape ν))}
      {members members' : List (String × Json)}
      (hPerm : members.Perm members') :
      Edit grammar (.record fields) (.object members) (.object members')
  | insert {fields : List (Field (Shape ν))} {name : String}
      {value : Json}
      (hName : name ∉ fields.map Field.name)
      (hValue : value.WellFormed)
      (front back : List (String × Json)) :
      Edit grammar (.record fields)
        (.object (front ++ back))
        (.object (front ++ (name, value) :: back))
  | drop {fields : List (Field (Shape ν))}
      {field : Field (Shape ν)} {value : Json}
      (hField : field ∈ fields)
      (hValue : value ∈ field.default.values)
      (front back : List (String × Json)) :
      Edit grammar (.record fields)
        (.object (front ++ (field.name, value) :: back))
        (.object (front ++ back))
  | add {fields : List (Field (Shape ν))}
      {field : Field (Shape ν)} {value : Json}
      (hField : field ∈ fields)
      (hValue : value ∈ field.default.values)
      {front back : List (String × Json)}
      (hAbsent : field.name ∉ (front ++ back).map Prod.fst) :
      Edit grammar (.record fields)
        (.object (front ++ back))
        (.object (front ++ (field.name, value) :: back))
  | line {fields : List (Field (Shape ν))}
      {members : List (String × Json)}
      (hNames : members.map Prod.fst = fields.map Field.name) :
      Edit grammar (.record fields)
        (.object members) (.list (members.map Prod.snd))

/- Any number of changes to the layout of a value. -/
def Edits
    {ν : Type}
    (grammar : ν → Shape ν)
    (shape : Shape ν) : Json → Json → Prop :=
  Relation.ReflTransGen (Edit grammar shape)

variable {ν : Type} {grammar : ν → Shape ν} {shape : Shape ν}

theorem Default.wellFormed
    {default : Default}
    {value : Json}
    (hValue : value ∈ default.values) :
    value.WellFormed := by
  cases default <;> simp [values] at hValue
  · simp [hValue]
  · simp [hValue]
  · rcases hValue with rfl | rfl <;> simp

namespace Edit

variable {value value' : Json}

theorem ne_null
    (hEdit : Edit grammar shape value value') :
    value ≠ .null ∧ value' ≠ .null := by
  induction hEdit with
  | named _ ih => exact ih
  | optional _ ih => exact ih
  | _ => exact ⟨nofun, nofun⟩

theorem wellFormed
    (hEdit : Edit grammar shape value value')
    (hValue : value.WellFormed) :
    value'.WellFormed := by
  induction hEdit with
  | named _ ih => exact ih hValue
  | optional _ ih => exact ih hValue
  | item front back _ ih =>
      rw [wellFormed_list_iff, List.forall_mem_append,
        List.forall_mem_cons] at hValue ⊢
      exact ⟨hValue.1, ih hValue.2.1, hValue.2.2⟩
  | content _ _ ih =>
      rw [wellFormed_tagged_iff] at hValue ⊢
      exact ih hValue
  | member _ front back _ ih =>
      rw [wellFormed_object_iff, List.forall_mem_append,
        List.forall_mem_cons] at hValue ⊢
      exact ⟨hValue.1, ih hValue.2.1, hValue.2.2⟩
  | position _ back _ ih =>
      rw [wellFormed_list_iff, List.forall_mem_append,
        List.forall_mem_cons] at hValue ⊢
      exact ⟨hValue.1, ih hValue.2.1, hValue.2.2⟩
  | permute hPerm =>
      rw [wellFormed_object_iff] at hValue ⊢
      exact fun member hMem => hValue member (hPerm.mem_iff.2 hMem)
  | insert _ hInserted front back =>
      rw [wellFormed_object_iff, List.forall_mem_append] at hValue ⊢
      rw [List.forall_mem_cons]
      exact ⟨hValue.1, hInserted, hValue.2⟩
  | drop _ _ front back =>
      rw [wellFormed_object_iff, List.forall_mem_append] at hValue ⊢
      exact ⟨hValue.1, (List.forall_mem_cons.1 hValue.2).2⟩
  | add _ hAdded _ =>
      rw [wellFormed_object_iff, List.forall_mem_append] at hValue ⊢
      rw [List.forall_mem_cons]
      exact ⟨hValue.1, Default.wellFormed hAdded, hValue.2⟩
  | line _ =>
      rw [wellFormed_object_iff] at hValue
      rw [wellFormed_list_iff, List.forall_mem_map]
      exact hValue

end Edit

------------------------------------------------------------
-- Agreement of Readers
------------------------------------------------------------

namespace Reader

variable {α β : Type} {depth : Nat}

/-
  What the first reader takes a value for, the second takes it
  for as well, also after an edit, as long as there are fewer
  brackets than `depth`.
-/
structure Agrees
    (grammar : ν → Shape ν)
    (depth : Nat)
    (shape : Shape ν)
    (reader reader' : Reader α) : Prop where
  same :
    ∀ {value : Json} {a : α},
      value.nesting < depth →
        Reads reader value a → Reads reader' value a
  edit :
    ∀ {value value' : Json} {a : α},
      value'.nesting < depth →
        Edit grammar shape value value' →
          Reads reader value a → Reads reader' value' a

theorem agrees_zero
    (reader reader' : Reader α) :
    Agrees grammar 0 shape reader reader' where
  same hNesting := by cases hNesting
  edit hNesting := by cases hNesting

theorem not_reads_fail
    {fault : Fault}
    {value : Json}
    {a : α} :
    ¬ Reads (fail fault) value a := by
  intro hReads
  cases hReads value.nesting [] (Nat.le_refl _)

theorem agrees_fail
    (fault : Fault)
    (reader : Reader α) :
    Agrees grammar depth shape (fail fault) reader where
  same _ hReads := absurd hReads not_reads_fail
  edit _ _ hReads := absurd hReads not_reads_fail

theorem Agrees.mono
    {reader reader' : Reader α}
    (hReader : Agrees grammar depth shape reader reader')
    {less : Nat}
    (hLess : less ≤ depth) :
    Agrees grammar less shape reader reader' where
  same hNesting := hReader.same (Nat.lt_of_lt_of_le hNesting hLess)
  edit hNesting := hReader.edit (Nat.lt_of_lt_of_le hNesting hLess)

/- There is nothing to edit in a plain value. -/
theorem agrees_plain
    (reader : Reader α) :
    Agrees grammar depth .plain reader reader where
  same _ hReads := hReads
  edit _ hEdit := by cases hEdit

theorem agrees_named
    {name : ν}
    {reader reader' : Reader α}
    (hReader : Agrees grammar depth (grammar name) reader reader') :
    Agrees grammar depth (.named name) reader reader' where
  same := hReader.same
  edit := by
    rintro value value' a hNesting (hEdit | _) hReads
    exact hReader.edit hNesting hEdit hReads

theorem agrees_map
    {reader reader' : Reader α}
    [Regular reader]
    [Regular reader']
    (hReader : Agrees grammar depth shape reader reader')
    (f : α → β) :
    Agrees grammar depth shape (f <$> reader) (f <$> reader') where
  same := by
    intro value b hNesting hReads
    rcases (means_map f).reads_iff.1 hReads with ⟨a, hValue, hEq⟩
    exact (means_map f).complete ⟨a, hReader.same hNesting hValue, hEq⟩
  edit := by
    intro value value' b hNesting hEdit hReads
    rcases (means_map f).reads_iff.1 hReads with ⟨a, hValue, hEq⟩
    exact (means_map f).complete
      ⟨a, hReader.edit hNesting hEdit hValue, hEq⟩

theorem agrees_optional
    {reader reader' : Reader α}
    [Regular reader]
    [Regular reader']
    (hReader : Agrees grammar depth shape reader reader') :
    Agrees grammar depth (.optional shape) (optional reader)
      (optional reader') where
  same := by
    intro value result hNesting hReads
    apply (means_optional reader').complete
    rcases (means_optional reader).reads_iff.1 hReads with
      hNull | ⟨hNull, a, hValue, hEq⟩
    · exact Or.inl hNull
    · exact Or.inr ⟨hNull, a, hReader.same hNesting hValue, hEq⟩
  edit := by
    rintro value value' result hNesting (_ | hEdit) hReads
    apply (means_optional reader').complete
    rcases (means_optional reader).reads_iff.1 hReads with
      ⟨hNull, -⟩ | ⟨-, a, hValue, hEq⟩
    · exact absurd hNull hEdit.ne_null.1
    · exact Or.inr ⟨hEdit.ne_null.2, a,
        hReader.edit hNesting hEdit hValue, hEq⟩

/- Items agree one by one. -/
theorem Agrees.items
    {reader reader' : Reader α}
    (hReader : Agrees grammar depth shape reader reader')
    {items : List Json}
    {found : List α}
    (hItems : List.Forall₂ (Reads reader) items found)
    (hNesting : ∀ item ∈ items, item.nesting < depth) :
    List.Forall₂ (Reads reader') items found := by
  induction hItems with
  | nil => exact .nil
  | cons hFirst _ ih =>
      rw [List.forall_mem_cons] at hNesting
      exact .cons (hReader.same hNesting.1 hFirst) (ih hNesting.2)

theorem Agrees.item
    {reader reader' : Reader α}
    (hReader : Agrees grammar depth shape reader reader')
    {value value' : Json}
    (hEdit : Edit grammar shape value value')
    {front back : List Json}
    {found : List α}
    (hItems : List.Forall₂ (Reads reader) (front ++ value :: back) found)
    (hNesting :
      ∀ item ∈ front ++ value' :: back, item.nesting < depth) :
    List.Forall₂ (Reads reader') (front ++ value' :: back) found := by
  induction front generalizing found with
  | nil =>
      rw [List.nil_append, List.forall_mem_cons] at hNesting
      rcases hItems with _ | ⟨hValue, hBack⟩
      exact .cons (hReader.edit hNesting.1 hEdit hValue)
        (hReader.items hBack hNesting.2)
  | cons first front ih =>
      rw [List.cons_append, List.forall_mem_cons] at hNesting
      rcases hItems with _ | ⟨hFirst, hRest⟩
      exact .cons (hReader.same hNesting.1 hFirst) (ih hRest hNesting.2)

theorem agrees_list
    {reader reader' : Reader α}
    [Regular reader]
    [Regular reader']
    (hReader : Agrees grammar depth shape reader reader') :
    Agrees grammar depth (.list shape) (list reader) (list reader') where
  same := by
    intro value found hNesting hReads
    rcases (means_list reader).reads_iff.1 hReads with
      ⟨items, rfl, hItems⟩
    have hInside : ∀ item ∈ items, item.nesting < depth :=
      fun item hMem => Nat.lt_trans (nesting_lt_list hMem) hNesting
    exact (means_list reader').complete
      ⟨items, rfl, hReader.items hItems hInside⟩
  edit := by
    rintro value value' found hNesting
      (_ | _ | ⟨front, back, hEdit⟩) hReads
    rcases (means_list reader).reads_iff.1 hReads with
      ⟨items, hEq, hItems⟩
    cases hEq
    have hInside :
        ∀ item ∈ front ++ _ :: back, item.nesting < depth :=
      fun item hMem => Nat.lt_trans (nesting_lt_list hMem) hNesting
    exact (means_list reader').complete
      ⟨_, rfl, hReader.item hEdit hItems hInside⟩

------------------------------------------------------------
-- Agreement of Variants
------------------------------------------------------------

/- What two variants of one name have in common. -/
structure PayloadAgrees
    (grammar : ν → Shape ν)
    (depth : Nat)
    (shape : Shape ν)
    (payload payload' : Payload α) : Prop where
  bare : ∀ {a : α}, payload.bare = .ok a → payload'.bare = .ok a
  content : Agrees grammar depth shape payload.content payload'.content

namespace PayloadAgrees

theorem nothing
    (result : α) :
    PayloadAgrees grammar depth .plain (.nothing result)
      (.nothing result) where
  bare hBare := hBare
  content := agrees_plain _

variable {reader reader' : Reader α}

theorem single
    (hReader : Agrees grammar depth shape reader reader') :
    PayloadAgrees grammar depth shape (.single reader)
      (.single reader') where
  bare := nofun
  content := hReader

theorem record
    (hReader : Agrees grammar depth shape reader reader') :
    PayloadAgrees grammar depth shape (.record reader)
      (.record reader') where
  bare := nofun
  content := hReader

end PayloadAgrees

/- Two lists of variants that agree name by name. -/
inductive VariantsAgree
    (grammar : ν → Shape ν)
    (depth : Nat) :
    List (String × Shape ν) →
      List (Variant α) → List (Variant α) → Prop where
  | nil : VariantsAgree grammar depth [] [] []
  | cons {name : String} {shape : Shape ν}
      {payload payload' : Payload α}
      {contents : List (String × Shape ν)}
      {variants variants' : List (Variant α)}
      (hPayload : PayloadAgrees grammar depth shape payload payload')
      (hVariants :
        VariantsAgree grammar depth contents variants variants') :
      VariantsAgree grammar depth ((name, shape) :: contents)
        (⟨name, payload⟩ :: variants) (⟨name, payload'⟩ :: variants')

theorem chosen_cons_iff
    {variant : Variant α}
    {variants : List (Variant α)}
    {name : String}
    {payload : Payload α} :
    chosen (variant :: variants) name = .ok payload ↔
      (variant.name = name ∧ variant.payload = payload) ∨
        (variant.name ≠ name ∧ chosen variants name = .ok payload) := by
  by_cases hName : variant.name = name
  · simp [chosen, hName]
  · have hOther : (variant.name == name) = false :=
      beq_eq_false_iff_ne.2 hName
    simp only [chosen, List.find?_cons, hOther]
    cases variants.find? (·.name == name) <;> simp [hName]

/- Whatever name is chosen, the variants of that name agree. -/
theorem VariantsAgree.chosen
    {contents : List (String × Shape ν)}
    {variants variants' : List (Variant α)}
    (hVariants : VariantsAgree grammar depth contents variants variants')
    {name : String}
    {payload : Payload α}
    (hChosen : chosen variants name = .ok payload) :
    ∃ shape payload',
      contents.lookup name = some shape ∧
        Reader.chosen variants' name = .ok payload' ∧
        PayloadAgrees grammar depth shape payload payload' := by
  induction hVariants with
  | nil => cases hChosen
  | @cons first shape _ payload' _ _ _ hPayload _ ih =>
      rcases chosen_cons_iff.1 hChosen with
        ⟨rfl, rfl⟩ | ⟨hName, hRest⟩
      · exact ⟨shape, payload', List.lookup_cons_self,
          chosen_cons_iff.2 (Or.inl ⟨rfl, rfl⟩), hPayload⟩
      · rcases ih hRest with ⟨shape, payload', hLookup, hFound, hAgrees⟩
        have hOther : (name == first) = false :=
          beq_eq_false_iff_ne.2 (Ne.symm hName)
        refine ⟨shape, payload', ?_,
          chosen_cons_iff.2 (Or.inr ⟨hName, hFound⟩), hAgrees⟩
        rw [List.lookup_cons, hOther]
        exact hLookup

/- The name of a variant is one more bracket. -/
theorem agrees_variant
    {contents : List (String × Shape ν)}
    {variants variants' : List (Variant α)}
    [RegularVariants variants]
    [RegularVariants variants']
    (hVariants :
      VariantsAgree grammar depth contents variants variants') :
    Agrees grammar (depth + 1) (.variants contents) (variant variants)
      (variant variants') where
  same := by
    intro value a hNesting hReads
    rcases (means_variant variants).reads_iff.1 hReads with
      ⟨name, payload, hChosen, hValue⟩
    rcases hVariants.chosen hChosen with
      ⟨shape, payload', -, hFound, hPayload⟩
    apply (means_variant variants').complete
    refine ⟨name, payload', hFound, ?_⟩
    rcases hValue with ⟨rfl, hBare⟩ | ⟨content, rfl, hContent⟩
    · exact Or.inl ⟨rfl, hPayload.bare hBare⟩
    · rw [nesting_tagged] at hNesting
      exact Or.inr ⟨content, rfl, hPayload.content.same
        (Nat.lt_of_succ_lt_succ hNesting) hContent⟩
  edit := by
    rintro value value' a hNesting (_ | _ | _ | ⟨hName, hEdit⟩) hReads
    rcases (means_variant variants).reads_iff.1 hReads with
      ⟨name, payload, hChosen, ⟨hString, -⟩ | ⟨content, hEq, hContent⟩⟩
    · cases hString
    · cases hEq
      rcases hVariants.chosen hChosen with
        ⟨shape, payload', hLookup, hFound, hPayload⟩
      cases hName.symm.trans hLookup
      rw [nesting_tagged] at hNesting
      exact (means_variant variants').complete
        ⟨_, payload', hFound, Or.inr ⟨_, rfl, hPayload.content.edit
          (Nat.lt_of_succ_lt_succ hNesting) hEdit hContent⟩⟩

------------------------------------------------------------
-- Defaults
------------------------------------------------------------

theorem reads_emptyList
    (reader : Reader α)
    [Regular reader] :
    ∀ written ∈ Default.emptyList.values,
      Reads (list reader) written [] := by
  intro written hWritten
  cases List.mem_singleton.1 hWritten
  exact (means_list reader).complete ⟨[], rfl, .nil⟩

theorem reads_null
    (reader : Reader α)
    [Regular reader] :
    ∀ written ∈ Default.null.values,
      Reads (optional reader) written none := by
  intro written hWritten
  cases List.mem_singleton.1 hWritten
  exact (means_optional reader).complete (Or.inl ⟨rfl, rfl⟩)

theorem reads_bare_values
    {variants : List (Variant α)}
    [RegularVariants variants]
    {name : String}
    {result : α}
    (hChosen : chosen variants name = .ok (.nothing result)) :
    ∀ written ∈ (Default.bare name).values,
      Reads (variant variants) written result := by
  intro written hWritten
  apply (means_variant variants).complete
  refine ⟨name, .nothing result, hChosen, ?_⟩
  rcases List.mem_cons.1 hWritten with rfl | hTagged
  · exact Or.inl ⟨rfl, rfl⟩
  · cases List.mem_singleton.1 hTagged
    exact Or.inr ⟨.null, rfl,
      (means_nothing result).complete ⟨rfl, rfl⟩⟩

------------------------------------------------------------
-- Agreement of Fields
------------------------------------------------------------

/-
  What two fields of one name have in common.  The first takes
  the ways to write a default for nothing but the default, and
  the second takes them for the default.
-/
structure SlotAgrees
    (grammar : ν → Shape ν)
    (depth : Nat)
    (field : Field (Shape ν))
    (slot slot' : Slot α) : Prop where
  name : slot.name = field.name
  name' : slot'.name = field.name
  default? : slot'.default? = slot.default?
  reader : Agrees grammar depth field.shape slot.reader slot'.reader
  drop :
    ∀ {value : Json} {a : α},
      value ∈ field.default.values →
        Reads slot.reader value a → slot.default? = some a
  add :
    ∀ {value : Json} {a : α},
      value ∈ field.default.values →
        value.nesting < depth →
          slot.default? = some a → Reads slot'.reader value a

namespace SlotAgrees

variable {name : String} {reader reader' : Reader α}

theorem required
    (hReader : Agrees grammar depth shape reader reader') :
    SlotAgrees grammar depth ⟨name, .none, shape⟩
      (.required name reader) (.required name reader') where
  name := rfl
  name' := rfl
  default? := rfl
  reader := hReader
  drop := nofun
  add := nofun

theorem withDefault
    {default : Default}
    {value : α}
    (hReader : Agrees grammar depth shape reader reader')
    (hDrop :
      ∀ written ∈ default.values,
        ∀ a, Reads reader written a → a = value)
    (hAdd :
      ∀ written ∈ default.values,
        written.nesting < depth → Reads reader' written value) :
    SlotAgrees grammar depth ⟨name, default, shape⟩
      (.withDefault name reader value)
      (.withDefault name reader' value) where
  name := rfl
  name' := rfl
  default? := rfl
  reader := hReader
  drop hValue hReads := congrArg some (hDrop _ hValue _ hReads).symm
  add hValue hNesting hDefault :=
    Option.some.inj hDefault ▸ hAdd _ hValue hNesting

/- Readers that take all ways to write the default. -/
theorem withDefault_of_reads
    {default : Default}
    {value : α}
    (hReader : Agrees grammar depth shape reader reader')
    (hOld : ∀ written ∈ default.values, Reads reader written value)
    (hNew : ∀ written ∈ default.values, Reads reader' written value) :
    SlotAgrees grammar depth ⟨name, default, shape⟩
      (.withDefault name reader value)
      (.withDefault name reader' value) :=
  withDefault hReader
    (fun written hWritten _ hReads =>
      hReads.unique (hOld written hWritten))
    fun written hWritten _ => hNew written hWritten

variable {field : Field (Shape ν)} {slot slot' : Slot α} {a : α}

theorem keep
    (hSlot : SlotAgrees grammar depth field slot slot')
    {values : List Json}
    (hNesting : ∀ value ∈ values, value.nesting < depth)
    (hHolds : slot.Holds values a) :
    slot'.Holds values a := by
  rcases values with _ | ⟨value, _ | _⟩
  · exact hSlot.default?.trans hHolds
  · exact hSlot.reader.same (hNesting value List.mem_cons_self) hHolds
  · cases hHolds

end SlotAgrees

/- Two records whose fields agree, one by one. -/
inductive FieldsAgree
    (grammar : ν → Shape ν)
    (depth : Nat) :
    {αs : List Type} →
      List (Field (Shape ν)) → Slots αs → Slots αs → Prop where
  | nil : FieldsAgree grammar depth [] .nil .nil
  | cons {α : Type} {αs : List Type} {field : Field (Shape ν)}
      {slot slot' : Slot α} {fields : List (Field (Shape ν))}
      {slots slots' : Slots αs}
      (hSlot : SlotAgrees grammar depth field slot slot')
      (hSlots : FieldsAgree grammar depth fields slots slots') :
      FieldsAgree grammar depth (field :: fields) (.cons slot slots)
        (.cons slot' slots')

namespace FieldsAgree

variable {αs : List Type} {fields : List (Field (Shape ν))}
  {slots slots' : Slots αs} {row : Row αs}

theorem names_eq
    (hFields : FieldsAgree grammar depth fields slots slots') :
    slots.names = fields.map Field.name ∧
      slots'.names = fields.map Field.name := by
  induction hFields with
  | nil => exact ⟨rfl, rfl⟩
  | cons hSlot _ ih =>
      simp only [Slots.names, List.map_cons, hSlot.name, hSlot.name',
        ih.1, ih.2, and_self]

/- It is enough to look at each field by itself. -/
theorem holds
    (hFields : FieldsAgree grammar depth fields slots slots')
    {members members' : List (String × Json)}
    (hEach :
      ∀ {α : Type} {field : Field (Shape ν)} {slot slot' : Slot α}
        {a : α},
        field ∈ fields →
          SlotAgrees grammar depth field slot slot' →
            slot.Holds (valuesAt field.name members) a →
              slot'.Holds (valuesAt field.name members') a)
    (hHolds : slots.Holds members row) :
    slots'.Holds members' row := by
  induction hFields with
  | nil => trivial
  | @cons α αs field slot slot' fields slots slots' hSlot _ ih =>
      rcases row with ⟨a, others⟩
      rw [Slots.Holds, hSlot.name] at hHolds
      rw [Slots.Holds, hSlot.name']
      exact ⟨hEach List.mem_cons_self hSlot hHolds.1,
        ih (fun hMem => hEach (List.mem_cons_of_mem _ hMem)) hHolds.2⟩

/- Fields keep their values where only the order changes. -/
theorem holds_of_perm
    (hFields : FieldsAgree grammar depth fields slots slots')
    {members members' : List (String × Json)}
    (hNesting : ∀ member ∈ members', member.2.nesting < depth)
    (hValues :
      ∀ field ∈ fields,
        (valuesAt field.name members).Perm
          (valuesAt field.name members'))
    (hHolds : slots.Holds members row) :
    slots'.Holds members' row :=
  hFields.holds
    (fun hField hSlot hOld =>
      hSlot.keep
        (fun _ hMem => hNesting _ (mem_valuesAt.1 hMem))
        (hOld.perm (hValues _ hField)))
    hHolds

/- Of one field the values change, and the others keep theirs. -/
theorem holds_of_field
    (hFields : FieldsAgree grammar depth fields slots slots')
    (hNames : (fields.map Field.name).Nodup)
    {members members' : List (String × Json)}
    (hNesting : ∀ member ∈ members', member.2.nesting < depth)
    {field : Field (Shape ν)}
    (hField : field ∈ fields)
    (hOthers :
      ∀ name,
        name ≠ field.name → valuesAt name members = valuesAt name members')
    (hValues :
      ∀ {α : Type} {slot slot' : Slot α} {a : α},
        SlotAgrees grammar depth field slot slot' →
          slot.Holds (valuesAt field.name members) a →
            slot'.Holds (valuesAt field.name members') a)
    (hHolds : slots.Holds members row) :
    slots'.Holds members' row := by
  refine hFields.holds ?_ hHolds
  intro α other slot slot' a hOther hSlot hOld
  by_cases hName : other.name = field.name
  · have hSame : other = field :=
      List.inj_on_of_nodup_map hNames hOther hField hName
    subst hSame
    exact hValues hSlot hOld
  · refine hSlot.keep
      (fun _ hMem => hNesting _ (mem_valuesAt.1 hMem)) ?_
    rwa [← hOthers other.name hName]

theorem holds_of_member
    (hFields : FieldsAgree grammar depth fields slots slots')
    (hNames : (fields.map Field.name).Nodup)
    {field : Field (Shape ν)}
    (hField : field ∈ fields)
    {value value' : Json}
    (hEdit : Edit grammar field.shape value value')
    {front back : List (String × Json)}
    (hNesting :
      ∀ member ∈ front ++ (field.name, value') :: back,
        member.2.nesting < depth)
    (hHolds : slots.Holds (front ++ (field.name, value) :: back) row) :
    slots'.Holds (front ++ (field.name, value') :: back) row := by
  have hValue : value'.nesting < depth :=
    hNesting (field.name, value') (by simp)
  refine hFields.holds_of_field hNames hNesting hField ?_ ?_ hHolds
  · intro name hName
    rw [valuesAt_insert_of_ne hName.symm,
      valuesAt_insert_of_ne hName.symm]
  · intro α slot slot' a hSlot hHolds
    rw [valuesAt_insert_of_eq, Slot.holds_append_cons_iff] at hHolds ⊢
    rcases hHolds with ⟨hFront, hBack, hReads⟩
    exact ⟨hFront, hBack, hSlot.reader.edit hValue hEdit hReads⟩

theorem holds_of_insert
    (hFields : FieldsAgree grammar depth fields slots slots')
    {name : String}
    (hName : name ∉ fields.map Field.name)
    {value : Json}
    {front back : List (String × Json)}
    (hNesting :
      ∀ member ∈ front ++ (name, value) :: back,
        member.2.nesting < depth)
    (hHolds : slots.Holds (front ++ back) row) :
    slots'.Holds (front ++ (name, value) :: back) row := by
  refine hFields.holds_of_perm hNesting ?_ hHolds
  intro field hField
  have hOther : name ≠ field.name :=
    (ne_of_mem_of_not_mem (List.mem_map_of_mem hField) hName).symm
  rw [valuesAt_insert_of_ne hOther]

theorem holds_of_drop
    (hFields : FieldsAgree grammar depth fields slots slots')
    (hNames : (fields.map Field.name).Nodup)
    {field : Field (Shape ν)}
    (hField : field ∈ fields)
    {value : Json}
    (hValue : value ∈ field.default.values)
    {front back : List (String × Json)}
    (hNesting : ∀ member ∈ front ++ back, member.2.nesting < depth)
    (hHolds : slots.Holds (front ++ (field.name, value) :: back) row) :
    slots'.Holds (front ++ back) row := by
  refine hFields.holds_of_field hNames hNesting hField ?_ ?_ hHolds
  · intro name hName
    exact valuesAt_insert_of_ne hName.symm value front back
  · intro α slot slot' a hSlot hHolds
    rw [valuesAt_insert_of_eq, Slot.holds_append_cons_iff] at hHolds
    rcases hHolds with ⟨hFront, hBack, hReads⟩
    rw [valuesAt_append, hFront, hBack]
    exact hSlot.default?.trans (hSlot.drop hValue hReads)

theorem holds_of_add
    (hFields : FieldsAgree grammar depth fields slots slots')
    (hNames : (fields.map Field.name).Nodup)
    {field : Field (Shape ν)}
    (hField : field ∈ fields)
    {value : Json}
    (hValue : value ∈ field.default.values)
    {front back : List (String × Json)}
    (hAbsent : field.name ∉ (front ++ back).map Prod.fst)
    (hNesting :
      ∀ member ∈ front ++ (field.name, value) :: back,
        member.2.nesting < depth)
    (hHolds : slots.Holds (front ++ back) row) :
    slots'.Holds (front ++ (field.name, value) :: back) row := by
  have hInside : value.nesting < depth :=
    hNesting (field.name, value) (by simp)
  have hNone := valuesAt_eq_nil hAbsent
  refine hFields.holds_of_field hNames hNesting hField ?_ ?_ hHolds
  · intro name hName
    exact (valuesAt_insert_of_ne hName.symm value front back).symm
  · intro α slot slot' a hSlot hHolds
    rw [hNone] at hHolds
    rw [valuesAt_append, List.append_eq_nil_iff] at hNone
    rw [valuesAt_insert_of_eq, Slot.holds_append_cons_iff]
    exact ⟨hNone.1, hNone.2, hSlot.add hValue hInside hHolds⟩

theorem lines
    (hFields : FieldsAgree grammar depth fields slots slots')
    {items : List Json}
    (hNesting : ∀ item ∈ items, item.nesting < depth)
    (hLines : slots.Lines items row) :
    slots'.Lines items row := by
  induction hFields generalizing items with
  | nil => exact hLines
  | cons hSlot _ ih =>
      rcases row with ⟨a, others⟩
      cases items with
      | nil =>
          exact ⟨hSlot.default?.trans hLines.1, ih hNesting hLines.2⟩
      | cons item rest =>
          rw [List.forall_mem_cons] at hNesting
          exact ⟨hSlot.reader.same hNesting.1 hLines.1,
            ih hNesting.2 hLines.2⟩

theorem lines_of_position
    (hFields : FieldsAgree grammar depth fields slots slots')
    {front back : List Json}
    {field : Field (Shape ν)}
    (hField : fields[front.length]? = some field)
    {value value' : Json}
    (hEdit : Edit grammar field.shape value value')
    (hNesting :
      ∀ item ∈ front ++ value' :: back, item.nesting < depth)
    (hLines : slots.Lines (front ++ value :: back) row) :
    slots'.Lines (front ++ value' :: back) row := by
  induction hFields generalizing front with
  | nil => cases hField
  | cons hSlot hSlots ih =>
      rcases row with ⟨a, others⟩
      cases front with
      | nil =>
          rw [List.nil_append, List.forall_mem_cons] at hNesting
          cases hField
          exact ⟨hSlot.reader.edit hNesting.1 hEdit hLines.1,
            hSlots.lines hNesting.2 hLines.2⟩
      | cons first front =>
          rw [List.cons_append, List.forall_mem_cons] at hNesting
          exact ⟨hSlot.reader.same hNesting.1 hLines.1,
            ih hField hNesting.2 hLines.2⟩

end FieldsAgree

------------------------------------------------------------
-- Agreement of Records
------------------------------------------------------------

theorem agrees_record
    {αs : List Type}
    {label : String}
    {fields : List (Field (Shape ν))}
    {slots slots' : Slots αs}
    [RegularSlots slots]
    [RegularSlots slots']
    (hNames : (fields.map Field.name).Nodup)
    (hFields : FieldsAgree grammar depth fields slots slots') :
    Agrees grammar depth (.record fields) (record label slots)
      (record label slots') := by
  have hOldNames : slots.names.Nodup := hFields.names_eq.1 ▸ hNames
  have hNewNames : slots'.names.Nodup := hFields.names_eq.2 ▸ hNames
  have hMembers :
      ∀ {members : List (String × Json)},
        (Json.object members).nesting < depth →
          ∀ member ∈ members, member.2.nesting < depth :=
    fun hNesting member hMem =>
      Nat.lt_trans (nesting_lt_object hMem) hNesting
  have hItems :
      ∀ {items : List Json},
        (Json.list items).nesting < depth →
          ∀ item ∈ items, item.nesting < depth :=
    fun hNesting item hMem =>
      Nat.lt_trans (nesting_lt_list hMem) hNesting
  constructor
  · intro value row hNesting hReads
    rcases (reads_record_iff hOldNames).1 hReads with
      ⟨members, rfl, hHolds⟩ | ⟨items, rfl, hLines⟩
    · rw [reads_record_object_iff hNewNames]
      exact hFields.holds_of_perm (hMembers hNesting)
        (fun _ _ => .refl _) hHolds
    · rw [reads_record_list_iff hNewNames]
      exact hFields.lines (hItems hNesting) hLines
  · intro value value' row hNesting hEdit hReads
    have hObject :
        ∀ {members members' : List (String × Json)},
          (slots.Holds members row → slots'.Holds members' row) →
            Reads (record label slots) (.object members) row →
              Reads (record label slots') (.object members') row := by
      intro members members' hHolds hReads
      rw [reads_record_object_iff hOldNames] at hReads
      rw [reads_record_object_iff hNewNames]
      exact hHolds hReads
    cases hEdit with
    | member hField front back hEdit =>
        exact hObject
          (hFields.holds_of_member hNames hField hEdit
            (hMembers hNesting))
          hReads
    | permute hPerm =>
        exact hObject
          (hFields.holds_of_perm (hMembers hNesting) fun field _ =>
            valuesAt_perm hPerm field.name)
          hReads
    | insert hName _ front back =>
        exact hObject
          (hFields.holds_of_insert hName (hMembers hNesting)) hReads
    | drop hField hValue front back =>
        exact hObject
          (hFields.holds_of_drop hNames hField hValue
            (hMembers hNesting))
          hReads
    | add hField hValue hAbsent =>
        exact hObject
          (hFields.holds_of_add hNames hField hValue hAbsent
            (hMembers hNesting))
          hReads
    | position hField back hEdit =>
        rw [reads_record_list_iff hOldNames] at hReads
        rw [reads_record_list_iff hNewNames]
        exact hFields.lines_of_position hField hEdit (hItems hNesting)
          hReads
    | line hInOrder =>
        have hWritten := hInOrder.trans hFields.names_eq.1.symm
        rw [reads_record_object_iff hOldNames,
          Slots.holds_iff_writes hOldNames hWritten] at hReads
        rw [reads_record_list_iff hNewNames]
        exact hFields.lines (hItems hNesting) hReads.lines

/- A variant that carries a record. -/
theorem PayloadAgrees.fields
    {αs : List Type}
    {label : String}
    {fields : List (Field (Shape ν))}
    {slots slots' : Slots αs}
    [RegularSlots slots]
    [RegularSlots slots']
    {f : Row αs → α}
    (hNames : (fields.map Field.name).Nodup)
    (hFields : FieldsAgree grammar depth fields slots slots') :
    PayloadAgrees grammar depth (.record fields)
      (.record (f <$> Reader.record label slots))
      (.record (f <$> Reader.record label slots')) :=
  .record (agrees_map (agrees_record hNames hFields) f)

------------------------------------------------------------
-- Any Number of Edits
------------------------------------------------------------

/-
  In the course of the edits there may be more levels than in
  the end.  So the levels of the reader change along with the
  value.
-/
theorem reads_of_edits
    {readers : Nat → Reader α}
    (hReaders :
      ∀ levels levels',
        Agrees grammar levels' shape (readers levels) (readers levels'))
    {value value' : Json}
    (hEdits : Edits grammar shape value value')
    {levels : Nat}
    {a : α}
    (hReads : Reads (readers levels) value a)
    {levels' : Nat}
    (hLevels : value'.nesting < levels') :
    Reads (readers levels') value' a := by
  induction hEdits generalizing levels' with
  | refl => exact (hReaders levels levels').same hLevels hReads
  | tail _ hEdit ih =>
      exact (hReaders _ levels').edit hLevels hEdit
        (ih (Nat.lt_succ_self _))

end Reader

theorem Edits.wellFormed
    {value value' : Json}
    (hEdits : Edits grammar shape value value')
    (hValue : value.WellFormed) :
    value'.WellFormed := by
  induction hEdits with
  | refl => exact hValue
  | tail _ hEdit ih => exact hEdit.wellFormed ih

/- Edited texts are read as the texts were before. -/
theorem read_compact_of_edits
    {α : Type}
    (readers : Nat → Reader α)
    [∀ levels, (readers levels).Regular]
    (hReaders :
      ∀ levels levels',
        Reader.Agrees grammar levels' shape (readers levels)
          (readers levels'))
    {value value' : Json}
    (hEdits : Edits grammar shape value value')
    (hValue : value.WellFormed)
    (hNesting : value'.nesting ≤ nestingLimit)
    {a : α}
    (hRead : read (readers (nestingLimit + 1)) value.compact = .ok a) :
    read (readers (nestingLimit + 1)) value'.compact = .ok a :=
  read_compact_of_reads (hEdits.wellFormed hValue) hNesting <|
    Reader.reads_of_edits hReaders hEdits
      (reads_of_read_compact hValue hRead) (Nat.lt_succ_of_le hNesting)

end SqlCompiler.Json
