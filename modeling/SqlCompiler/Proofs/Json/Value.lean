import SqlCompiler.Json.Token
import SqlCompiler.Json.Value
import SqlCompiler.Proofs.Json.Number

/-
  This file views JSON values as trees: how deep their
  brackets nest, whether their numbers follow the grammar, and
  which tokens write them.

  Key definitions include:
    * `Json.nesting`
    * `Json.WellFormed`
    * `Json.spelled`

  Key theorems include:
    * `Json.inductionOnParts`
    * `Json.exists_start_spelled`
-/

namespace SqlCompiler.Json

/-
  Induction on values.  For a list or an object, the property
  is assumed of every item or of the value of every member.
-/
@[elab_as_elim]
theorem inductionOnParts
    {motive : Json → Prop}
    (null : motive .null)
    (boolean : ∀ value, motive (.boolean value))
    (number : ∀ literal, motive (.number literal))
    (string : ∀ value, motive (.string value))
    (list :
      ∀ items, (∀ item ∈ items, motive item) → motive (.list items))
    (object :
      ∀ members,
        (∀ member ∈ members, motive member.2) →
          motive (.object members))
    (value : Json) :
    motive value := by
  refine @Json.rec motive
    (fun items => ∀ item ∈ items, motive item)
    (fun members => ∀ member ∈ members, motive member.2)
    (fun member => motive member.2)
    null boolean number string list object ?_ ?_ ?_ ?_ ?_ value
  · intro item hMem
    cases hMem
  · intro first rest hFirst hRest item hMem
    rcases List.mem_cons.1 hMem with hEq | hOld
    · exact hEq ▸ hFirst
    · exact hRest item hOld
  · intro member hMem
    cases hMem
  · intro first rest hFirst hRest member hMem
    rcases List.mem_cons.1 hMem with hEq | hOld
    · exact hEq ▸ hFirst
    · exact hRest member hOld
  · intro name value hValue
    exact hValue

------------------------------------------------------------
-- Nesting
------------------------------------------------------------

mutual

/- How many brackets and braces are open at once, at most. -/
def nesting : Json → Nat
  | .null | .boolean _ | .number _ | .string _ => 0
  | .list items => nestingOfItems items + 1
  | .object members => nestingOfMembers members + 1

def nestingOfItems : List Json → Nat
  | [] => 0
  | item :: rest => max item.nesting (nestingOfItems rest)

def nestingOfMembers : List (String × Json) → Nat
  | [] => 0
  | (_, value) :: rest => max value.nesting (nestingOfMembers rest)

end

theorem nesting_lt_list
    {items : List Json}
    {item : Json}
    (hMem : item ∈ items) :
    item.nesting < (Json.list items).nesting := by
  have hItems : item.nesting ≤ nestingOfItems items := by
    induction items with
    | nil => cases hMem
    | cons first rest ih =>
        rw [nestingOfItems]
        rcases List.mem_cons.1 hMem with rfl | hOld
        · exact Nat.le_max_left _ _
        · exact Nat.le_trans (ih hOld) (Nat.le_max_right _ _)
  rw [nesting]
  exact Nat.lt_succ_of_le hItems

theorem nesting_lt_object
    {members : List (String × Json)}
    {member : String × Json}
    (hMem : member ∈ members) :
    member.2.nesting < (Json.object members).nesting := by
  have hMembers : member.2.nesting ≤ nestingOfMembers members := by
    induction members with
    | nil => cases hMem
    | cons first rest ih =>
        rw [nestingOfMembers]
        rcases List.mem_cons.1 hMem with rfl | hOld
        · exact Nat.le_max_left _ _
        · exact Nat.le_trans (ih hOld) (Nat.le_max_right _ _)
  rw [nesting]
  exact Nat.lt_succ_of_le hMembers

/- An object is one bracket deeper than its members. -/
theorem nesting_object_le
    {members : List (String × Json)}
    {limit : Nat}
    (hMembers : ∀ member ∈ members, member.2.nesting ≤ limit) :
    (Json.object members).nesting ≤ limit + 1 := by
  have hLimit : nestingOfMembers members ≤ limit := by
    induction members with
    | nil => exact Nat.zero_le limit
    | cons first rest ih =>
        rw [nestingOfMembers]
        refine Nat.max_le.2 ⟨hMembers first List.mem_cons_self, ih ?_⟩
        intro member hMem
        exact hMembers member (List.mem_cons_of_mem _ hMem)
  rw [nesting]
  exact Nat.succ_le_succ hLimit

theorem nesting_tagged
    (name : String)
    (content : Json) :
    (tagged name content).nesting = content.nesting + 1 := by
  simp [tagged, nesting, nestingOfMembers]

/- A limit on the nesting of a value holds for its parts. -/
theorem nesting_le_of_list
    {items : List Json}
    {limit : Nat}
    (hNesting : (Json.list items).nesting ≤ limit)
    {item : Json}
    (hMem : item ∈ items) :
    item.nesting ≤ limit :=
  Nat.le_of_lt (Nat.lt_of_lt_of_le (nesting_lt_list hMem) hNesting)

theorem nesting_le_of_tagged
    {name : String}
    {content : Json}
    {limit : Nat}
    (hNesting : (tagged name content).nesting ≤ limit) :
    content.nesting ≤ limit := by
  rw [nesting_tagged] at hNesting
  exact Nat.le_of_succ_le hNesting

/- Room for a bracket is room for what is inside of it. -/
theorem exists_room_list
    {items : List Json}
    {room : Nat}
    (hRoom : (Json.list items).nesting ≤ room) :
    ∃ inner,
      room = inner + 1 ∧ ∀ item ∈ items, item.nesting ≤ inner := by
  cases room with
  | zero =>
      rw [nesting] at hRoom
      omega
  | succ inner =>
      refine ⟨inner, rfl, ?_⟩
      intro item hMem
      have hLess := nesting_lt_list hMem
      omega

theorem exists_room_object
    {members : List (String × Json)}
    {room : Nat}
    (hRoom : (Json.object members).nesting ≤ room) :
    ∃ inner,
      room = inner + 1 ∧
        ∀ member ∈ members, member.2.nesting ≤ inner := by
  cases room with
  | zero =>
      rw [nesting] at hRoom
      omega
  | succ inner =>
      refine ⟨inner, rfl, ?_⟩
      intro member hMem
      have hLess := nesting_lt_object hMem
      omega

------------------------------------------------------------
-- Well-Formed Values
------------------------------------------------------------

/- A value whose numbers follow the grammar of JSON. -/
inductive WellFormed : Json → Prop where
  | null : WellFormed .null
  | boolean (value : Bool) : WellFormed (.boolean value)
  | number {literal : Numeral} (hLiteral : literal.WellFormed) :
      WellFormed (.number literal)
  | string (value : String) : WellFormed (.string value)
  | list {items : List Json}
      (hItems : ∀ item ∈ items, WellFormed item) :
      WellFormed (.list items)
  | object {members : List (String × Json)}
      (hMembers : ∀ member ∈ members, WellFormed member.2) :
      WellFormed (.object members)

attribute [simp] WellFormed.null WellFormed.boolean WellFormed.string

@[simp]
theorem wellFormed_list_iff
    {items : List Json} :
    (Json.list items).WellFormed ↔ ∀ item ∈ items, item.WellFormed := by
  constructor
  · rintro (_ | _ | _ | _ | hItems | _)
    exact hItems
  · exact .list

@[simp]
theorem wellFormed_object_iff
    {members : List (String × Json)} :
    (Json.object members).WellFormed ↔
      ∀ member ∈ members, member.2.WellFormed := by
  constructor
  · rintro (_ | _ | _ | _ | _ | hMembers)
    exact hMembers
  · exact .object

@[simp]
theorem wellFormed_tagged_iff
    {name : String}
    {content : Json} :
    (tagged name content).WellFormed ↔ content.WellFormed := by
  simp [tagged]

@[simp]
theorem wellFormed_integer
    (value : Int) :
    (integer value).WellFormed :=
  .number (Numeral.wellFormed_ofInt value)

------------------------------------------------------------
-- Tokens of Values
------------------------------------------------------------

/- What stands in front of an item, if it is not the first. -/
def separator
    (isFirst : Bool) : List Token :=
  if isFirst then [] else [.comma]

mutual

/- The tokens that write a value. -/
def spelled : Json → List Token
  | .null => [.null]
  | .boolean value => [.boolean value]
  | .number literal => [.number literal]
  | .string value => [.string (.ok value)]
  | .list items => .beginList :: (spelledItems true items ++ [.endList])
  | .object members =>
      .beginObject :: (spelledMembers true members ++ [.endObject])

/- The tokens of items, all of them or all but the first. -/
def spelledItems
    (isFirst : Bool) : List Json → List Token
  | [] => []
  | item :: rest =>
      separator isFirst ++ item.spelled ++ spelledItems false rest

/- The tokens of members, all of them or all but the first. -/
def spelledMembers
    (isFirst : Bool) : List (String × Json) → List Token
  | [] => []
  | (name, value) :: rest =>
      separator isFirst ++ .string (.ok name) :: .colon ::
        value.spelled ++ spelledMembers false rest

end

/- Whether a value can begin with a token. -/
def Token.starts : Token → Bool
  | .null | .boolean _ | .number _ | .string (.ok _)
  | .beginList | .beginObject => true
  | _ => false

theorem exists_start_spelled
    (value : Json) :
    ∃ token rest,
      value.spelled = token :: rest ∧ token.starts = true := by
  cases value <;> exact ⟨_, _, rfl, rfl⟩

end SqlCompiler.Json
