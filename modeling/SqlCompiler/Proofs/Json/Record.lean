import SqlCompiler.Json.Reader.Record
import SqlCompiler.Proofs.Json.Reading

/-
  This file says which JSON values are read as records.  An
  object is read member by member, where a member either fills
  an empty field or is passed over; a list is read field by
  field.

  Key definitions include:
    * `Json.Slots.Takes`
    * `Json.Slots.TakesAll`
    * `Json.Slots.Lines`
    * `Json.Reader.RecordMeans`

  Key theorems include:
    * `Json.Reader.skip_spelled`
    * `Json.Slots.members_sound`
    * `Json.Slots.positional_sound`
    * `Json.Reader.means_record`
-/

namespace SqlCompiler.Json

------------------------------------------------------------
-- Skipped Values
------------------------------------------------------------

/- What is left to skip after a complete value. -/
def skipBehind
    (opened : List Bracket)
    (rest : List Token) : Except Fault (List Token) :=
  match Skipping.afterValue opened with
  | none => .ok rest
  | some state => skipFrom state rest

/- What may come next after an open bracket or an item. -/
def awaitingNext
    (isFirst : Bool) : Awaiting :=
  if isFirst then .firstItem else .separator

theorem skipFrom_item
    (opened : List Bracket)
    (isFirst : Bool)
    (value : Json)
    (rest : List Token) :
    skipFrom ⟨.list :: opened, awaitingNext isFirst⟩
        (separator isFirst ++ value.spelled ++ rest) =
      skipFrom ⟨.list :: opened, .value⟩ (value.spelled ++ rest) := by
  cases isFirst <;> cases value <;> rfl

theorem skipFrom_key
    (opened : List Bracket)
    (isFirst : Bool)
    (name : String)
    (rest : List Token) :
    skipFrom ⟨.object :: opened, awaitingNext isFirst⟩
        (separator isFirst ++ .string (.ok name) :: .colon :: rest) =
      skipFrom ⟨.object :: opened, .value⟩ rest := by
  cases isFirst <;> rfl

theorem skipFrom_endList
    (opened : List Bracket)
    (isFirst : Bool)
    (rest : List Token) :
    skipFrom ⟨.list :: opened, awaitingNext isFirst⟩
        (.endList :: rest) =
      skipBehind opened rest := by
  cases isFirst <;> cases opened <;> rfl

theorem skipFrom_endObject
    (opened : List Bracket)
    (isFirst : Bool)
    (rest : List Token) :
    skipFrom ⟨.object :: opened, awaitingNext isFirst⟩
        (.endObject :: rest) =
      skipBehind opened rest := by
  cases isFirst <;> cases opened <;> rfl

/- A value is skipped whichever brackets are open. -/
theorem skipFrom_spelled
    (value : Json)
    (opened : List Bracket)
    (rest : List Token) :
    skipFrom ⟨opened, .value⟩ (value.spelled ++ rest) =
      skipBehind opened rest := by
  induction value using inductionOnParts generalizing opened rest with
  | null => cases opened <;> rfl
  | boolean value => cases opened <;> rfl
  | number literal => cases opened <;> rfl
  | string value => cases opened <;> rfl
  | list items ih =>
      have hItems :
          ∀ isFirst,
            skipFrom ⟨.list :: opened, awaitingNext isFirst⟩
                (spelledItems isFirst items ++ .endList :: rest) =
              skipBehind opened rest := by
        induction items with
        | nil => exact fun isFirst => skipFrom_endList opened isFirst rest
        | cons first others hOthers =>
            intro isFirst
            rw [Reader.spelledItems_append, skipFrom_item,
              ih first List.mem_cons_self]
            exact hOthers
              (fun item hMem => ih item (List.mem_cons_of_mem _ hMem))
              false
      rw [Reader.spelled_list_append]
      exact hItems true
  | object members ih =>
      have hMembers :
          ∀ isFirst,
            skipFrom ⟨.object :: opened, awaitingNext isFirst⟩
                (spelledMembers isFirst members ++ .endObject :: rest) =
              skipBehind opened rest := by
        induction members with
        | nil =>
            exact fun isFirst => skipFrom_endObject opened isFirst rest
        | cons first others hOthers =>
            intro isFirst
            rw [Reader.spelledMembers_append, skipFrom_key,
              ih first List.mem_cons_self]
            exact hOthers
              (fun member hMem =>
                ih member (List.mem_cons_of_mem _ hMem))
              false
      rw [Reader.spelled_object_append]
      exact hMembers true

/- Any value can be skipped, with nothing of what follows. -/
theorem Reader.skip_spelled
    (value : Json)
    (room : Nat)
    (rest : List Token) :
    Reader.skip room (value.spelled ++ rest) = .ok ((), rest) := by
  rw [Reader.skip, skipFrom_spelled]
  rfl

------------------------------------------------------------
-- Members of Records
------------------------------------------------------------

namespace Slots

open Reader (Reads Regular)

variable {α : Type} {αs : List Type}

/- The fields are read regularly. -/
def AllRegular : {αs : List Type} → Slots αs → Prop
  | _, .nil => True
  | _, .cons slot slots => Regular slot.reader ∧ slots.AllRegular

/-
  What a member makes of the fields found so far: it fills the
  first field with its name, which must be empty, or it makes
  no difference.
-/
def Takes : {αs : List Type} →
    Slots αs → Filled αs → String → Json → Filled αs → Prop
  | _, .nil, _, _, _, _ => True
  | _, .cons slot slots, (before, others), name, value,
      (after, others') =>
      if name = slot.name then
        before = none ∧
          (∃ a, Reads slot.reader value a ∧ after = some a) ∧
          others' = others
      else
        after = before ∧ slots.Takes others name value others'

/- What several members make of the fields, one by one. -/
def TakesAll
    (slots : Slots αs) :
    Filled αs → List (String × Json) → Filled αs → Prop
  | before, [], after => after = before
  | before, (name, value) :: rest, after =>
      ∃ between,
        slots.Takes before name value between ∧
          slots.TakesAll between rest after

theorem memberValue_of_eq
    {slot : Slot α}
    (slots : Slots αs)
    (others : Filled αs)
    {name : String}
    (hName : name = slot.name) :
    (Slots.cons slot slots).memberValue (none, others) name =
      (Reader.colon >>= fun _ =>
        slot.reader >>= fun a =>
          (pure (some a, others) : Reader (Filled (α :: αs)))) := by
  simp [memberValue, member, hName]

theorem memberValue_of_filled
    {slot : Slot α}
    (slots : Slots αs)
    (a : α)
    (others : Filled αs)
    {name : String}
    (hName : name = slot.name) :
    (Slots.cons slot slots).memberValue (some a, others) name =
      Reader.fail (.duplicateField slot.name) := by
  simp [memberValue, member, hName]

theorem memberValue_of_ne
    {slot : Slot α}
    (slots : Slots αs)
    (before : Option α)
    (others : Filled αs)
    {name : String}
    (hName : name ≠ slot.name)
    (room : Nat)
    (tokens : List Token) :
    (Slots.cons slot slots).memberValue (before, others) name room
        tokens =
      ((fun others' => (before, others')) <$>
        slots.memberValue others name : Reader (Filled (α :: αs)))
        room tokens := by
  simp only [memberValue, member, hName, if_false]
  cases slots.member others name with
  | some reader => rfl
  | none =>
      simp only [Option.map_none]
      simp only [Functor.map, bind, pure]
      cases Reader.colon room tokens with
      | error fault => rfl
      | ok found =>
          dsimp only
          cases Reader.skip room found.2 <;> rfl

theorem memberValue_sound
    {slots : Slots αs}
    (hSlots : slots.AllRegular)
    {before after : Filled αs}
    {name : String}
    {value : Json}
    {room : Nat}
    {rest left : List Token}
    (hOk :
      slots.memberValue before name room
          (.colon :: (value.spelled ++ rest)) =
        .ok (after, left)) :
    left = rest ∧ slots.Takes before name value after := by
  induction slots with
  | nil =>
      rcases Reader.bind_eq_ok_iff.1 hOk with
        ⟨_, behind, hColon, hBehind⟩
      cases hColon
      rcases Reader.bind_eq_ok_iff.1 hBehind with
        ⟨_, last, hSkip, hPure⟩
      rw [Reader.skip_spelled] at hSkip
      cases hSkip
      cases hPure
      exact ⟨rfl, trivial⟩
  | @cons α αs slot slots ih =>
      rcases before with ⟨found, others⟩
      rcases after with ⟨found', others'⟩
      rw [Takes]
      by_cases hName : name = slot.name
      · rw [if_pos hName]
        cases found with
        | some a =>
            rw [memberValue_of_filled slots a others hName] at hOk
            cases hOk
        | none =>
            have := hSlots.1
            rw [memberValue_of_eq slots others hName] at hOk
            rcases Reader.bind_eq_ok_iff.1 hOk with
              ⟨_, behind, hColon, hBehind⟩
            cases hColon
            rcases Reader.bind_eq_ok_iff.1 hBehind with
              ⟨a, last, hValue, hPure⟩
            rcases Regular.reads_of_ok hValue with ⟨rfl, hReads⟩
            cases hPure
            exact ⟨rfl, rfl, ⟨a, hReads, rfl⟩, rfl⟩
      · rw [memberValue_of_ne slots found others hName] at hOk
        rw [if_neg hName]
        rcases Reader.map_eq_ok_iff.1 hOk with ⟨more, hMore, hEq⟩
        cases hEq
        rcases ih hSlots.2 hMore with ⟨hLeft, hTakes⟩
        exact ⟨hLeft, rfl, hTakes⟩

theorem memberValue_complete
    {slots : Slots αs}
    {before after : Filled αs}
    {name : String}
    {value : Json}
    (hTakes : slots.Takes before name value after)
    {room : Nat}
    (hRoom : value.nesting ≤ room)
    (rest : List Token) :
    slots.memberValue before name room
        (.colon :: (value.spelled ++ rest)) =
      .ok (after, rest) := by
  induction slots with
  | nil =>
      refine Reader.bind_eq_ok_iff.2 ⟨(), _, rfl, ?_⟩
      exact Reader.bind_eq_ok_iff.2
        ⟨(), _, Reader.skip_spelled value room rest, rfl⟩
  | @cons α αs slot slots ih =>
      rcases before with ⟨found, others⟩
      rcases after with ⟨found', others'⟩
      rw [Takes] at hTakes
      by_cases hName : name = slot.name
      · rw [if_pos hName] at hTakes
        rcases hTakes with ⟨rfl, ⟨a, hReads, rfl⟩, rfl⟩
        rw [memberValue_of_eq slots others' hName]
        refine Reader.bind_eq_ok_iff.2 ⟨(), _, rfl, ?_⟩
        exact Reader.bind_eq_ok_iff.2
          ⟨a, _, hReads room rest hRoom, rfl⟩
      · rw [if_neg hName] at hTakes
        rcases hTakes with ⟨rfl, hOthers⟩
        rw [memberValue_of_ne slots found' others hName]
        exact Reader.map_eq_ok_iff.2 ⟨others', ih hOthers, rfl⟩

theorem members_sound
    {slots : Slots αs}
    (hSlots : slots.AllRegular)
    {fuel : Nat}
    {isFirst : Bool}
    {before after : Filled αs}
    {members : List (String × Json)}
    {room : Nat}
    {rest left : List Token}
    (hOk :
      slots.members fuel isFirst before room
          (spelledMembers isFirst members ++ .endObject :: rest) =
        .ok (after, left)) :
    left = .endObject :: rest ∧ slots.TakesAll before members after := by
  induction members generalizing fuel isFirst before with
  | nil =>
      cases fuel with
      | zero => cases hOk
      | succ fuel =>
          rw [Slots.members, Reader.bind_eq_ok_iff] at hOk
          rcases hOk with ⟨key, behind, hKey, hPure⟩
          rw [spelledMembers, List.nil_append, Reader.memberKey_end]
            at hKey
          cases hKey
          rcases Reader.pure_eq_ok_iff.1 hPure with ⟨rfl, rfl⟩
          exact ⟨rfl, rfl⟩
  | cons first others ih =>
      rcases first with ⟨name, value⟩
      cases fuel with
      | zero => cases hOk
      | succ fuel =>
          rw [Slots.members, Reader.bind_eq_ok_iff] at hOk
          rcases hOk with ⟨key, behind, hKey, hBehind⟩
          rw [Reader.spelledMembers_append, Reader.memberKey_spelled]
            at hKey
          cases hKey
          dsimp only at hBehind
          rcases Reader.bind_eq_ok_iff.1 hBehind with
            ⟨between, last, hValue, hOthers⟩
          rcases memberValue_sound hSlots hValue with ⟨rfl, hTakes⟩
          rcases ih hOthers with ⟨hLeft, hMore⟩
          exact ⟨hLeft, between, hTakes, hMore⟩

theorem members_complete
    {slots : Slots αs}
    {before after : Filled αs}
    {members : List (String × Json)}
    (hTakes : slots.TakesAll before members after)
    {room : Nat}
    (hRoom : ∀ member ∈ members, member.2.nesting ≤ room)
    {fuel : Nat}
    (hFuel : members.length < fuel)
    (isFirst : Bool)
    (rest : List Token) :
    slots.members fuel isFirst before room
        (spelledMembers isFirst members ++ .endObject :: rest) =
      .ok (after, .endObject :: rest) := by
  induction members generalizing fuel isFirst before with
  | nil =>
      cases fuel with
      | zero => cases hFuel
      | succ fuel =>
          rw [Slots.members, hTakes]
          exact Reader.bind_eq_ok_iff.2
            ⟨none, _, Reader.memberKey_end isFirst room rest, rfl⟩
  | cons first others ih =>
      rcases first with ⟨name, value⟩
      rcases hTakes with ⟨between, hTakes, hMore⟩
      cases fuel with
      | zero => cases hFuel
      | succ fuel =>
          have hValue := memberValue_complete hTakes
            (hRoom (name, value) List.mem_cons_self)
            (spelledMembers false others ++ .endObject :: rest)
          have hOthers := ih hMore
            (fun member hMem =>
              hRoom member (List.mem_cons_of_mem _ hMem))
            (Nat.lt_of_succ_lt_succ hFuel) false
          rw [Slots.members, Reader.spelledMembers_append,
            Reader.bind_eq_ok_iff, Reader.memberKey_spelled]
          exact ⟨some name, _, rfl,
            Reader.bind_eq_ok_iff.2 ⟨between, _, hValue, hOthers⟩⟩

------------------------------------------------------------
-- Records as Lists
------------------------------------------------------------

/-
  The fields of a record in a list, one after the other.  At
  the end of the list, defaults stand for what is missing.
-/
def Lines : {αs : List Type} →
    Slots αs → List Json → Row αs → Prop
  | _, .nil, items, _ => items = []
  | _, .cons slot slots, [], (a, others) =>
      slot.default? = some a ∧ slots.Lines [] others
  | _, .cons slot slots, value :: rest, (a, others) =>
      Reads slot.reader value a ∧ slots.Lines rest others

theorem endOfList_sound
    {isFirst : Bool}
    {items : List Json}
    {room : Nat}
    {rest left : List Token}
    (hOk :
      Reader.endOfList room
          (spelledItems isFirst items ++ .endList :: rest) =
        .ok ((), left)) :
    items = [] ∧ left = rest := by
  cases items with
  | nil =>
      cases hOk
      exact ⟨rfl, rfl⟩
  | cons first others =>
      rw [Reader.spelledItems_append] at hOk
      cases isFirst <;> cases first <;> cases hOk

theorem positional_sound
    {slots : Slots αs}
    (hSlots : slots.AllRegular)
    {expected : String}
    {index : Nat}
    {isFirst : Bool}
    {items : List Json}
    {row : Row αs}
    {room : Nat}
    {rest behind left : List Token}
    (hOk :
      slots.positional expected index isFirst room
          (spelledItems isFirst items ++ .endList :: rest) =
        .ok (row, behind))
    (hEnd : Reader.endOfList room behind = .ok ((), left)) :
    left = rest ∧ slots.Lines items row := by
  induction slots generalizing index isFirst items with
  | nil =>
      rcases Reader.pure_eq_ok_iff.1 hOk with ⟨-, rfl⟩
      rcases endOfList_sound hEnd with ⟨hItems, hLeft⟩
      exact ⟨hLeft, hItems⟩
  | @cons α αs slot slots ih =>
      rcases row with ⟨a, others⟩
      rw [positional, Reader.bind_eq_ok_iff] at hOk
      rcases hOk with ⟨found, next, hElement, hNext⟩
      cases items with
      | nil =>
          rw [spelledItems, List.nil_append, Reader.element_end]
            at hElement
          cases hElement
          dsimp only at hNext
          cases hDefault : slot.default? with
          | none =>
              rw [hDefault] at hNext
              cases hNext
          | some b =>
              rw [hDefault] at hNext
              rcases Reader.bind_eq_ok_iff.1 hNext with
                ⟨more, last, hMore, hPure⟩
              cases hPure
              have hEmpty :
                  slots.positional expected (index + 1) isFirst room
                      (spelledItems isFirst [] ++ .endList :: rest) =
                    .ok (others, behind) :=
                hMore
              rcases ih hSlots.2 hEmpty with ⟨hLeft, hLines⟩
              exact ⟨hLeft, hDefault, hLines⟩
      | cons value rest' =>
          have := hSlots.1
          rw [Reader.spelledItems_append, Reader.element_spelled]
            at hElement
          rcases (Reader.means_map some).sound hElement with
            ⟨rfl, b, hReads, rfl⟩
          dsimp only at hNext
          rcases Reader.bind_eq_ok_iff.1 hNext with
            ⟨more, last, hMore, hPure⟩
          cases hPure
          rcases ih hSlots.2 hMore with ⟨hLeft, hLines⟩
          exact ⟨hLeft, hReads, hLines⟩

theorem positional_complete
    {slots : Slots αs}
    {items : List Json}
    {row : Row αs}
    (hLines : slots.Lines items row)
    {room : Nat}
    (hRoom : ∀ value ∈ items, value.nesting ≤ room)
    (expected : String)
    (index : Nat)
    (isFirst : Bool)
    (rest : List Token) :
    slots.positional expected index isFirst room
        (spelledItems isFirst items ++ .endList :: rest) =
      .ok (row, .endList :: rest) := by
  induction slots generalizing index isFirst items with
  | nil =>
      rw [Lines] at hLines
      subst hLines
      rfl
  | @cons α αs slot slots ih =>
      rcases row with ⟨a, others⟩
      rw [positional, Reader.bind_eq_ok_iff]
      cases items with
      | nil =>
          rw [Lines] at hLines
          refine ⟨none, _, Reader.element_end _ isFirst room rest, ?_⟩
          have hMore := ih hLines.2 (by simp) (index + 1) isFirst
          dsimp only
          rw [hLines.1]
          exact Reader.bind_eq_ok_iff.2 ⟨others, _, hMore, rfl⟩
      | cons value rest' =>
          rw [Lines] at hLines
          have hValue := hLines.1 room
            (spelledItems false rest' ++ .endList :: rest)
            (hRoom value List.mem_cons_self)
          have hMore := ih hLines.2
            (fun other hMem => hRoom other (List.mem_cons_of_mem _ hMem))
            (index + 1) false
          rw [Reader.spelledItems_append, Reader.element_spelled]
          exact ⟨some a, _, Reader.map_eq_ok_iff.2 ⟨a, hValue, rfl⟩,
            Reader.bind_eq_ok_iff.2 ⟨others, _, hMore, rfl⟩⟩

end Slots

------------------------------------------------------------
-- Records
------------------------------------------------------------

namespace Reader

/- All fields of a record are read regularly. -/
class RegularSlots
    {αs : List Type}
    (slots : Slots αs) : Prop where
  all : slots.AllRegular

instance : RegularSlots .nil where
  all := trivial

instance
    {α : Type}
    {αs : List Type}
    (name : String)
    (reader : Reader α)
    [hReader : Regular reader]
    (slots : Slots αs)
    [hSlots : RegularSlots slots] :
    RegularSlots (.cons (.required name reader) slots) where
  all := ⟨hReader, hSlots.all⟩

instance
    {α : Type}
    {αs : List Type}
    (name : String)
    (reader : Reader α)
    [hReader : Regular reader]
    (value : α)
    (slots : Slots αs)
    [hSlots : RegularSlots slots] :
    RegularSlots (.cons (.withDefault name reader value) slots) where
  all := ⟨hReader, hSlots.all⟩

theorem length_le_spelledMembers
    (isFirst : Bool)
    (members : List (String × Json)) :
    members.length ≤ (spelledMembers isFirst members).length := by
  induction members generalizing isFirst with
  | nil => exact Nat.le_refl 0
  | cons first others ih =>
      have hOthers := ih false
      simp only [spelledMembers, List.length_cons, List.length_append]
      omega

/-
  A record is written as an object, whose members are taken
  one by one, or as the list of its fields.
-/
def RecordMeans
    {αs : List Type}
    (slots : Slots αs)
    (value : Json)
    (row : Row αs) : Prop :=
  (∃ members filled,
    value = .object members ∧
      slots.TakesAll slots.empty members filled ∧
      slots.complete filled = .ok row) ∨
    ∃ items, value = .list items ∧ slots.Lines items row

theorem means_record
    {αs : List Type}
    (label : String)
    (slots : Slots αs)
    [hSlots : RegularSlots slots] :
    Means (record label slots) (RecordMeans slots) where
  sound := by
    intro value room rest left row hOk
    cases value with
    | list items =>
        rw [spelled_list_append, record, bind_eq_ok_iff] at hOk
        rcases hOk with ⟨found, behind, hFields, hOk⟩
        rcases bind_eq_ok_iff.1 hOk with ⟨_, last, hEnd, hPure⟩
        cases hPure
        rcases nested_eq_ok_iff.1 hFields with ⟨inner, -, hInner⟩
        rcases Slots.positional_sound hSlots.all hInner hEnd with
          ⟨hLeft, hLines⟩
        exact ⟨hLeft, Or.inr ⟨items, rfl, hLines⟩⟩
    | object members =>
        rw [spelled_object_append, record, bind_eq_ok_iff] at hOk
        rcases hOk with ⟨filled, behind, hFields, hOk⟩
        rcases nested_eq_ok_iff.1 hFields with ⟨inner, -, hInner⟩
        rcases Slots.members_sound hSlots.all hInner with
          ⟨rfl, hTakes⟩
        rcases bind_eq_ok_iff.1 hOk with ⟨found, behind, hLift, hEnd⟩
        cases hComplete : slots.complete filled with
        | error fault =>
            rw [lift, hComplete] at hLift
            cases hLift
        | ok complete =>
            rw [lift, hComplete] at hLift
            cases hLift
            cases hEnd
            exact ⟨rfl, Or.inl ⟨members, filled, rfl, hTakes, hComplete⟩⟩
    | _ => cases hOk
  complete := by
    rintro value row (⟨members, filled, rfl, hTakes, hComplete⟩ |
      ⟨items, rfl, hLines⟩) room rest hRoom
    · rcases exists_room_object hRoom with ⟨inner, hPos, hInner⟩
      have hFuel :
          members.length <
            (spelledMembers true members ++
              Token.endObject :: rest).length := by
        have hLength := length_le_spelledMembers true members
        rw [List.length_append, List.length_cons]
        omega
      have hMembers :=
        Slots.members_complete hTakes hInner hFuel true rest
      rw [spelled_object_append, record, bind_eq_ok_iff]
      refine ⟨filled, _,
        nested_eq_ok_iff.2 ⟨inner, hPos, hMembers⟩, ?_⟩
      rw [bind_eq_ok_iff]
      exact ⟨row, _, by rw [lift, hComplete]; rfl, rfl⟩
    · rcases exists_room_list hRoom with ⟨inner, hPos, hInner⟩
      have hFields :=
        Slots.positional_complete hLines hInner
          (withElements label slots.count) 0 true rest
      rw [spelled_list_append, record, bind_eq_ok_iff]
      exact ⟨row, _,
        nested_eq_ok_iff.2 ⟨inner, hPos, hFields⟩, rfl⟩

instance
    {αs : List Type}
    (label : String)
    (slots : Slots αs)
    [RegularSlots slots] :
    Regular (record label slots) :=
  (means_record label slots).regular

end Reader

end SqlCompiler.Json
