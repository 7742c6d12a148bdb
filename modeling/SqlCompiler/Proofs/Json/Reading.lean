import Mathlib.Data.List.Forall2
import SqlCompiler.Json.Reader.Variant
import SqlCompiler.Proofs.Json.Token

/-
  This file says what readers make of JSON values, without
  tokens.  A regular reader that accepts a value once accepts
  it always, with the same result, whatever follows and as
  long as there is room for its nesting.  For each way to
  build a reader there is a condition on values that says
  exactly what the reader accepts.

  Key definitions include:
    * `Json.Reader.Reads`
    * `Json.Reader.Regular`
    * `Json.Reader.Means`
    * `Json.Reader.RegularVariants`

  Key theorems include:
    * `Json.Reader.means_optional`
    * `Json.Reader.means_list`
    * `Json.Reader.means_variant`
    * `Json.read_compact_of_reads`
    * `Json.reads_of_read_compact`
-/

namespace SqlCompiler.Json

namespace Reader

variable {α β : Type}

------------------------------------------------------------
-- Running Readers
------------------------------------------------------------

theorem bind_eq_ok_iff
    {reader : Reader α}
    {next : α → Reader β}
    {room : Nat}
    {tokens : List Token}
    {result : β × List Token} :
    (reader >>= next) room tokens = .ok result ↔
      ∃ a left,
        reader room tokens = .ok (a, left) ∧
          next a room left = .ok result := by
  simp only [bind]
  cases reader room tokens with
  | error fault => simp
  | ok found =>
      rcases found with ⟨a, left⟩
      simp

theorem map_eq_ok_iff
    {reader : Reader α}
    {f : α → β}
    {room : Nat}
    {tokens left : List Token}
    {b : β} :
    (f <$> reader) room tokens = .ok (b, left) ↔
      ∃ a, reader room tokens = .ok (a, left) ∧ f a = b := by
  have hMap :
      (f <$> reader) room tokens =
        (reader >>= fun a => pure (f a)) room tokens :=
    rfl
  rw [hMap, bind_eq_ok_iff]
  simp [pure, and_comm]

theorem pure_eq_ok_iff
    {a b : α}
    {room : Nat}
    {tokens left : List Token} :
    (pure a : Reader α) room tokens = .ok (b, left) ↔
      a = b ∧ tokens = left := by
  simp [pure]

theorem nested_eq_ok_iff
    {reader : Reader α}
    {room : Nat}
    {tokens : List Token}
    {result : α × List Token} :
    nested reader room tokens = .ok result ↔
      ∃ inner, room = inner + 1 ∧ reader inner tokens = .ok result := by
  cases room with
  | zero => simp [nested]
  | succ inner => simp [nested]

------------------------------------------------------------
-- Regular Readers
------------------------------------------------------------

/-
  The reader takes the value for the result: it consumes the
  tokens of the value and nothing else, given enough room.
-/
def Reads
    (reader : Reader α)
    (value : Json)
    (a : α) : Prop :=
  ∀ room rest,
    value.nesting ≤ room →
      reader room (value.spelled ++ rest) = .ok (a, rest)

/- A reader that takes a value it accepts once. -/
class Regular
    (reader : Reader α) : Prop where
  reads_of_ok :
    ∀ {value : Json} {room : Nat} {rest left : List Token} {a : α},
      reader room (value.spelled ++ rest) = .ok (a, left) →
        left = rest ∧ Reads reader value a

/- A reader takes a value for one result at most. -/
theorem Reads.unique
    {reader : Reader α}
    {value : Json}
    {a b : α}
    (hLeft : Reads reader value a)
    (hRight : Reads reader value b) :
    a = b := by
  have hSame :=
    (hLeft value.nesting [] (Nat.le_refl _)).symm.trans
      (hRight value.nesting [] (Nat.le_refl _))
  simpa using hSame

/-
  The condition says exactly which values the reader accepts,
  and for which results.
-/
structure Means
    (reader : Reader α)
    (meaning : Json → α → Prop) : Prop where
  sound :
    ∀ {value : Json} {room : Nat} {rest left : List Token} {a : α},
      reader room (value.spelled ++ rest) = .ok (a, left) →
        left = rest ∧ meaning value a
  complete :
    ∀ {value : Json} {a : α}, meaning value a → Reads reader value a

namespace Means

variable {reader : Reader α} {meaning : Json → α → Prop}

theorem regular
    (hMeans : Means reader meaning) :
    Regular reader where
  reads_of_ok hOk :=
    ⟨(hMeans.sound hOk).1, hMeans.complete (hMeans.sound hOk).2⟩

theorem reads_iff
    (hMeans : Means reader meaning)
    {value : Json}
    {a : α} :
    Reads reader value a ↔ meaning value a := by
  constructor
  · intro hReads
    exact (hMeans.sound (hReads value.nesting [] (Nat.le_refl _))).2
  · exact hMeans.complete

theorem congr
    (hMeans : Means reader meaning)
    {other : Json → α → Prop}
    (hSame : ∀ value a, meaning value a ↔ other value a) :
    Means reader other where
  sound hOk :=
    ⟨(hMeans.sound hOk).1, (hSame _ _).1 (hMeans.sound hOk).2⟩
  complete hOther := hMeans.complete ((hSame _ _).2 hOther)

end Means

------------------------------------------------------------
-- Single Values
------------------------------------------------------------

/- One token that opens no bracket. -/
theorem means_single
    {expected : String}
    {accept : Token → Option (Except Fault α)}
    (hList : accept .beginList = none)
    (hObject : accept .beginObject = none) :
    Means (single expected accept) fun value a =>
      ∃ token, value.spelled = [token] ∧ accept token = some (.ok a) where
  sound := by
    intro value room rest left a hOk
    have hToken :
        ∀ token,
          value.spelled = [token] →
            left = rest ∧
              ∃ token,
                value.spelled = [token] ∧
                  accept token = some (.ok a) := by
      intro token hSpelled
      rw [hSpelled, List.singleton_append, single] at hOk
      cases hAccept : accept token with
      | none => simp [hAccept] at hOk
      | some result =>
          cases result with
          | error fault => simp [hAccept] at hOk
          | ok b =>
              simp only [hAccept, Except.ok.injEq, Prod.mk.injEq] at hOk
              exact ⟨hOk.2.symm, token, hSpelled, by rw [hAccept, hOk.1]⟩
    cases value with
    | null => exact hToken _ rfl
    | boolean value => exact hToken _ rfl
    | number literal => exact hToken _ rfl
    | string value => exact hToken _ rfl
    | list items => simp [spelled, single, hList] at hOk
    | object members => simp [spelled, single, hObject] at hOk
  complete := by
    rintro value a ⟨token, hSpelled, hAccept⟩ room rest -
    simp [hSpelled, single, hAccept]

theorem means_string :
    Means string fun value a => value = .string a :=
  (means_single rfl rfl).congr fun value a => by
    cases value <;> simp [spelled]

theorem means_boolean :
    Means boolean fun value a => value = .boolean a :=
  (means_single rfl rfl).congr fun value a => by
    cases value <;> simp [spelled]

theorem means_unit :
    Means unit fun value _ => value = .null :=
  (means_single rfl rfl).congr fun value a => by
    cases value <;> simp [spelled]

theorem means_integer
    {expected : String}
    {least greatest : Int}
    {convert : Int → α} :
    Means (integer expected least greatest convert) fun value a =>
      ∃ literal i,
        value = .number literal ∧
          literal.number? = some (.integer i) ∧
          (least ≤ i ∧ i ≤ greatest) ∧ convert i = a :=
  (means_single rfl rfl).congr fun value a => by
    cases value with
    | number literal =>
        cases hNumber : literal.number? with
        | none => simp [spelled, hNumber]
        | some number =>
            cases number with
            | double negative magnitude => simp [spelled, hNumber]
            | integer i =>
                by_cases hRange : least ≤ i ∧ i ≤ greatest <;>
                  simp [spelled, hNumber, hRange]
    | _ => simp [spelled]

instance : Regular string :=
  means_string.regular

instance : Regular boolean :=
  means_boolean.regular

instance : Regular unit :=
  means_unit.regular

instance : Regular int64 :=
  means_integer.regular

instance : Regular uint8 :=
  means_integer.regular

/- A 64-bit integer is read from its literal. -/
theorem reads_int64
    (value : Int64) :
    Reads int64 (.integer value.toInt) value := by
  apply means_integer.complete
  have hLeast : Int64.minValue.toInt ≤ value.toInt :=
    Int64.minValue_le_toInt value
  have hGreatest : value.toInt ≤ Int64.maxValue.toInt :=
    Int64.toInt_le value
  exact ⟨.ofInt value.toInt, value.toInt, rfl,
    Numeral.number?_ofInt hLeast hGreatest, ⟨hLeast, hGreatest⟩,
    Int64.ofInt_toInt value⟩

/- So is a byte. -/
theorem reads_uint8
    (value : UInt8) :
    Reads uint8 (.integer value.toNat) value := by
  apply means_integer.complete
  have hByte : value.toNat < 256 := UInt8.toNat_lt value
  have hLeast : Int64.minValue.toInt ≤ (value.toNat : Int) :=
    Int.le_trans (by decide) (Int.natCast_nonneg value.toNat)
  have hGreatest : (value.toNat : Int) ≤ Int64.maxValue.toInt :=
    Int.le_trans (Int.ofNat_le.2 (Nat.le_of_lt hByte)) (by decide)
  exact ⟨.ofInt value.toNat, value.toNat, rfl,
    Numeral.number?_ofInt hLeast hGreatest, ⟨by omega, by omega⟩,
    UInt8.ofNat_toNat⟩

------------------------------------------------------------
-- Mapped and Optional Values
------------------------------------------------------------

theorem means_map
    {reader : Reader α}
    [Regular reader]
    (f : α → β) :
    Means (f <$> reader) fun value b =>
      ∃ a, Reads reader value a ∧ f a = b where
  sound := by
    intro value room rest left b hOk
    rcases map_eq_ok_iff.1 hOk with ⟨a, hReader, hEq⟩
    rcases Regular.reads_of_ok hReader with ⟨hLeft, hReads⟩
    exact ⟨hLeft, a, hReads, hEq⟩
  complete := by
    rintro value b ⟨a, hReads, hEq⟩ room rest hRoom
    exact map_eq_ok_iff.2 ⟨a, hReads room rest hRoom, hEq⟩

instance
    {reader : Reader α}
    [Regular reader]
    (f : α → β) :
    Regular (f <$> reader) :=
  (means_map f).regular

theorem optional_of_ne_null
    {reader : Reader α}
    {value : Json}
    (hNull : value ≠ .null)
    (room : Nat)
    (rest : List Token) :
    optional reader room (value.spelled ++ rest) =
      (some <$> reader) room (value.spelled ++ rest) := by
  cases value with
  | null => exact absurd rfl hNull
  | _ => rfl

theorem means_optional
    (reader : Reader α)
    [Regular reader] :
    Means (optional reader) fun value result =>
      (value = .null ∧ result = none) ∨
        (value ≠ .null ∧ ∃ a, Reads reader value a ∧ some a = result) where
  sound := by
    intro value room rest left result hOk
    by_cases hNull : value = .null
    · subst hNull
      cases hOk
      exact ⟨rfl, Or.inl ⟨rfl, rfl⟩⟩
    · rw [optional_of_ne_null hNull] at hOk
      rcases (means_map some).sound hOk with ⟨hLeft, hReads⟩
      exact ⟨hLeft, Or.inr ⟨hNull, hReads⟩⟩
  complete := by
    rintro value result (⟨rfl, rfl⟩ | ⟨hNull, hReads⟩) room rest hRoom
    · rfl
    · rw [optional_of_ne_null hNull]
      exact (means_map some).complete hReads room rest hRoom

instance
    (reader : Reader α)
    [Regular reader] :
    Regular (optional reader) :=
  (means_optional reader).regular

------------------------------------------------------------
-- Lists
------------------------------------------------------------

theorem spelled_list_append
    (items : List Json)
    (rest : List Token) :
    (Json.list items).spelled ++ rest =
      .beginList :: (spelledItems true items ++ .endList :: rest) := by
  simp [spelled]

/- An element is read behind the comma that it may need. -/
theorem element_spelled
    (item : Reader α)
    (isFirst : Bool)
    (value : Json)
    (room : Nat)
    (rest : List Token) :
    element item isFirst room
        (separator isFirst ++ value.spelled ++ rest) =
      (some <$> item) room (value.spelled ++ rest) := by
  cases isFirst <;> cases value <;> rfl

theorem element_end
    (item : Reader α)
    (isFirst : Bool)
    (room : Nat)
    (rest : List Token) :
    element item isFirst room (.endList :: rest) =
      .ok (none, .endList :: rest) := by
  cases isFirst <;> rfl

theorem spelledItems_append
    (isFirst : Bool)
    (item : Json)
    (others : List Json)
    (rest : List Token) :
    spelledItems isFirst (item :: others) ++ rest =
      separator isFirst ++ item.spelled ++
        (spelledItems false others ++ rest) := by
  rw [spelledItems, List.append_assoc]

theorem elements_sound
    {item : Reader α}
    [Regular item]
    {fuel : Nat}
    {isFirst : Bool}
    {items : List Json}
    {room : Nat}
    {rest left : List Token}
    {found : List α}
    (hOk :
      elements item fuel isFirst room
          (spelledItems isFirst items ++ .endList :: rest) =
        .ok (found, left)) :
    left = .endList :: rest ∧ List.Forall₂ (Reads item) items found := by
  induction items generalizing fuel isFirst found with
  | nil =>
      cases fuel with
      | zero => cases hOk
      | succ fuel =>
          rw [elements, bind_eq_ok_iff] at hOk
          rcases hOk with ⟨next, others, hNext, hRest⟩
          rw [spelledItems, List.nil_append, element_end] at hNext
          cases hNext
          rcases pure_eq_ok_iff.1 hRest with ⟨rfl, rfl⟩
          exact ⟨rfl, .nil⟩
  | cons first others ih =>
      cases fuel with
      | zero => cases hOk
      | succ fuel =>
          rw [elements, bind_eq_ok_iff] at hOk
          rcases hOk with ⟨next, behind, hNext, hRest⟩
          rw [spelledItems_append, element_spelled] at hNext
          rcases (means_map some).sound hNext with
            ⟨rfl, a, hReads, rfl⟩
          dsimp only at hRest
          rcases bind_eq_ok_iff.1 hRest with
            ⟨more, behind, hMore, hEnd⟩
          rcases pure_eq_ok_iff.1 hEnd with ⟨rfl, rfl⟩
          rcases ih hMore with ⟨hLeft, hOthers⟩
          exact ⟨hLeft, .cons hReads hOthers⟩

theorem elements_complete
    {item : Reader α}
    {items : List Json}
    {found : List α}
    (hItems : List.Forall₂ (Reads item) items found)
    {room : Nat}
    (hRoom : ∀ value ∈ items, value.nesting ≤ room)
    {fuel : Nat}
    (hFuel : items.length < fuel)
    (isFirst : Bool)
    (rest : List Token) :
    elements item fuel isFirst room
        (spelledItems isFirst items ++ .endList :: rest) =
      .ok (found, .endList :: rest) := by
  induction hItems generalizing fuel isFirst with
  | nil =>
      cases fuel with
      | zero => cases hFuel
      | succ fuel =>
          rw [elements]
          exact bind_eq_ok_iff.2
            ⟨none, _, element_end item isFirst room rest, rfl⟩
  | @cons first a others more hReads _ ih =>
      cases fuel with
      | zero => cases hFuel
      | succ fuel =>
          have hFirst := hReads room
            (spelledItems false others ++ .endList :: rest)
            (hRoom first List.mem_cons_self)
          have hOthers := ih
            (fun value hMem => hRoom value (List.mem_cons_of_mem _ hMem))
            (Nat.lt_of_succ_lt_succ hFuel) false
          rw [elements, spelledItems_append, bind_eq_ok_iff,
            element_spelled]
          exact ⟨some a, _, map_eq_ok_iff.2 ⟨a, hFirst, rfl⟩,
            bind_eq_ok_iff.2 ⟨more, _, hOthers, rfl⟩⟩

theorem length_le_spelledItems
    (isFirst : Bool)
    (items : List Json) :
    items.length ≤ (spelledItems isFirst items).length := by
  induction items generalizing isFirst with
  | nil => exact Nat.le_refl 0
  | cons first others ih =>
      rcases exists_start_spelled first with ⟨token, more, hSpelled, -⟩
      have hOthers := ih false
      simp only [spelledItems, hSpelled, List.length_cons,
        List.length_append]
      omega

theorem means_list
    (item : Reader α)
    [Regular item] :
    Means (list item) fun value found =>
      ∃ items, value = .list items ∧ List.Forall₂ (Reads item) items found where
  sound := by
    intro value room rest left found hOk
    cases value with
    | list items =>
        rw [spelled_list_append, list, bind_eq_ok_iff] at hOk
        rcases hOk with ⟨more, behind, hElements, hEnd⟩
        rcases nested_eq_ok_iff.1 hElements with ⟨inner, -, hInner⟩
        rcases elements_sound hInner with ⟨rfl, hItems⟩
        cases hEnd
        exact ⟨rfl, items, rfl, hItems⟩
    | _ => cases hOk
  complete := by
    rintro value found ⟨items, rfl, hItems⟩ room rest hRoom
    rcases exists_room_list hRoom with ⟨inner, hPos, hInner⟩
    have hFuel :
        items.length <
          (spelledItems true items ++ Token.endList :: rest).length := by
      have hLength := length_le_spelledItems true items
      rw [List.length_append, List.length_cons]
      omega
    have hElements := elements_complete hItems hInner hFuel true rest
    rw [spelled_list_append, list, bind_eq_ok_iff]
    exact ⟨found, .endList :: rest,
      nested_eq_ok_iff.2 ⟨inner, hPos, hElements⟩, rfl⟩

instance
    (item : Reader α)
    [Regular item] :
    Regular (list item) :=
  (means_list item).regular

------------------------------------------------------------
-- Variants
------------------------------------------------------------

theorem spelled_object_append
    (members : List (String × Json))
    (rest : List Token) :
    (Json.object members).spelled ++ rest =
      .beginObject ::
        (spelledMembers true members ++ .endObject :: rest) := by
  simp [spelled]

theorem spelledMembers_append
    (isFirst : Bool)
    (name : String)
    (value : Json)
    (others : List (String × Json))
    (rest : List Token) :
    spelledMembers isFirst ((name, value) :: others) ++ rest =
      separator isFirst ++ .string (.ok name) :: .colon ::
        (value.spelled ++ (spelledMembers false others ++ rest)) := by
  simp [spelledMembers]

theorem memberKey_spelled
    (isFirst : Bool)
    (name : String)
    (room : Nat)
    (rest : List Token) :
    memberKey isFirst room
        (separator isFirst ++ .string (.ok name) :: rest) =
      .ok (some name, rest) := by
  cases isFirst <;> rfl

theorem memberKey_end
    (isFirst : Bool)
    (room : Nat)
    (rest : List Token) :
    memberKey isFirst room (.endObject :: rest) =
      .ok (none, .endObject :: rest) := by
  cases isFirst <;> rfl

/- The contents of all variants are read regularly. -/
class RegularVariants
    (variants : List (Variant α)) : Prop where
  content :
    ∀ variant ∈ variants, Regular variant.payload.content

instance : RegularVariants ([] : List (Variant α)) where
  content variant hMem := by
    cases hMem

theorem RegularVariants.cons
    {variant : Variant α}
    {variants : List (Variant α)}
    (hVariant : Regular variant.payload.content)
    (hVariants : RegularVariants variants) :
    RegularVariants (variant :: variants) where
  content other hMem := by
    rcases List.mem_cons.1 hMem with rfl | hOld
    · exact hVariant
    · exact hVariants.content other hOld

theorem means_nothing
    (result : α) :
    Means (Payload.nothing result).content fun value a =>
      value = .null ∧ a = result where
  sound := by
    intro value room rest left a hOk
    rcases bind_eq_ok_iff.1 hOk with ⟨_, behind, hUnit, hPure⟩
    rcases means_unit.sound hUnit with ⟨rfl, hNull⟩
    rcases pure_eq_ok_iff.1 hPure with ⟨rfl, rfl⟩
    exact ⟨rfl, hNull, rfl⟩
  complete := by
    rintro value a ⟨rfl, rfl⟩ room rest -
    rfl

instance
    (name : String)
    (result : α)
    (variants : List (Variant α))
    [RegularVariants variants] :
    RegularVariants (⟨name, .nothing result⟩ :: variants) :=
  .cons (means_nothing result).regular inferInstance

instance
    (name : String)
    (reader : Reader α)
    [hReader : Regular reader]
    (variants : List (Variant α))
    [RegularVariants variants] :
    RegularVariants (⟨name, .single reader⟩ :: variants) :=
  .cons hReader inferInstance

instance
    (name : String)
    (reader : Reader α)
    [hReader : Regular reader]
    (variants : List (Variant α))
    [RegularVariants variants] :
    RegularVariants (⟨name, .record reader⟩ :: variants) :=
  .cons hReader inferInstance

theorem RegularVariants.chosen
    {variants : List (Variant α)}
    [RegularVariants variants]
    {name : String}
    {payload : Payload α}
    (hChosen : chosen variants name = .ok payload) :
    Regular payload.content := by
  unfold Reader.chosen at hChosen
  split at hChosen
  · rename_i variant hFound
    cases hChosen
    exact RegularVariants.content variant
      (List.mem_of_find?_eq_some hFound)
  · cases hChosen

/-
  A variant is written as its name, or as an object of one
  member that maps its name to its content.
-/
def VariantMeans
    (variants : List (Variant α))
    (value : Json)
    (a : α) : Prop :=
  ∃ name payload,
    chosen variants name = .ok payload ∧
      ((value = .string name ∧ payload.bare = .ok a) ∨
        ∃ content,
          value = .tagged name content ∧
            Reads payload.content content a)

/- A name alone is enough for variants without content. -/
theorem variant_string_iff
    {variants : List (Variant α)}
    {name : String}
    {room : Nat}
    {rest left : List Token}
    {a : α} :
    variant variants room ((Json.string name).spelled ++ rest) =
        .ok (a, left) ↔
      left = rest ∧
        ∃ payload,
          chosen variants name = .ok payload ∧ payload.bare = .ok a := by
  have hVariant :
      variant variants room ((Json.string name).spelled ++ rest) =
        (chosen variants name >>= fun payload =>
          payload.bare >>= fun b => pure (b, rest)) :=
    rfl
  rw [hVariant]
  cases chosen variants name with
  | error fault => simp [bind, Except.bind]
  | ok payload =>
      cases hBare : payload.bare with
      | error fault => simp [bind, Except.bind, hBare]
      | ok b =>
          simp [bind, Except.bind, pure, Except.pure, hBare, and_comm,
            eq_comm]

/- The key decides how the content of a variant is read. -/
theorem tagged_sound
    {variants : List (Variant α)}
    [RegularVariants variants]
    {members : List (String × Json)}
    {room : Nat}
    {rest left : List Token}
    {a : α}
    (hOk :
      tagged variants room
          (spelledMembers true members ++ .endObject :: rest) =
        .ok (a, left)) :
    ∃ name content others payload,
      members = (name, content) :: others ∧
        chosen variants name = .ok payload ∧
        Reads payload.content content a ∧
        left = spelledMembers false others ++ .endObject :: rest := by
  rw [tagged, bind_eq_ok_iff] at hOk
  rcases hOk with ⟨key, behind, hKey, hOk⟩
  cases members with
  | nil =>
      rw [spelledMembers, List.nil_append, memberKey_end] at hKey
      cases hKey
      cases hOk
  | cons first others =>
      rcases first with ⟨name, content⟩
      rw [spelledMembers_append, memberKey_spelled] at hKey
      cases hKey
      dsimp only at hOk
      rw [bind_eq_ok_iff] at hOk
      rcases hOk with ⟨payload, behind, hChosen, hOk⟩
      cases hFound : chosen variants name with
      | error fault =>
          rw [hFound] at hChosen
          cases hChosen
      | ok found =>
          rw [hFound] at hChosen
          cases hChosen
          rw [bind_eq_ok_iff] at hOk
          rcases hOk with ⟨_, behind, hColon, hOk⟩
          cases hColon
          have := RegularVariants.chosen hFound
          rcases Regular.reads_of_ok hOk with ⟨rfl, hReads⟩
          exact ⟨name, content, others, payload, rfl, hFound, hReads,
            rfl⟩

theorem tagged_complete
    {variants : List (Variant α)}
    {name : String}
    {content : Json}
    {payload : Payload α}
    {a : α}
    (hChosen : chosen variants name = .ok payload)
    (hReads : Reads payload.content content a)
    {room : Nat}
    (hRoom : content.nesting ≤ room)
    (rest : List Token) :
    tagged variants room
        (spelledMembers true [(name, content)] ++ .endObject :: rest) =
      .ok (a, .endObject :: rest) := by
  have hContent := hReads room (.endObject :: rest) hRoom
  rw [tagged, spelledMembers_append, bind_eq_ok_iff, memberKey_spelled]
  refine ⟨some name, _, rfl, ?_⟩
  dsimp only
  rw [bind_eq_ok_iff]
  refine ⟨payload, _, by rw [lift, hChosen]; rfl, ?_⟩
  exact bind_eq_ok_iff.2 ⟨(), _, rfl, hContent⟩

/- Nothing but a closing brace may follow the content. -/
theorem endOfVariant_sound
    {others : List (String × Json)}
    {room : Nat}
    {rest left : List Token}
    (hOk :
      endOfVariant room
          (spelledMembers false others ++ .endObject :: rest) =
        .ok ((), left)) :
    others = [] ∧ left = rest := by
  cases others with
  | nil =>
      cases hOk
      exact ⟨rfl, rfl⟩
  | cons first others => cases hOk

theorem means_variant
    (variants : List (Variant α))
    [RegularVariants variants] :
    Means (variant variants) (VariantMeans variants) where
  sound := by
    intro value room rest left a hOk
    cases value with
    | string name =>
        rcases variant_string_iff.1 hOk with
          ⟨hLeft, payload, hChosen, hBare⟩
        exact ⟨hLeft, name, payload, hChosen, Or.inl ⟨rfl, hBare⟩⟩
    | object members =>
        rw [spelled_object_append, variant, bind_eq_ok_iff] at hOk
        rcases hOk with ⟨b, behind, hTagged, hOk⟩
        rcases bind_eq_ok_iff.1 hOk with ⟨_, last, hEnd, hPure⟩
        rcases pure_eq_ok_iff.1 hPure with ⟨rfl, rfl⟩
        rcases nested_eq_ok_iff.1 hTagged with ⟨inner, -, hInner⟩
        rcases tagged_sound hInner with
          ⟨name, content, others, payload, rfl, hChosen, hReads, rfl⟩
        rcases endOfVariant_sound hEnd with ⟨rfl, rfl⟩
        exact ⟨rfl, name, payload, hChosen,
          Or.inr ⟨content, rfl, hReads⟩⟩
    | _ => cases hOk
  complete := by
    rintro value a ⟨name, payload, hChosen, ⟨rfl, hBare⟩ |
      ⟨content, rfl, hReads⟩⟩ room rest hRoom
    · exact variant_string_iff.2 ⟨rfl, payload, hChosen, hBare⟩
    · rcases exists_room_object hRoom with ⟨inner, hPos, hInner⟩
      have hContent : content.nesting ≤ inner :=
        hInner (name, content) List.mem_cons_self
      have hTagged := tagged_complete hChosen hReads hContent rest
      rw [Json.tagged, spelled_object_append, variant, bind_eq_ok_iff]
      exact ⟨a, _, nested_eq_ok_iff.2 ⟨inner, hPos, hTagged⟩, rfl⟩

instance
    (variants : List (Variant α))
    [RegularVariants variants] :
    Regular (variant variants) :=
  (means_variant variants).regular

end Reader

------------------------------------------------------------
-- Whole Texts
------------------------------------------------------------

variable {α : Type} {reader : Reader α} {value : Json} {a : α}

/- A text of a value that is taken can be read. -/
theorem read_compact_of_reads
    (hValue : value.WellFormed)
    (hNesting : value.nesting ≤ nestingLimit)
    (hReads : reader.Reads value a) :
    read reader value.compact = .ok a := by
  have hTokens := hReads nestingLimit [] hNesting
  rw [List.append_nil] at hTokens
  rw [read, hValue.tokens_compact, hTokens]

/- A value is taken if its text can be read. -/
theorem reads_of_read_compact
    [reader.Regular]
    (hValue : value.WellFormed)
    (hRead : read reader value.compact = .ok a) :
    reader.Reads value a := by
  rw [read, hValue.tokens_compact, ← List.append_nil value.spelled]
    at hRead
  split at hRead
  · cases hRead
  · rename_i b hOk
    cases hRead
    exact (Reader.Regular.reads_of_ok hOk).2
  · cases hRead

end SqlCompiler.Json
