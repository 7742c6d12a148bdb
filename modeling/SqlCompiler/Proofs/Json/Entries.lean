import SqlCompiler.Proofs.Json.Record

/-
  This file says which JSON values are read as maps.  These are
  the objects whose values can all be read; the keys are free, and
  the members are found in their order, repeated ones included.

  Key definitions include:
    * `Json.Reader.ReadsMember`

  Key theorems include:
    * `Json.Reader.members_sound`
    * `Json.Reader.members_complete`
    * `Json.Reader.means_entries`
-/

namespace SqlCompiler.Json.Reader

variable {α : Type}

/- A member is found under its own key. -/
def ReadsMember
    (value : Reader α)
    (member : String × Json)
    (found : String × α) : Prop :=
  member.1 = found.1 ∧ Reads value member.2 found.2

theorem members_sound
    {value : Reader α}
    [Regular value]
    {fuel : Nat}
    {isFirst : Bool}
    {written : List (String × Json)}
    {room : Nat}
    {rest left : List Token}
    {found : List (String × α)}
    (hOk :
      members value fuel isFirst room
          (spelledMembers isFirst written ++ .endObject :: rest) =
        .ok (found, left)) :
    left = .endObject :: rest ∧
      List.Forall₂ (ReadsMember value) written found := by
  induction written generalizing fuel isFirst found with
  | nil =>
      cases fuel with
      | zero => cases hOk
      | succ fuel =>
          rw [members, bind_eq_ok_iff] at hOk
          rcases hOk with ⟨key, behind, hKey, hPure⟩
          rw [spelledMembers, List.nil_append, memberKey_end] at hKey
          cases hKey
          rcases pure_eq_ok_iff.1 hPure with ⟨rfl, rfl⟩
          exact ⟨rfl, .nil⟩
  | cons first others ih =>
      rcases first with ⟨name, content⟩
      cases fuel with
      | zero => cases hOk
      | succ fuel =>
          rw [members, bind_eq_ok_iff] at hOk
          rcases hOk with ⟨key, behind, hKey, hBehind⟩
          rw [spelledMembers_append, memberKey_spelled] at hKey
          cases hKey
          dsimp only at hBehind
          rcases bind_eq_ok_iff.1 hBehind with
            ⟨_, next, hColon, hValue⟩
          cases hColon
          rcases bind_eq_ok_iff.1 hValue with
            ⟨a, next, hContent, hOthers⟩
          rcases Regular.reads_of_ok hContent with ⟨rfl, hReads⟩
          rcases bind_eq_ok_iff.1 hOthers with
            ⟨more, next, hMore, hPure⟩
          rcases pure_eq_ok_iff.1 hPure with ⟨rfl, rfl⟩
          rcases ih hMore with ⟨hLeft, hRest⟩
          exact ⟨hLeft, .cons ⟨rfl, hReads⟩ hRest⟩

theorem members_complete
    {value : Reader α}
    {written : List (String × Json)}
    {found : List (String × α)}
    (hMembers : List.Forall₂ (ReadsMember value) written found)
    {room : Nat}
    (hRoom : ∀ member ∈ written, member.2.nesting ≤ room)
    {fuel : Nat}
    (hFuel : written.length < fuel)
    (isFirst : Bool)
    (rest : List Token) :
    members value fuel isFirst room
        (spelledMembers isFirst written ++ .endObject :: rest) =
      .ok (found, .endObject :: rest) := by
  induction hMembers generalizing fuel isFirst with
  | nil =>
      cases fuel with
      | zero => cases hFuel
      | succ fuel =>
          rw [members]
          exact bind_eq_ok_iff.2
            ⟨none, _, memberKey_end isFirst room rest, rfl⟩
  | @cons first entry others more hFirst _ ih =>
      rcases first with ⟨name, content⟩
      rcases entry with ⟨_, a⟩
      rcases hFirst with ⟨rfl, hReads⟩
      cases fuel with
      | zero => cases hFuel
      | succ fuel =>
          have hContent := hReads room
            (spelledMembers false others ++ .endObject :: rest)
            (hRoom (name, content) List.mem_cons_self)
          have hOthers := ih
            (fun member hMem =>
              hRoom member (List.mem_cons_of_mem _ hMem))
            (Nat.lt_of_succ_lt_succ hFuel) false
          rw [members, spelledMembers_append, bind_eq_ok_iff,
            memberKey_spelled]
          refine ⟨some name, _, rfl, ?_⟩
          refine bind_eq_ok_iff.2 ⟨(), _, rfl, ?_⟩
          refine bind_eq_ok_iff.2 ⟨a, _, hContent, ?_⟩
          exact bind_eq_ok_iff.2 ⟨more, _, hOthers, rfl⟩

theorem means_entries
    (value : Reader α)
    [Regular value] :
    Means (entries value) fun json found =>
      ∃ written,
        json = .object written ∧
          List.Forall₂ (ReadsMember value) written found where
  sound := by
    intro json room rest left found hOk
    cases json with
    | object written =>
        rw [spelled_object_append, entries, bind_eq_ok_iff] at hOk
        rcases hOk with ⟨more, behind, hMembers, hEnd⟩
        rcases nested_eq_ok_iff.1 hMembers with ⟨inner, -, hInner⟩
        rcases members_sound hInner with ⟨rfl, hWritten⟩
        cases hEnd
        exact ⟨rfl, written, rfl, hWritten⟩
    | _ => cases hOk
  complete := by
    rintro json found ⟨written, rfl, hWritten⟩ room rest hRoom
    rcases exists_room_object hRoom with ⟨inner, hPos, hInner⟩
    have hFuel :
        written.length <
          (spelledMembers true written ++
            Token.endObject :: rest).length := by
      have hLength := length_le_spelledMembers true written
      rw [List.length_append, List.length_cons]
      omega
    have hMembers := members_complete hWritten hInner hFuel true rest
    rw [spelled_object_append, entries, bind_eq_ok_iff]
    exact ⟨found, _, nested_eq_ok_iff.2 ⟨inner, hPos, hMembers⟩, rfl⟩

instance
    (value : Reader α)
    [Regular value] :
    Regular (entries value) :=
  (means_entries value).regular

end SqlCompiler.Json.Reader
