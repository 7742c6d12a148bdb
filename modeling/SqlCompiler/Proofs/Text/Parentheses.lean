/-
  This file says which parentheses of a text belong together.
  Two of them match when the text in between is balanced.  The
  matching pairs of a text made of balanced parts are those of
  its parts.

  Key definitions include:
    * `Text.depthAfter`
    * `Text.Balanced`
    * `Text.DropsPair`

  Key theorems include:
    * `Text.DropsPair.of_append`
    * `Text.DropsPair.of_spaced`
    * `Text.DropsPair.of_parenthesized`
-/

namespace SqlCompiler.Text

------------------------------------------------------------
-- Depth
------------------------------------------------------------

/-
  The number of open parentheses after a text, given those
  before it.  There is none if a parenthesis is closed that
  was never opened.
-/
def depthAfter : Nat → List Char → Option Nat
  | depth, [] => some depth
  | depth, c :: rest =>
      if c = '(' then
        depthAfter (depth + 1) rest
      else if c = ')' then
        match depth with
        | 0 => none
        | outer + 1 => depthAfter outer rest
      else
        depthAfter depth rest

/- A text that closes exactly the parentheses it opens. -/
def Balanced
    (text : List Char) : Prop :=
  depthAfter 0 text = some 0

instance
    (text : List Char) :
    Decidable (Balanced text) :=
  inferInstanceAs (Decidable (depthAfter 0 text = some 0))

/- A text without parentheses. -/
def ParenFree
    (text : List Char) : Prop :=
  '(' ∉ text ∧ ')' ∉ text

theorem depthAfter_opening
    (depth : Nat)
    (rest : List Char) :
    depthAfter depth ('(' :: rest) = depthAfter (depth + 1) rest := by
  simp [depthAfter]

theorem depthAfter_closing
    (depth : Nat)
    (rest : List Char) :
    depthAfter (depth + 1) (')' :: rest) = depthAfter depth rest := by
  simp [depthAfter]

theorem depthAfter_append
    (depth : Nat)
    (left right : List Char) :
    depthAfter depth (left ++ right) =
      (depthAfter depth left).bind fun middle =>
        depthAfter middle right := by
  induction left generalizing depth with
  | nil => rfl
  | cons c rest ih =>
      simp only [List.cons_append, depthAfter]
      split
      · exact ih (depth + 1)
      · split
        · cases depth with
          | zero => rfl
          | succ outer => exact ih outer
        · exact ih depth

/- More open parentheses around a text stay open. -/
theorem depthAfter_raise
    {depth final : Nat}
    {text : List Char}
    (hFinal : depthAfter depth text = some final)
    (more : Nat) :
    depthAfter (depth + more) text = some (final + more) := by
  induction text generalizing depth with
  | nil =>
      have hSame : depth = final := by
        simpa [depthAfter] using hFinal
      simp [depthAfter, hSame]
  | cons c rest ih =>
      simp only [depthAfter] at hFinal ⊢
      split
      · rename_i hOpening
        rw [if_pos hOpening] at hFinal
        rw [Nat.add_right_comm]
        exact ih hFinal
      · rename_i hOther
        rw [if_neg hOther] at hFinal
        split
        · rename_i hClosing
          rw [if_pos hClosing] at hFinal
          cases depth with
          | zero => cases hFinal
          | succ outer =>
              rw [Nat.add_right_comm]
              exact ih hFinal
        · rename_i hPlain
          rw [if_neg hPlain] at hFinal
          exact ih hFinal

/- The depth is the number of parentheses that were not closed. -/
theorem depthAfter_count
    {depth final : Nat}
    {text : List Char}
    (hFinal : depthAfter depth text = some final) :
    depth + text.count '(' = final + text.count ')' := by
  induction text generalizing depth with
  | nil =>
      have hSame : depth = final := by
        simpa [depthAfter] using hFinal
      simp [hSame]
  | cons c rest ih =>
      simp only [depthAfter] at hFinal
      rw [List.count_cons, List.count_cons]
      split at hFinal
      · rename_i hOpening
        have hRest := ih hFinal
        simp [hOpening]
        omega
      · rename_i hOther
        split at hFinal
        · rename_i hClosing
          cases depth with
          | zero => cases hFinal
          | succ outer =>
              have hRest := ih hFinal
              simp [hClosing]
              omega
        · rename_i hPlain
          have hRest := ih hFinal
          simp [hOther, hPlain]
          omega

------------------------------------------------------------
-- Balanced Texts
------------------------------------------------------------

namespace Balanced

variable {left right text : List Char}

/- A balanced text does not change the depth. -/
theorem depthAfter_eq
    (hText : Balanced text)
    (depth : Nat) :
    depthAfter depth text = some depth := by
  have hRaised := depthAfter_raise hText depth
  rwa [Nat.zero_add] at hRaised

theorem append
    (hLeft : Balanced left)
    (hRight : Balanced right) :
    Balanced (left ++ right) := by
  unfold Balanced
  rw [depthAfter_append, hLeft.depthAfter_eq]
  exact hRight

theorem parenthesized
    (hText : Balanced text) :
    Balanced ('(' :: (text ++ [')'])) := by
  unfold Balanced
  rw [depthAfter_opening, depthAfter_append, hText.depthAfter_eq]
  exact depthAfter_closing 0 []

theorem spaced
    {word : List Char}
    (hLeft : Balanced left)
    (hWord : Balanced word)
    (hRight : Balanced right) :
    Balanced (left ++ ' ' :: (word ++ ' ' :: right)) := by
  have hSpace : Balanced [' '] := by
    decide
  exact hLeft.append (hSpace.append (hWord.append (hSpace.append hRight)))

/- Nothing is open behind a balanced text that could be closed. -/
theorem not_closing
    (hLeft : Balanced left)
    (rest : List Char) :
    ¬ Balanced (left ++ ')' :: rest) := by
  intro hAll
  unfold Balanced at hAll
  rw [depthAfter_append, hLeft.depthAfter_eq] at hAll
  cases hAll

/-
  A text is not balanced if it ends inside a group: what comes
  after the opening parenthesis only begins a balanced text.
-/
theorem not_opening
    (hInside : Balanced (left ++ right))
    (before : List Char) :
    ¬ Balanced (before ++ '(' :: left) := by
  intro hAll
  unfold Balanced at hInside hAll
  rw [depthAfter_append] at hInside hAll
  rcases Option.bind_eq_some_iff.1 hAll with ⟨outer, -, hLeft⟩
  rcases Option.bind_eq_some_iff.1 hInside with ⟨inner, hInner, -⟩
  have hRaised := depthAfter_raise hInner (outer + 1)
  rw [depthAfter_opening] at hLeft
  rw [Nat.zero_add, hLeft] at hRaised
  have hZero : 0 = inner + (outer + 1) := Option.some.inj hRaised
  omega

theorem eq_nil_of_closing
    (hLeft : Balanced left)
    {more rest others : List Char}
    (hLonger : Balanced (left ++ more))
    (hRest : ')' :: rest = more ++ ')' :: others) :
    more = [] := by
  cases more with
  | nil => rfl
  | cons c further =>
      injection hRest with hClosing
      rw [← hClosing] at hLonger
      exact absurd hLonger (hLeft.not_closing further)

/-
  A group has one end only: of two balanced texts before a
  closing parenthesis, neither goes on behind the other.
-/
theorem eq_of_closing
    (hLeft : Balanced left)
    (hRight : Balanced right)
    {rest others : List Char}
    (hSame : left ++ ')' :: rest = right ++ ')' :: others) :
    left = right ∧ rest = others := by
  rcases List.append_eq_append_iff.1 hSame with
    ⟨more, rfl, hRest⟩ | ⟨more, rfl, hRest⟩
  · obtain rfl := hLeft.eq_nil_of_closing hRight hRest
    simpa using hRest
  · obtain rfl := hRight.eq_nil_of_closing hLeft hRest
    simpa using hRest.symm

/- A balanced text closes all that it opens. -/
theorem count_eq
    (hText : Balanced text) :
    text.count ')' = text.count '(' := by
  have hCount := depthAfter_count hText
  omega

/- Nothing is closed in it before it was opened. -/
theorem count_le
    {front back : List Char}
    (hText : Balanced (front ++ back)) :
    front.count ')' ≤ front.count '(' := by
  unfold Balanced at hText
  rw [depthAfter_append] at hText
  rcases Option.bind_eq_some_iff.1 hText with ⟨middle, hFront, -⟩
  have hCount := depthAfter_count hFront
  omega

end Balanced

theorem ParenFree.balanced
    {text : List Char}
    (hFree : ParenFree text) :
    Balanced text := by
  unfold Balanced
  induction text with
  | nil => rfl
  | cons c rest ih =>
      have hParts : ('(' ≠ c ∧ '(' ∉ rest) ∧ ')' ≠ c ∧ ')' ∉ rest := by
        simpa [ParenFree] using hFree
      simp only [depthAfter, hParts.1.1.symm, hParts.2.1.symm, if_false]
      exact ih ⟨hParts.1.2, hParts.2.2⟩

------------------------------------------------------------
-- Matching Pairs
------------------------------------------------------------

/-
  A text, and what is left of it without one pair of matching
  parentheses.
-/
inductive DropsPair : List Char → List Char → Prop
  | intro
      (before inside after : List Char)
      (hInside : Balanced inside) :
      DropsPair (before ++ '(' :: (inside ++ ')' :: after))
        (before ++ (inside ++ after))

namespace DropsPair

variable {left right text bare : List Char}

theorem opening_mem
    (hDrop : DropsPair text bare) :
    '(' ∈ text := by
  cases hDrop with
  | intro before inside after _ =>
      exact List.mem_append_right _ List.mem_cons_self

/-
  A pair does not reach across the end of a balanced text.  If it
  is opened before the end, then it is closed there as well.
-/
theorem of_append
    (hLeft : Balanced left)
    (hDrop : DropsPair (left ++ right) bare) :
    (∃ bareLeft, DropsPair left bareLeft ∧ bare = bareLeft ++ right) ∨
      ∃ bareRight, DropsPair right bareRight ∧ bare = left ++ bareRight := by
  generalize hText : left ++ right = text at hDrop
  cases hDrop with
  | intro before inside after hInside =>
      rcases List.append_eq_append_iff.1 hText with
        ⟨middle, rfl, rfl⟩ | ⟨middle, rfl, hRest⟩
      · refine .inr ⟨_, .intro middle inside after hInside, ?_⟩
        rw [List.append_assoc]
      · rcases List.cons_eq_append_iff.1 hRest with
          ⟨rfl, rfl⟩ | ⟨opened, rfl, hOpened⟩
        · refine .inr ⟨_, .intro [] inside after hInside, ?_⟩
          rw [List.append_nil, List.nil_append]
        · rcases List.append_eq_append_iff.1 hOpened with
            ⟨closed, rfl, hClosed⟩ | ⟨rest, rfl, rfl⟩
          · rcases List.cons_eq_append_iff.1 hClosed with
              ⟨rfl, -⟩ | ⟨rest, rfl, rfl⟩
            · rw [← List.append_nil inside] at hInside
              rw [List.append_nil] at hLeft
              exact absurd hLeft (hInside.not_opening before)
            · refine .inl ⟨_, .intro before inside rest hInside, ?_⟩
              simp only [List.append_assoc]
          · exact absurd hLeft (hInside.not_opening before)

/- A word between two texts has no part in a pair. -/
theorem of_spaced
    (hLeft : Balanced left)
    {word : List Char}
    (hWord : ParenFree word)
    (hDrop : DropsPair (left ++ ' ' :: (word ++ ' ' :: right)) bare) :
    (∃ bareLeft,
      DropsPair left bareLeft ∧
        bare = bareLeft ++ ' ' :: (word ++ ' ' :: right)) ∨
      ∃ bareRight,
        DropsPair right bareRight ∧
          bare = left ++ ' ' :: (word ++ ' ' :: bareRight) := by
  have hSpaced : ParenFree (' ' :: (word ++ [' '])) := by
    simpa [ParenFree] using hWord
  have hText :
      ∀ rest,
        ' ' :: (word ++ ' ' :: rest) = ' ' :: (word ++ [' ']) ++ rest := by
    simp
  rcases hDrop.of_append hLeft with hInLeft | ⟨bareRest, hRest, rfl⟩
  · exact .inl hInLeft
  · rw [hText right] at hRest
    rcases hRest.of_append hSpaced.balanced with
      ⟨_, hInWord, -⟩ | ⟨bareRight, hRight, rfl⟩
    · exact absurd hInWord.opening_mem hSpaced.1
    · exact .inr ⟨bareRight, hRight, by rw [hText bareRight]⟩

/- The outermost pair of a group, or one inside of it. -/
theorem of_parenthesized
    (hText : Balanced text)
    (hDrop : DropsPair ('(' :: (text ++ [')'])) bare) :
    bare = text ∨
      ∃ bareText,
        DropsPair text bareText ∧
          bare = '(' :: (bareText ++ [')']) := by
  generalize hGroup : '(' :: (text ++ [')']) = group at hDrop
  cases hDrop with
  | intro before inside after hInside =>
      rcases List.cons_eq_append_iff.1 hGroup with
        ⟨rfl, hOpening⟩ | ⟨rest, rfl, hRest⟩
      · injection hOpening with _ hClosing
        rcases hInside.eq_of_closing hText hClosing with ⟨rfl, rfl⟩
        left
        rw [List.nil_append, List.append_nil]
      · have hPair :
            DropsPair (text ++ [')']) (rest ++ (inside ++ after)) := by
          rw [hRest]
          exact .intro rest inside after hInside
        rcases hPair.of_append hText with
          ⟨bareText, hBare, hEq⟩ | ⟨_, hClosing, -⟩
        · right
          refine ⟨bareText, hBare, ?_⟩
          rw [List.cons_append, hEq]
        · exact absurd hClosing.opening_mem (by decide)

end DropsPair

end SqlCompiler.Text
