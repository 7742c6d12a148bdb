import SqlCompiler.Fragment

/-
  This file relates fragments to pairs of a list of problems
  and a text.  `Fragment.settle` makes a fragment of such a
  pair, every fragment arises in this way, and every operation
  on fragments acts on the two parts separately.

  Key definitions include:
    * `Fragment.settle`

  Key theorems include:
    * `Fragment.eq_settle`
    * `Fragment.combine_settle`
    * `Fragment.join_settle`
    * `Fragment.concat_settle`
    * `Fragment.check_settle`
-/

namespace SqlCompiler.Fragment

/-
  The fragment of a list of problems and a text.  The text
  counts only when there is no problem.
-/
def settle
    (problems : List Problem)
    (sql : String) : Fragment :=
  match Problems.ofList? problems with
  | none => .text sql
  | some problems => .failed problems

theorem text_eq_settle
    (sql : String) :
    Fragment.text sql = settle [] sql :=
  rfl

theorem fail_eq_settle
    (problem : Problem)
    (sql : String) :
    fail problem = settle [problem] sql :=
  rfl

@[simp] theorem problems_settle
    (problems : List Problem)
    (sql : String) :
    (settle problems sql).problems = problems := by
  cases problems <;> rfl

/- A fragment without problems is a text. -/
theorem problems_eq_nil_iff
    {fragment : Fragment} :
    fragment.problems = [] ↔ ∃ sql, fragment = .text sql := by
  cases fragment <;> simp [problems]

/- A settled fragment holds a text when nothing is wrong. -/
theorem settle_eq_text_iff
    {problems : List Problem}
    {sql text : String} :
    settle problems sql = .text text ↔
      problems = [] ∧ sql = text := by
  rw [← Problems.ofList?_eq_none_iff]
  unfold settle
  cases Problems.ofList? problems with
  | none => simp
  | some found => simp

/- A fragment is settled by its problems, or else by its text. -/
theorem eq_settle
    {fragment : Fragment}
    {problems : List Problem}
    {sql : String}
    (hProblems : fragment.problems = problems)
    (hText : problems = [] → fragment = .text sql) :
    fragment = settle problems sql := by
  cases fragment with
  | text text =>
      cases hProblems
      exact hText rfl
  | failed found =>
      unfold settle
      rw [Problems.ofList?_eq_some_iff.2 hProblems]

------------------------------------------------------------
-- Operations on Settled Fragments
------------------------------------------------------------

theorem combine_settle
    (leftProblems rightProblems : List Problem)
    (left right : String) :
    (settle leftProblems left).combine (settle rightProblems right) =
      settle (leftProblems ++ rightProblems) (left ++ right) := by
  apply eq_settle
  · rw [problems_combine, problems_settle, problems_settle]
  · intro hNone
    rcases List.append_eq_nil_iff.1 hNone with ⟨rfl, rfl⟩
    rfl

theorem followedBy_settle
    (problems : List Problem)
    (sql suffix : String) :
    (settle problems sql).followedBy suffix =
      settle problems (sql ++ suffix) := by
  cases problems <;> rfl

theorem after_settle
    (lead : String)
    (problems : List Problem)
    (sql : String) :
    after lead (settle problems sql) =
      settle problems (lead ++ sql) := by
  cases problems <;> rfl

theorem wrapIf_settle
    (left right : String)
    (condition : Bool)
    (problems : List Problem)
    (sql : String) :
    (settle problems sql).wrapIf left right condition =
      settle problems
        (if condition then left ++ sql ++ right else sql) := by
  cases problems <;> cases condition <;> rfl

theorem wrap_settle
    (left right : String)
    (problems : List Problem)
    (sql : String) :
    (settle problems sql).wrap left right =
      settle problems (left ++ sql ++ right) :=
  wrapIf_settle left right true problems sql

/-
  A checked fragment adds its problems, not its text, which
  may as well be empty.
-/
theorem check_settle
    (problems otherProblems : List Problem)
    (sql other : String) :
    (settle problems sql).check (settle otherProblems other) =
      settle (problems ++ otherProblems) sql := by
  cases otherProblems with
  | nil =>
      rw [List.append_nil]
      rfl
  | cons first others =>
      calc
        (settle problems sql).check (settle (first :: others) other)
            = (settle problems sql).combine
                (settle (first :: others) "") := rfl
        _ = settle (problems ++ first :: others) (sql ++ "") :=
              combine_settle problems (first :: others) sql ""
        _ = settle (problems ++ first :: others) sql := by
              rw [String.append_empty]

/- What stands before the items counts as one more of them. -/
theorem foldl_separated_settle
    {α : Type}
    (separator : String)
    (problems : α → List Problem)
    (sql : α → String)
    (items : List α)
    (before : List Problem)
    (lead : String) :
    (items.map fun item => settle (problems item) (sql item)).foldl
        (fun joined item => (joined.followedBy separator).combine item)
        (settle before lead) =
      settle (before ++ items.flatMap problems)
        (separator.intercalate (lead :: items.map sql)) := by
  induction items generalizing before lead with
  | nil => simp
  | cons item rest ih =>
      rw [List.map_cons, List.foldl_cons, followedBy_settle,
        combine_settle, ih, String.intercalate_cons_append]
      simp [List.append_assoc]

/- Joining collects all problems and intercalates the texts. -/
theorem join_settle
    {α : Type}
    (separator : String)
    (problems : α → List Problem)
    (sql : α → String)
    (items : List α) :
    join separator
        (items.map fun item => settle (problems item) (sql item)) =
      settle (items.flatMap problems)
        (separator.intercalate (items.map sql)) := by
  cases items with
  | nil => rfl
  | cons first rest =>
      rw [List.map_cons, join, foldl_separated_settle]
      simp

theorem foldl_combine_settle
    {α : Type}
    (problems : α → List Problem)
    (sql : α → String)
    (items : List α)
    (before : List Problem)
    (lead : String) :
    (items.map fun item => settle (problems item) (sql item)).foldl
        combine (settle before lead) =
      settle (before ++ items.flatMap problems)
        (lead ++ String.join (items.map sql)) := by
  induction items generalizing before lead with
  | nil => simp
  | cons item rest ih =>
      rw [List.map_cons, List.foldl_cons, combine_settle, ih]
      simp [List.append_assoc, String.append_assoc]

/- So does concatenation, without a separator. -/
theorem concat_settle
    {α : Type}
    (problems : α → List Problem)
    (sql : α → String)
    (items : List α) :
    concat
        (items.map fun item => settle (problems item) (sql item)) =
      settle (items.flatMap problems) (String.join (items.map sql)) := by
  rw [concat, empty, text_eq_settle, foldl_combine_settle,
    List.nil_append, String.empty_append]

end SqlCompiler.Fragment
