import Mathlib.Data.List.TakeWhile
import SqlCompiler.Dialect.Basic
import SqlCompiler.Expr.Basic

/-
  This file groups chains: operands with binary operators
  between them, all on one level of parentheses.  Precedence
  climbing makes a tree of a chain, with every operator
  associating to the left.

  The root of that tree is the last of the operators that bind
  loosest.  This fixes the tree without reference to the order
  in which climbing builds it.

  Key definitions include:
    * `Chain`
    * `Chain.climb`
    * `Chain.IsRoot`
    * `Expr.leaves`

  Key theorems include:
    * `Chain.climb_of_isRoot`
    * `Chain.exists_isRoot`
    * `Chain.leaves_climb`
    * `Chain.tree_extend`
    * `Chain.isRoot_of_tree_extend`
-/

namespace SqlCompiler

/- An operand, followed by operators with their next operand. -/
structure Chain where
  head : Expr
  steps : List (Operator × Expr)

namespace Chain

def single
    (operand : Expr) : Chain :=
  ⟨operand, []⟩

/- Two chains with an operator between them. -/
def extend
    (chain : Chain)
    (operator : Operator)
    (next : Chain) : Chain :=
  ⟨chain.head, chain.steps ++ (operator, next.head) :: next.steps⟩

------------------------------------------------------------
-- Precedence Climbing
------------------------------------------------------------

/- Whether a step binds tighter than an operator before it. -/
def tighter
    (operator : Operator)
    (step : Operator × Expr) : Bool :=
  operator.precedence < step.1.precedence

/-
  Climb through the steps after a left operand.  The right
  operand of an operator is what its next operand becomes with
  the tighter steps that follow; with the result for a left
  operand, climbing goes on behind these.
-/
def climb
    (left : Expr) : List (Operator × Expr) → Expr
  | [] => left
  | (operator, operand) :: rest =>
      climb
        (.binary operator.text left
          (climb operand (rest.takeWhile (tighter operator))))
        (rest.dropWhile (tighter operator))
termination_by steps => steps.length
decreasing_by
  · exact Nat.lt_succ_of_le (List.takeWhile_sublist _).length_le
  · exact Nat.lt_succ_of_le (List.dropWhile_sublist _).length_le

/- The tree of a chain. -/
def tree
    (chain : Chain) : Expr :=
  climb chain.head chain.steps

@[simp] theorem climb_nil
    (left : Expr) :
    climb left [] = left := by
  rw [climb]

theorem climb_cons
    (left : Expr)
    (operator : Operator)
    (operand : Expr)
    (rest : List (Operator × Expr)) :
    climb left ((operator, operand) :: rest) =
      climb
        (.binary operator.text left
          (climb operand (rest.takeWhile (tighter operator))))
        (rest.dropWhile (tighter operator)) := by
  rw [climb]

@[simp] theorem tree_single
    (operand : Expr) :
    (single operand).tree = operand :=
  climb_nil operand

------------------------------------------------------------
-- Roots
------------------------------------------------------------

/-
  An operator of a chain is the root when no step before it
  binds looser and every step after it binds tighter.
-/
structure IsRoot
    (before : List (Operator × Expr))
    (operator : Operator)
    (after : List (Operator × Expr)) : Prop where
  before_le :
    ∀ step ∈ before, operator.precedence ≤ step.1.precedence
  lt_after :
    ∀ step ∈ after, operator.precedence < step.1.precedence

/- Taking steps while they hold a test ends at one that fails it. -/
theorem takeWhile_append_stop
    {test : Operator × Expr → Bool}
    {stop : Operator × Expr}
    (hStop : test stop = false)
    (before after : List (Operator × Expr)) :
    (before ++ stop :: after).takeWhile test =
      before.takeWhile test := by
  induction before with
  | nil => simp [hStop]
  | cons first rest ih => simp [List.takeWhile_cons, ih]

theorem dropWhile_append_stop
    {test : Operator × Expr → Bool}
    {stop : Operator × Expr}
    (hStop : test stop = false)
    (before after : List (Operator × Expr)) :
    (before ++ stop :: after).dropWhile test =
      before.dropWhile test ++ stop :: after := by
  induction before with
  | nil => simp [hStop]
  | cons first rest ih =>
      cases hFirst : test first <;> simp [hFirst, ih]

/- Climbing never takes the root into a right operand. -/
theorem climb_of_isRoot
    {before after : List (Operator × Expr)}
    {operator : Operator}
    (hRoot : IsRoot before operator after)
    (left operand : Expr) :
    climb left (before ++ (operator, operand) :: after) =
      .binary operator.text (climb left before)
        (climb operand after) := by
  induction left, before using climb.induct with
  | case1 left =>
      have hAll : ∀ step ∈ after, tighter operator step = true := by
        intro step hMem
        exact decide_eq_true (hRoot.lt_after step hMem)
      rw [List.nil_append, climb_cons,
        List.takeWhile_eq_self_iff.2 hAll,
        List.dropWhile_eq_nil_iff.2 hAll, climb_nil, climb_nil]
  | case2 left firstOperator firstOperand rest _ ih =>
      have hFirst :
          operator.precedence ≤ firstOperator.precedence :=
        hRoot.before_le (firstOperator, firstOperand)
          List.mem_cons_self
      have hStop :
          tighter firstOperator (operator, operand) = false :=
        decide_eq_false (UInt8.not_lt.2 hFirst)
      have hRest :
          IsRoot (rest.dropWhile (tighter firstOperator))
            operator after := by
        refine ⟨?_, hRoot.lt_after⟩
        intro step hMem
        exact hRoot.before_le step
          (List.mem_cons_of_mem _
            ((List.dropWhile_sublist _).subset hMem))
      rw [List.cons_append, climb_cons, takeWhile_append_stop hStop,
        dropWhile_append_stop hStop, ih hRest, ← climb_cons]

/-
  Every chain of more than one operand has a root: the root of
  the rest, or the first step if it binds looser than that.
-/
theorem exists_isRoot
    {steps : List (Operator × Expr)}
    (hSteps : steps ≠ []) :
    ∃ before operator operand after,
      steps = before ++ (operator, operand) :: after ∧
        IsRoot before operator after := by
  induction steps with
  | nil => exact absurd rfl hSteps
  | cons first rest ih =>
      rcases first with ⟨firstOperator, firstOperand⟩
      by_cases hRest : rest = []
      · subst hRest
        exact ⟨[], firstOperator, firstOperand, [], rfl,
          ⟨by simp, by simp⟩⟩
      · rcases ih hRest with
          ⟨before, operator, operand, after, rfl, hRoot⟩
        by_cases hFirst :
            operator.precedence ≤ firstOperator.precedence
        · refine ⟨(firstOperator, firstOperand) :: before, operator,
            operand, after, rfl, ?_, hRoot.lt_after⟩
          intro step hMem
          rcases List.mem_cons.1 hMem with rfl | hOld
          · exact hFirst
          · exact hRoot.before_le step hOld
        · have hLooser :
              firstOperator.precedence < operator.precedence :=
            UInt8.not_le.1 hFirst
          refine ⟨[], firstOperator, firstOperand,
            before ++ (operator, operand) :: after, rfl, by simp, ?_⟩
          intro step hMem
          rcases List.mem_append.1 hMem with hBefore | hOthers
          · exact UInt8.lt_of_lt_of_le hLooser
              (hRoot.before_le step hBefore)
          · rcases List.mem_cons.1 hOthers with rfl | hAfter
            · exact hLooser
            · exact UInt8.lt_trans hLooser (hRoot.lt_after step hAfter)

end Chain

------------------------------------------------------------
-- Leaves
------------------------------------------------------------

/- The number of leaves of a binary tree. -/
def Expr.leaves : Expr → Nat
  | .binary _ left right => left.leaves + right.leaves
  | _ => 1

theorem Expr.leaves_pos
    (expr : Expr) :
    0 < expr.leaves := by
  induction expr using inductionOnArgs with
  | binary op left right hLeft hRight =>
      simp only [leaves]
      omega
  | _ => simp [leaves]

namespace Chain

/- The leaves that steps add to a left operand. -/
def leavesOfSteps : List (Operator × Expr) → Nat
  | [] => 0
  | step :: rest => step.2.leaves + leavesOfSteps rest

@[simp] theorem leavesOfSteps_cons
    (step : Operator × Expr)
    (rest : List (Operator × Expr)) :
    leavesOfSteps (step :: rest) =
      step.2.leaves + leavesOfSteps rest :=
  rfl

@[simp] theorem leavesOfSteps_append
    (before after : List (Operator × Expr)) :
    leavesOfSteps (before ++ after) =
      leavesOfSteps before + leavesOfSteps after := by
  induction before with
  | nil => simp [leavesOfSteps]
  | cons step rest ih => simp [ih, Nat.add_assoc]

/- Climbing moves leaves about but keeps their number. -/
theorem leaves_climb
    (left : Expr)
    (steps : List (Operator × Expr)) :
    (climb left steps).leaves =
      left.leaves + leavesOfSteps steps := by
  induction left, steps using climb.induct with
  | case1 left => simp [leavesOfSteps]
  | case2 left operator operand rest hRight hRest =>
      have hParts :
          leavesOfSteps rest =
            leavesOfSteps (rest.takeWhile (tighter operator)) +
              leavesOfSteps (rest.dropWhile (tighter operator)) := by
        rw [← leavesOfSteps_append, List.takeWhile_append_dropWhile]
      rw [climb_cons, hRest]
      simp only [Expr.leaves, hRight, leavesOfSteps_cons]
      omega

theorem leavesOfSteps_eq_zero_iff
    {steps : List (Operator × Expr)} :
    leavesOfSteps steps = 0 ↔ steps = [] := by
  cases steps with
  | nil => simp [leavesOfSteps]
  | cons step rest =>
      have hLeaves := step.2.leaves_pos
      simp only [leavesOfSteps_cons, reduceCtorEq, iff_false]
      omega

/-
  Two ways to cut a list of steps are the same when there are
  equally many leaves in front of the cut.
-/
theorem eq_of_leaves_eq
    {before before' after after' : List (Operator × Expr)}
    {step step' : Operator × Expr}
    (hSteps : before ++ step :: after = before' ++ step' :: after')
    (hLeaves : leavesOfSteps before = leavesOfSteps before') :
    before = before' ∧ step = step' ∧ after = after' := by
  rcases List.append_eq_append_iff.1 hSteps with
    ⟨middle, hBefore, -⟩ | ⟨middle, hBefore, -⟩
  · have hMiddle : middle = [] := by
      rw [hBefore, leavesOfSteps_append] at hLeaves
      exact leavesOfSteps_eq_zero_iff.1 (by omega)
    subst hMiddle
    rw [List.append_nil] at hBefore
    subst hBefore
    simpa using hSteps
  · have hMiddle : middle = [] := by
      rw [hBefore, leavesOfSteps_append] at hLeaves
      exact leavesOfSteps_eq_zero_iff.1 (by omega)
    subst hMiddle
    rw [List.append_nil] at hBefore
    subst hBefore
    simpa using hSteps

theorem leaves_tree_extend
    (chain next : Chain)
    (operator : Operator) :
    (chain.extend operator next).tree.leaves =
      chain.tree.leaves + next.tree.leaves := by
  simp only [tree, extend, leaves_climb, leavesOfSteps_append,
    leavesOfSteps_cons]
  omega

------------------------------------------------------------
-- Chains around an Operator
------------------------------------------------------------

/- The tree of two chains around their root. -/
theorem tree_extend
    {chain next : Chain}
    {operator : Operator}
    (hRoot : IsRoot chain.steps operator next.steps) :
    (chain.extend operator next).tree =
      .binary operator.text chain.tree next.tree :=
  climb_of_isRoot hRoot chain.head next.head

/-
  If the tree of two chains around an operator has the leaves
  of the first chain on its left, the operator is the root.
-/
theorem isRoot_of_tree_extend
    {chain next : Chain}
    {operator : Operator}
    {text : String}
    {left right : Expr}
    (hTree :
      (chain.extend operator next).tree = .binary text left right)
    (hLeaves : left.leaves = chain.tree.leaves) :
    IsRoot chain.steps operator next.steps ∧
      chain.tree = left ∧ next.tree = right := by
  have hNonempty :
      chain.steps ++ (operator, next.head) :: next.steps ≠ [] := by
    simp
  rcases exists_isRoot hNonempty with
    ⟨before, root, operand, after, hSteps, hRoot⟩
  have hClimb :
      Expr.binary root.text (climb chain.head before)
          (climb operand after) =
        .binary text left right := by
    rw [← climb_of_isRoot hRoot, ← hSteps]
    exact hTree
  injection hClimb with _ hLeft _
  have hCut : leavesOfSteps chain.steps = leavesOfSteps before := by
    rw [← hLeft, tree, leaves_climb, leaves_climb] at hLeaves
    omega
  rcases eq_of_leaves_eq hSteps hCut with ⟨hBefore, hStep, hAfter⟩
  injection hStep with hOperator
  have hIsRoot : IsRoot chain.steps operator next.steps := by
    rw [hBefore, hOperator, hAfter]
    exact hRoot
  rw [tree_extend hIsRoot] at hTree
  injection hTree with _ hLeftTree hRightTree
  exact ⟨hIsRoot, hLeftTree, hRightTree⟩

end Chain

end SqlCompiler
