import SqlCompiler.Proofs.Reading.Expr
import SqlCompiler.Proofs.Text.Parentheses

/-
  This file shows that compilation writes no parentheses in
  vain.  Without any one pair, the text of an expression is
  read as another tree.

  To drop a pair is to open a group: the steps inside join the
  chain around it.  The operator behind the group binds tighter
  than the root of the group, and therefore takes the end of
  it away.  That the tree around has changed as well is seen
  from its root: it splits the leaves at one place, so equal
  trees have their roots at the same place, and the part with
  the group can be looked at on its own.

  Key definitions include:
    * `Chain.followedBy`
    * `Chain.Matters`
    * `Chain.Regrouped`

  Key theorems include:
    * `Chain.tree_fill_ne`
    * `Expr.Plain.exists_regrouped`
    * `Expr.Plain.no_pair_is_redundant`
-/

namespace SqlCompiler

------------------------------------------------------------
-- Opening a Group
------------------------------------------------------------

namespace Chain

open Reading (Pending)

/- A chain with further steps behind it. -/
def followedBy
    (chain : Chain)
    (steps : List (Operator × Expr)) : Chain :=
  ⟨chain.head, chain.steps ++ steps⟩

@[simp] theorem followedBy_nil
    (chain : Chain) :
    chain.followedBy [] = chain := by
  simp [followedBy]

/- Steps that are cut at one of them. -/
theorem followedBy_append_cons
    (chain : Chain)
    (before after : List (Operator × Expr))
    (operator : Operator)
    (operand : Expr) :
    chain.followedBy (before ++ (operator, operand) :: after) =
      (chain.followedBy before).extend operator ⟨operand, after⟩ := by
  simp [followedBy, extend]

theorem followedBy_extend
    (chain next : Chain)
    (operator : Operator)
    (steps : List (Operator × Expr)) :
    (chain.extend operator next).followedBy steps =
      chain.extend operator (next.followedBy steps) := by
  simp [followedBy, extend]

/- The leaves of a chain in its surroundings. -/
theorem leaves_tree_fill
    {chain other : Chain}
    (hLeaves : chain.tree.leaves = other.tree.leaves)
    (pending : Pending)
    (steps : List (Operator × Expr)) :
    (pending.fill (chain.followedBy steps)).tree.leaves =
      (pending.fill (other.followedBy steps)).tree.leaves := by
  have hFollowed :
      (chain.followedBy steps).tree.leaves =
        (other.followedBy steps).tree.leaves := by
    simp only [tree, followedBy, leaves_climb,
      leavesOfSteps_append] at hLeaves ⊢
    omega
  cases pending with
  | none => exact hFollowed
  | some waiting =>
      simp only [Pending.fill, leaves_tree_extend, hFollowed]

/-
  When it matters whether a group is written as a single
  operand or as a chain: the chain has another tree, or else
  the next operator binds tighter than one of the chain.
-/
def Matters
    (chain : Chain)
    (group : Expr)
    (steps : List (Operator × Expr)) : Prop :=
  chain.tree ≠ group ∨
    ∃ next ∈ steps.head?, ∃ inner ∈ chain.steps,
      inner.1.precedence < next.1.precedence

variable {chain other : Chain} {group : Expr}

theorem mem_steps_fill
    {step : Operator × Expr}
    (hMem : step ∈ chain.steps)
    (pending : Pending) :
    step ∈ (pending.fill chain).steps := by
  cases pending with
  | none => exact hMem
  | some waiting =>
      exact List.mem_append_right _ (List.mem_cons_of_mem _ hMem)

/-
  If the root of a tree stands behind a chain, it does so for
  another chain with the same tree around it, and the parts in
  front of the root have the same tree.
-/
theorem tree_eq_before_root
    (hLeaves : chain.tree.leaves = other.tree.leaves)
    {pending : Pending}
    {before after : List (Operator × Expr)}
    {operator : Operator}
    {operand : Expr}
    (hRoot :
      IsRoot (pending.fill (other.followedBy before)).steps operator
        after)
    (hTree :
      (pending.fill
          (chain.followedBy
            (before ++ (operator, operand) :: after))).tree =
        (pending.fill
          (other.followedBy
            (before ++ (operator, operand) :: after))).tree) :
    (pending.fill (chain.followedBy before)).tree =
        (pending.fill (other.followedBy before)).tree ∧
      IsRoot (pending.fill (chain.followedBy before)).steps operator
        after := by
  have hOther :
      ((pending.fill (other.followedBy before)).extend operator
          ⟨operand, after⟩).tree =
        .binary operator.text
          (pending.fill (other.followedBy before)).tree
          (climb operand after) :=
    tree_extend hRoot
  rw [followedBy_append_cons, followedBy_append_cons,
    ← Pending.extend_fill, ← Pending.extend_fill, hOther] at hTree
  rcases isRoot_of_tree_extend hTree
      (leaves_tree_fill hLeaves pending before).symm with
    ⟨hIsRoot, hBefore, -⟩
  exact ⟨hBefore, hIsRoot⟩

/- What matters at a root behind a chain matters before it. -/
theorem Matters.before_root
    {pending : Pending}
    {before after : List (Operator × Expr)}
    {operator : Operator}
    {operand : Expr}
    (hMatters :
      chain.Matters group (before ++ (operator, operand) :: after))
    (hRoot :
      IsRoot (pending.fill (chain.followedBy before)).steps operator
        after) :
    chain.Matters group before := by
  rcases hMatters with hTree | ⟨next, hNext, inner, hInner, hTighter⟩
  · exact .inl hTree
  · cases before with
    | nil =>
        have hSame : (operator, operand) = next := by
          simpa using hNext
        subst hSame
        rw [followedBy_nil] at hRoot
        have hLe := hRoot.before_le inner (mem_steps_fill hInner pending)
        exact absurd hTighter (UInt8.not_lt.2 hLe)
    | cons first rest =>
        exact .inr ⟨next, by simpa using hNext, inner, hInner, hTighter⟩

/-
  Where the root stands around a single operand: behind it,
  right in front of it, or farther ahead.  An operand alone
  has no root.
-/
inductive RootPlace
    (group : Expr) : Pending → List (Operator × Expr) → Prop
  | nowhere : RootPlace group none []
  | behind
      {pending : Pending}
      {before after : List (Operator × Expr)}
      {operator : Operator}
      {operand : Expr}
      (hRoot :
        IsRoot (pending.fill ((single group).followedBy before)).steps
          operator after) :
      RootPlace group pending (before ++ (operator, operand) :: after)
  | inFront
      {front : Chain}
      {operator : Operator}
      {steps : List (Operator × Expr)}
      (hRoot : IsRoot front.steps operator steps) :
      RootPlace group (some (front, operator)) steps
  | ahead
      {head operand : Expr}
      {before middle steps : List (Operator × Expr)}
      {root operator : Operator}
      (hRoot :
        IsRoot before root (middle ++ (operator, group) :: steps)) :
      RootPlace group
        (some (⟨head, before ++ (root, operand) :: middle⟩, operator))
        steps

theorem rootPlace
    (group : Expr)
    (pending : Pending)
    (steps : List (Operator × Expr)) :
    RootPlace group pending steps := by
  cases pending with
  | none =>
      by_cases hSteps : steps = []
      · subst hSteps
        exact .nowhere
      · rcases exists_isRoot hSteps with
          ⟨before, operator, operand, after, rfl, hRoot⟩
        exact .behind hRoot
  | some waiting =>
      rcases waiting with ⟨⟨head, front⟩, operator⟩
      have hNonempty : front ++ (operator, group) :: steps ≠ [] := by
        simp
      rcases exists_isRoot hNonempty with
        ⟨before, root, operand, after, hSteps, hRoot⟩
      rcases List.append_eq_append_iff.1 hSteps with
        ⟨middle, rfl, hRest⟩ | ⟨middle, rfl, hRest⟩
      · rcases List.cons_eq_append_iff.1 hRest with
          ⟨rfl, hSame⟩ | ⟨others, rfl, rfl⟩
        · injection hSame with hStep hAfter
          injection hStep with hOperator
          rw [List.append_nil, hOperator, hAfter] at hRoot
          exact .inFront hRoot
        · exact .behind hRoot
      · rcases List.cons_eq_append_iff.1 hRest with
          ⟨rfl, hSame⟩ | ⟨others, rfl, rfl⟩
        · injection hSame with hStep hAfter
          injection hStep with hOperator
          rw [← hOperator, ← hAfter] at hRoot
          rw [List.append_nil]
          exact .inFront hRoot
        · exact .ahead hRoot

/- The number of operators before an expected operand. -/
def operatorsBefore : Pending → Nat
  | none => 0
  | some (front, _) => front.steps.length + 1

/-
  A chain in place of a group gives another tree wherever it
  matters.  The induction is on the number of operators around
  the group: the root splits them, and the part that holds the
  group has fewer.
-/
theorem tree_fill_ne
    (hLeaves : chain.tree.leaves = (single group).tree.leaves)
    (pending : Pending)
    (steps : List (Operator × Expr))
    (hMatters : chain.Matters group steps) :
    (pending.fill (chain.followedBy steps)).tree ≠
      (pending.fill ((single group).followedBy steps)).tree := by
  induction hSize : operatorsBefore pending + steps.length
    using Nat.strong_induction_on generalizing pending steps with
  | _ size ih =>
      intro hTree
      cases rootPlace group pending steps with
      | nowhere =>
          rcases hMatters with hOther | ⟨next, hNext, -⟩
          · rw [followedBy_nil, followedBy_nil] at hTree
            exact hOther (hTree.trans (tree_single group))
          · cases hNext
      | @behind _ before after operator operand hRoot =>
          rcases tree_eq_before_root hLeaves hRoot hTree with
            ⟨hBefore, hIsRoot⟩
          have hSmaller :
              operatorsBefore pending + before.length < size := by
            simp only [← hSize, List.length_append, List.length_cons]
            omega
          exact ih _ hSmaller pending before
            (hMatters.before_root hIsRoot) rfl hBefore
      | @inFront front operator _ hRoot =>
          have hOther :
              (front.extend operator
                  ((single group).followedBy steps)).tree =
                .binary operator.text front.tree
                  ((single group).followedBy steps).tree :=
            tree_extend hRoot
          rcases isRoot_of_tree_extend (hTree.trans hOther) rfl with
            ⟨-, -, hAfter⟩
          have hSmaller : operatorsBefore none + steps.length < size := by
            simp only [← hSize, operatorsBefore]
            omega
          exact ih _ hSmaller none steps hMatters rfl hAfter
      | @ahead head operand before middle _ root operator hRoot =>
          let rest : Chain := ⟨operand, middle⟩
          have hCut :
              ∀ last : Chain,
                Chain.extend ⟨head, before ++ (root, operand) :: middle⟩
                    operator last =
                  Chain.extend ⟨head, before⟩ root
                    (rest.extend operator last) :=
            fun last =>
              Pending.extend_fill (some (⟨head, before⟩, root)) rest
                last operator
          have hOther :
              (Chain.extend ⟨head, before⟩ root
                  (rest.extend operator
                    ((single group).followedBy steps))).tree =
                .binary root.text (climb head before)
                  (rest.extend operator
                    ((single group).followedBy steps)).tree :=
            tree_extend hRoot
          simp only [Pending.fill, hCut] at hTree
          rcases isRoot_of_tree_extend (hTree.trans hOther) rfl with
            ⟨-, -, hAfter⟩
          have hSmaller :
              operatorsBefore (some (rest, operator)) + steps.length <
                size := by
            simp only [← hSize, operatorsBefore, rest,
              List.length_append, List.length_cons]
            omega
          exact ih _ hSmaller (some (rest, operator)) steps hMatters rfl
            hAfter

------------------------------------------------------------
-- Regrouped Chains
------------------------------------------------------------

/-
  A chain that, with as many leaves, has another tree than the
  original one in whatever surroundings.
-/
structure Regrouped
    (chain original : Chain) : Prop where
  leaves : chain.tree.leaves = original.tree.leaves
  tree_ne :
    ∀ (pending : Pending) (steps : List (Operator × Expr)),
      (pending.fill (chain.followedBy steps)).tree ≠
        (pending.fill (original.followedBy steps)).tree

/-
  Opening a group regroups, if the operator behind it binds
  tighter than one inside.
-/
theorem regrouped_of_looser
    {inner : Operator × Expr}
    (hInner : inner ∈ chain.steps)
    {operator : Operator}
    (hLooser : inner.1.precedence < operator.precedence)
    (next : Chain) :
    Regrouped (chain.extend operator next)
      ((single chain.tree).extend operator next) where
  leaves := by
    simp only [leaves_tree_extend, tree_single]
  tree_ne := by
    intro pending steps
    have hMatters :
        chain.Matters chain.tree
          ((operator, next.head) :: (next.steps ++ steps)) :=
      .inr ⟨_, rfl, inner, hInner, hLooser⟩
    rw [followedBy_extend, followedBy_extend]
    exact tree_fill_ne (by rw [tree_single]) pending _ hMatters

namespace Regrouped

variable {original : Chain}

/- A regrouped chain as a group. -/
theorem grouped
    (hChain : Regrouped chain original)
    (operator : Operator)
    (next : Chain) :
    Regrouped ((single chain.tree).extend operator next)
      ((single original.tree).extend operator next) where
  leaves := by
    simp only [leaves_tree_extend, tree_single, hChain.leaves]
  tree_ne := by
    intro pending steps
    have hOther : (single chain.tree).tree ≠ original.tree := by
      have hAlone := hChain.tree_ne none []
      rw [followedBy_nil, followedBy_nil] at hAlone
      rw [tree_single]
      exact hAlone
    have hLeaves :
        (single chain.tree).tree.leaves =
          (single original.tree).tree.leaves := by
      rw [tree_single, tree_single, hChain.leaves]
    rw [followedBy_extend, followedBy_extend]
    exact tree_fill_ne hLeaves pending _ (.inl hOther)

/- A regrouped chain in front of an operator. -/
theorem extend_left
    (hChain : Regrouped chain original)
    (operator : Operator)
    (next : Chain) :
    Regrouped (chain.extend operator next)
      (original.extend operator next) where
  leaves := by
    simp only [leaves_tree_extend, hChain.leaves]
  tree_ne := by
    intro pending steps
    rw [followedBy_extend, followedBy_extend]
    exact hChain.tree_ne pending
      ((operator, next.head) :: (next.steps ++ steps))

/- A regrouped chain behind an operator. -/
theorem extend_right
    (hChain : Regrouped chain original)
    (front : Chain)
    (operator : Operator) :
    Regrouped (front.extend operator chain)
      (front.extend operator original) where
  leaves := by
    simp only [leaves_tree_extend, hChain.leaves]
  tree_ne := by
    intro pending steps
    rw [followedBy_extend, followedBy_extend,
      ← Pending.extend_fill, ← Pending.extend_fill]
    exact hChain.tree_ne (some (pending.fill front, operator)) steps

end Regrouped

end Chain

------------------------------------------------------------
-- Parentheses of Expressions
------------------------------------------------------------

namespace Reading

variable {marks : List Char} {operators : List Operator}

theorem mark_mem_pieces
    {c : Char}
    (hMark : c ∈ marks)
    (hSpace : c ≠ ' ')
    {text : List Char}
    (hMem : c ∈ text) :
    .mark c ∈ pieces marks text := by
  rcases List.append_of_mem hMem with ⟨before, after, rfl⟩
  rw [pieces_mark hMark hSpace]
  exact List.mem_append_right _ List.mem_cons_self

/- Operators are made of words, so they hold no mark. -/
theorem Legible.not_mem_operator
    (hLegible : Legible marks operators)
    {operator : Operator}
    (hOperator : operator ∈ operators)
    {c : Char}
    (hMark : c ∈ marks) :
    c ∉ operator.text.toList := by
  intro hMem
  have hPiece :=
    mark_mem_pieces hMark (hLegible.marks_apart c hMark).1 hMem
  have hSpelled := hLegible.spelled operator hOperator
  unfold Spelled at hSpelled
  split at hSpelled
  · rename_i hPieces
    simp [hPieces] at hPiece
  · rename_i hPieces
    simp [hPieces] at hPiece
  · exact hSpelled

theorem Legible.parenFree_operator
    (hLegible : Legible marks operators)
    {operator : Operator}
    (hOperator : operator ∈ operators) :
    Text.ParenFree operator.text.toList :=
  ⟨hLegible.not_mem_operator hOperator hLegible.opening,
    hLegible.not_mem_operator hOperator hLegible.closing⟩

theorem IsLeafWord.parenFree
    {word : List Char}
    {leaf : Expr}
    (hWord : IsLeafWord word leaf) :
    Text.ParenFree word := by
  constructor
  · intro hMem
    exact absurd (hWord.chars _ hMem) (by decide)
  · intro hMem
    exact absurd (hWord.chars _ hMem) (by decide)

end Reading

namespace Expr.Plain

variable {marks : List Char} {operators : List Operator}
variable {dialect : Dialect} {expr : Expr}

/- The operator of a left operand in parentheses binds looser. -/
theorem exists_looser_step
    (hPlain : expr.Plain dialect)
    {op : String}
    {operator : Operator}
    (hOp : dialect.binary op = some operator)
    (hWrapped : expr.leftWrapped dialect op = true) :
    ∃ inner ∈ (expr.exposed dialect).steps,
      inner.1.precedence < operator.precedence := by
  cases hPlain with
  | leaf hLeaf => cases hLeaf <;> cases hWrapped
  | @binary leftOp leftOperator left right hLeftOp hLeft hRight =>
      have hRoot :
          (Expr.binary leftOp left right).rootPrecedence? dialect =
            some leftOperator.precedence := by
        simp [rootPrecedence?, hLeftOp]
      rcases (Plain.binary hLeftOp hLeft hRight).exists_step_of_root
          hRoot with
        ⟨inner, hInner, hPrecedence⟩
      simp only [leftWrapped, hOp, hLeftOp] at hWrapped
      exact ⟨inner, hInner, hPrecedence ▸ of_decide_eq_true hWrapped⟩

theorem balanced_leftText
    {left : Expr}
    (hLeft : Text.Balanced (left.render dialect).toList)
    (op : String) :
    Text.Balanced (left.leftText dialect op) := by
  unfold leftText
  split
  · exact hLeft.parenthesized
  · exact hLeft

theorem balanced_render
    (hLegible : Reading.Legible marks operators)
    (hOperators :
      ∀ op operator,
        dialect.binary op = some operator → operator ∈ operators)
    (hPlain : expr.Plain dialect) :
    Text.Balanced (expr.render dialect).toList := by
  induction hPlain with
  | leaf hLeaf => exact (hLeaf.isLeafWord_render dialect).parenFree.balanced
  | @binary op operator left right hOp _ _ hLeft hRight =>
      have hOperator :=
        hLegible.parenFree_operator (hOperators op operator hOp)
      rw [toList_render_binary hOp]
      exact (balanced_leftText hLeft op).spaced hOperator.balanced hRight

/-
  Without one of its pairs, the text of an expression is still
  read, but as a regrouped chain.
-/
theorem exists_regrouped
    (hLegible : Reading.Legible marks operators)
    (hOperators :
      ∀ op operator,
        dialect.binary op = some operator → operator ∈ operators)
    (hPlain : expr.Plain dialect)
    {bare : List Char}
    (hDrop : Text.DropsPair (expr.render dialect).toList bare) :
    ∃ chain,
      Reading.ReadsAs marks operators bare chain ∧
        chain.Regrouped (expr.exposed dialect) := by
  induction hPlain generalizing bare with
  | leaf hLeaf =>
      have hFree := (hLeaf.isLeafWord_render dialect).parenFree
      exact absurd hDrop.opening_mem hFree.1
  | @binary op operator left right hOp hLeft hRight ihLeft ihRight =>
      have hMem := hOperators op operator hOp
      have hBalanced := hLeft.balanced_render hLegible hOperators
      have hLeftReads := hLeft.readsAs_render hLegible hOperators
      have hRightReads := hRight.readsAs_render hLegible hOperators
      rw [toList_render_binary hOp] at hDrop
      rw [exposed_binary hOp]
      rcases hDrop.of_spaced (balanced_leftText hBalanced op)
          (hLegible.parenFree_operator hMem) with
        ⟨bareLeft, hInLeft, rfl⟩ | ⟨bareRight, hInRight, rfl⟩
      · unfold leftText at hInLeft
        unfold exposedLeft
        split at hInLeft
        · rename_i hWrapped
          rw [if_pos hWrapped]
          rcases hInLeft.of_parenthesized hBalanced with
            rfl | ⟨bareText, hInside, rfl⟩
          · rcases hLeft.exists_looser_step hOp hWrapped with
              ⟨inner, hInner, hLooser⟩
            exact ⟨_, hLeftReads.extend hLegible hMem hRightReads,
              Chain.regrouped_of_looser hInner hLooser _⟩
          · rcases ihLeft hInside with ⟨chain, hReads, hRegrouped⟩
            exact ⟨_,
              (hReads.parenthesized hLegible).extend hLegible hMem
                hRightReads,
              hRegrouped.grouped operator _⟩
        · rename_i hBare
          rw [if_neg hBare]
          rcases ihLeft hInLeft with ⟨chain, hReads, hRegrouped⟩
          exact ⟨_, hReads.extend hLegible hMem hRightReads,
            hRegrouped.extend_left operator _⟩
      · rcases ihRight hInRight with ⟨chain, hReads, hRegrouped⟩
        exact ⟨_,
          (readsAs_leftText hLegible hLeftReads op).extend hLegible hMem
            hReads,
          hRegrouped.extend_right _ operator⟩

/-
  No pair of parentheses is redundant.  The text of a plain
  expression in a built-in dialect is read as some tree, and
  all its parentheses match.  If any one matching pair is
  dropped, the text is read as another tree.
-/
theorem no_pair_is_redundant
    (builtIn : Dialect.BuiltIn)
    (expr : Expr)
    (hPlain : expr.Plain builtIn.dialect) :
    ∃ sql tree,
      expr.compile builtIn.dialect = .text sql ∧
        Reading.expr? builtIn.operators sql = some tree ∧
        Text.Balanced sql.toList ∧
        ∀ bare,
          Text.DropsPair sql.toList bare →
            ∃ other,
              Reading.expr? builtIn.operators (String.ofList bare) =
                  some other ∧
                other ≠ tree := by
  have hLegible := Reading.legible_builtIn builtIn
  have hOperators :
      ∀ op operator,
        builtIn.dialect.binary op = some operator →
          operator ∈ builtIn.operators :=
    fun _ _ hOp => builtIn.mem_operators hOp
  refine ⟨expr.render builtIn.dialect,
    (expr.exposed builtIn.dialect).tree, hPlain.compile_eq,
    hPlain.exprOfPieces?_render hLegible hOperators,
    hPlain.balanced_render hLegible hOperators, ?_⟩
  intro bare hDrop
  rcases hPlain.exists_regrouped hLegible hOperators hDrop with
    ⟨chain, hReads, hRegrouped⟩
  have hOther := hRegrouped.tree_ne none []
  rw [Chain.followedBy_nil, Chain.followedBy_nil] at hOther
  refine ⟨chain.tree, ?_, hOther⟩
  rw [Reading.expr?, String.toList_ofList]
  exact hReads.exprOfPieces?_eq

/-
  A pair inside of a pair, in a right operand: neither can be
  dropped.
-/
theorem no_pair_is_redundant_at_nested :
    let name (letters : String) : Expr := .reference (.named letters)
    let expr : Expr :=
      .minus (name "x")
        (.times (.plus (.disj (name "a") (name "b")) (name "c"))
          (name "d"))
    let read := Reading.expr? Dialect.BuiltIn.sqlite.operators
    ∃ tree,
      expr.compile .sqlite = .text "x - ((a OR b) + c) * d" ∧
        read "x - ((a OR b) + c) * d" = some tree ∧
        (∃ outer,
          read "x - (a OR b) + c * d" = some outer ∧ outer ≠ tree) ∧
        ∃ inner,
          read "x - (a OR b + c) * d" = some inner ∧ inner ≠ tree := by
  intro name expr read
  have hName :
      ∀ letters : String,
        Reading.isName letters.toList = true →
          (name letters).Plain .sqlite :=
    fun _ hLetters => .leaf (.named hLetters)
  have hPlain : expr.Plain .sqlite :=
    .binary rfl (hName "x" rfl)
      (.binary rfl
        (.binary rfl
          (.binary rfl (hName "a" rfl) (hName "b" rfl))
          (hName "c" rfl))
        (hName "d" rfl))
  rcases no_pair_is_redundant .sqlite expr hPlain with
    ⟨sql, tree, hSql, hRead, -, hPairs⟩
  have hText : expr.compile .sqlite = .text "x - ((a OR b) + c) * d" := by
    decide
  obtain rfl : "x - ((a OR b) + c) * d" = sql :=
    Fragment.text.inj (hText.symm.trans hSql)
  have hOuter :=
    hPairs _ (.intro "x - ".toList "(a OR b) + c".toList " * d".toList
      (by decide))
  have hInner :=
    hPairs _ (.intro "x - (".toList "a OR b".toList " + c) * d".toList
      (by decide))
  exact ⟨tree, hText, hRead, hOuter, hInner⟩

end Expr.Plain

end SqlCompiler
