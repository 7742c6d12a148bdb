import SqlCompiler.Proofs.Compilation.Passes
import SqlCompiler.Proofs.Dialect
import SqlCompiler.Proofs.Reading.Chain
import SqlCompiler.Proofs.Reading.Token

/-
  This file reads expressions back from SQL text and says how
  far the parentheses reach that compilation writes.  The
  reader collects the chain of each level of parentheses and
  groups it by precedence climbing; a group in parentheses is
  an operand of the chain around it.

  Only left operands are ever put in parentheses.  So a tree
  is read back as it was just when no right operand needs any:
  every right operand is a leaf or binds strictly tighter than
  the operator in front of it.

  Key definitions include:
    * `Reading.expr?`
    * `Reading.ReadsAs`
    * `Expr.Plain`
    * `Expr.spelled`
    * `Expr.rightTight`
    * `Expr.exposed`

  Key theorems include:
    * `Reading.ReadsAs.extend`
    * `Expr.Plain.readsAs_render`
    * `Expr.Plain.tree_exposed_iff`
    * `Expr.Plain.read_compile_iff`
-/

namespace SqlCompiler

------------------------------------------------------------
-- Reading
------------------------------------------------------------

namespace Reading

/-
  A level of parentheses that waits for an operand: there is
  nothing yet, or a chain and the operator after it.
-/
abbrev Pending :=
  Option (Chain × Operator)

/- The level with the operands it was waiting for. -/
def Pending.fill
    (pending : Pending)
    (next : Chain) : Chain :=
  match pending with
  | none => next
  | some (chain, operator) => chain.extend operator next

mutual

/- Read on where an operand must come. -/
def expectOperand
    (pending : Pending)
    (outer : List Pending) : List Token → Option Expr
  | .operand leaf :: rest =>
      expectOperator (pending.fill (.single leaf)) outer rest
  | .opening :: rest => expectOperand none (pending :: outer) rest
  | _ => none

/- Read on behind an operand. -/
def expectOperator
    (chain : Chain)
    (outer : List Pending) : List Token → Option Expr
  | [] => if outer.isEmpty then some chain.tree else none
  | .connective operator :: rest =>
      expectOperand (some (chain, operator)) outer rest
  | .closing :: rest =>
      match outer with
      | [] => none
      | pending :: outer =>
          expectOperator (pending.fill (.single chain.tree)) outer rest
  | _ => none

end

/- The expression that pieces of text write. -/
def exprOfPieces?
    (operators : List Operator)
    (text : List Piece) : Option Expr :=
  expectOperand none [] (tokens operators text)

/- The expression that a text writes. -/
def expr?
    (operators : List Operator)
    (text : String) : Option Expr :=
  exprOfPieces? operators (pieces ['(', ')'] text.toList)

/- What was waited for may itself be extended. -/
theorem Pending.extend_fill
    (pending : Pending)
    (chain next : Chain)
    (operator : Operator) :
    (pending.fill chain).extend operator next =
      pending.fill (chain.extend operator next) := by
  cases pending with
  | none => rfl
  | some waiting => simp [fill, Chain.extend]

/- The built-in operators can be told apart from leaves. -/
theorem legible_builtIn
    (builtIn : Dialect.BuiltIn) :
    Legible ['(', ')'] builtIn.operators where
  opening := by decide
  closing := by decide
  marks_apart := by simp [isLeafChar, isOperandChar]
  spelled := by cases builtIn <;> decide
  operators_apart := by
    have hAll :
        builtIn.operators.all (fun operator =>
          operator.text.toList.all (!isOperandChar ·)) = true := by
      cases builtIn <;> decide
    simpa using hAll
  unique := by cases builtIn <;> decide

------------------------------------------------------------
-- Texts that Are Read as Chains
------------------------------------------------------------

variable {marks : List Char} {operators : List Operator}

/-
  Reading goes through the text, whatever comes before and
  after it, and collects the chain.  The text does not begin
  like an operator.
-/
structure ReadsAs
    (marks : List Char)
    (operators : List Operator)
    (text : List Char)
    (chain : Chain) : Prop where
  startsApart : ∀ rest, StartsApart (pieces marks text ++ rest)
  collects :
    ∀ pending outer rest,
      expectOperand pending outer
          (tokens operators (pieces marks text ++ rest)) =
        expectOperator (pending.fill chain) outer
          (tokens operators rest)

theorem IsLeafWord.readsAs
    (hLegible : Legible marks operators)
    {word : List Char}
    {leaf : Expr}
    (hWord : IsLeafWord word leaf) :
    ReadsAs marks operators word (.single leaf) where
  startsApart := by
    intro rest
    rw [hWord.pieces_eq hLegible, List.singleton_append]
    exact hWord.operandChar
  collects := by
    intro pending outer rest
    rw [hWord.pieces_eq hLegible, List.singleton_append,
      tokens_leafWord hLegible hWord, expectOperand]

theorem pieces_group
    (hLegible : Legible marks operators)
    (text : List Char) :
    pieces marks ('(' :: (text ++ [')'])) =
      .mark '(' :: (pieces marks text ++ [.mark ')']) := by
  rw [← List.nil_append ('(' :: _),
    pieces_mark hLegible.opening (by decide),
    pieces_mark hLegible.closing (by decide)]
  rfl

namespace ReadsAs

/- Reading goes through a group as through a single operand. -/
theorem parenthesized
    (hLegible : Legible marks operators)
    {text : List Char}
    {chain : Chain}
    (hText : ReadsAs marks operators text chain) :
    ReadsAs marks operators ('(' :: (text ++ [')']))
      (.single chain.tree) where
  startsApart := by
    intro rest
    rw [pieces_group hLegible]
    trivial
  collects := by
    intro pending outer rest
    have hOpening :
        ∀ pieces,
          tokens operators (.mark '(' :: pieces) =
            .opening :: tokens operators pieces := by
      intro pieces
      rw [tokens]
      rfl
    have hClosing :
        ∀ pieces,
          tokens operators (.mark ')' :: pieces) =
            .closing :: tokens operators pieces := by
      intro pieces
      rw [tokens]
      rfl
    rw [pieces_group hLegible, List.cons_append, hOpening,
      expectOperand, List.append_assoc, hText.collects,
      List.singleton_append, hClosing, expectOperator]
    rfl

/- Two texts around an operator are read as one chain. -/
theorem extend
    (hLegible : Legible marks operators)
    {operator : Operator}
    (hMem : operator ∈ operators)
    {left right : List Char}
    {chain next : Chain}
    (hLeft : ReadsAs marks operators left chain)
    (hRight : ReadsAs marks operators right next) :
    ReadsAs marks operators
      (left ++ ' ' :: (operator.text.toList ++ ' ' :: right))
      (chain.extend operator next) where
  startsApart := by
    intro rest
    rw [pieces_space, List.append_assoc]
    exact hLeft.startsApart _
  collects := by
    intro pending outer rest
    rw [pieces_space, pieces_space, List.append_assoc,
      List.append_assoc, hLeft.collects,
      tokens_operator hLegible hMem (hRight.startsApart rest),
      expectOperator, hRight.collects, ← Pending.extend_fill]
    rfl

/- A text is read as the tree of its chain. -/
theorem exprOfPieces?_eq
    {text : List Char}
    {chain : Chain}
    (hText : ReadsAs marks operators text chain) :
    exprOfPieces? operators (pieces marks text) =
      some chain.tree := by
  have hRead := hText.collects none [] []
  rw [List.append_nil] at hRead
  rw [exprOfPieces?, hRead]
  rfl

end ReadsAs

end Reading

------------------------------------------------------------
-- Plain Expressions
------------------------------------------------------------

namespace Expr

/-
  Integers, and attributes whose names are nonempty words of
  lowercase ASCII letters.
-/
inductive IsLeaf : Expr → Prop
  | integer
      (value : Int64) :
      IsLeaf (.literal (.integer value))
  | named
      {name : String}
      (hName : Reading.isName name.toList = true) :
      IsLeaf (.reference (.named name))
  | qualified
      {qualifier name : String}
      (hQualifier : Reading.isName qualifier.toList = true)
      (hName : Reading.isName name.toList = true) :
      IsLeaf (.reference (.qualified qualifier name))

/- Binary trees with known operators over such leaves. -/
inductive Plain
    (dialect : Dialect) : Expr → Prop
  | leaf
      {expr : Expr}
      (hLeaf : expr.IsLeaf) :
      Plain dialect expr
  | binary
      {op : String}
      {operator : Operator}
      {left right : Expr}
      (hOp : dialect.binary op = some operator)
      (hLeft : Plain dialect left)
      (hRight : Plain dialect right) :
      Plain dialect (.binary op left right)

/- Binary operators replaced by how the dialect writes them. -/
def spelled
    (dialect : Dialect) : Expr → Expr
  | .binary op left right =>
      .binary (dialect.binaryText op) (left.spelled dialect)
        (right.spelled dialect)
  | expr => expr

/-
  Whether an expression is not binary, or has an operator that
  binds strictly tighter than the given precedence.
-/
def bindsTighter
    (dialect : Dialect)
    (precedence : UInt8) : Expr → Bool
  | .binary op _ _ =>
      match dialect.binary op with
      | some operator => precedence < operator.precedence
      | none => false
  | _ => true

/- Whether all right operands bind strictly tighter. -/
def rightTight
    (dialect : Dialect) : Expr → Bool
  | .binary op left right =>
      left.rightTight dialect && right.rightTight dialect &&
        (match dialect.binary op with
        | some operator =>
            right.bindsTighter dialect operator.precedence
        | none => false)
  | _ => true

/-
  The chain that an expression shows outside of parentheses.
  A left operand in parentheses is a single operand.
-/
def exposed
    (dialect : Dialect) : Expr → Chain
  | .binary op left right =>
      match dialect.binary op with
      | some operator =>
          (if left.leftWrapped dialect op then
            Chain.single (left.exposed dialect).tree
          else
            left.exposed dialect).extend operator
            (right.exposed dialect)
      | none => .single (.binary op left right)
  | expr => .single expr

------------------------------------------------------------
-- Leaves
------------------------------------------------------------

namespace IsLeaf

variable {expr : Expr}

theorem isLeafWord_render
    (hLeaf : expr.IsLeaf)
    (dialect : Dialect) :
    Reading.IsLeafWord (expr.render dialect).toList expr := by
  cases hLeaf with
  | integer value =>
      simpa [render, Literal.render] using
        Reading.isLeafWord_integer value
  | named hName =>
      simpa [render, Attribute.render, Attribute.named] using
        Reading.isLeafWord_named hName
  | qualified hQualifier hName =>
      simpa [render, Attribute.render, Attribute.qualified] using
        Reading.isLeafWord_qualified hQualifier hName

variable {dialect : Dialect}

theorem faults_eq
    (hLeaf : expr.IsLeaf) :
    expr.faults dialect = [] := by
  cases hLeaf <;>
    simp [faults, Attribute.faults, Attribute.named,
      Attribute.qualified]

theorem exposed_eq
    (hLeaf : expr.IsLeaf) :
    expr.exposed dialect = .single expr := by
  cases hLeaf <;> rfl

theorem spelled_eq
    (hLeaf : expr.IsLeaf) :
    expr.spelled dialect = expr := by
  cases hLeaf <;> rfl

theorem rightTight_eq
    (hLeaf : expr.IsLeaf) :
    expr.rightTight dialect = true := by
  cases hLeaf <;> rfl

theorem bindsTighter_eq
    (hLeaf : expr.IsLeaf)
    (precedence : UInt8) :
    expr.bindsTighter dialect precedence = true := by
  cases hLeaf <;> rfl

end IsLeaf

------------------------------------------------------------
-- Reading Compiled Text
------------------------------------------------------------

/- The chain of the left operand of an operator, as written. -/
def exposedLeft
    (dialect : Dialect)
    (op : String)
    (left : Expr) : Chain :=
  if left.leftWrapped dialect op then
    .single (left.exposed dialect).tree
  else
    left.exposed dialect

/- The text of the left operand of an operator. -/
def leftText
    (dialect : Dialect)
    (op : String)
    (left : Expr) : List Char :=
  if left.leftWrapped dialect op then
    '(' :: ((left.render dialect).toList ++ [')'])
  else
    (left.render dialect).toList

theorem exposed_binary
    {dialect : Dialect}
    {op : String}
    {operator : Operator}
    (hOp : dialect.binary op = some operator)
    (left right : Expr) :
    (Expr.binary op left right).exposed dialect =
      (left.exposedLeft dialect op).extend operator
        (right.exposed dialect) := by
  simp [exposed, exposedLeft, hOp]

theorem toList_render_binary
    {dialect : Dialect}
    {op : String}
    {operator : Operator}
    (hOp : dialect.binary op = some operator)
    (left right : Expr) :
    ((Expr.binary op left right).render dialect).toList =
      left.leftText dialect op ++
        ' ' :: (operator.text.toList ++
          ' ' :: (right.render dialect).toList) := by
  simp only [render, Dialect.binaryText, hOp, leftText]
  split <;> simp

namespace Plain

variable {dialect : Dialect} {expr : Expr}

theorem faults_eq
    (hPlain : expr.Plain dialect) :
    expr.faults dialect = [] := by
  induction hPlain with
  | leaf hLeaf => exact hLeaf.faults_eq
  | binary hOp _ _ hLeft hRight =>
      simp [faults, hOp, hLeft, hRight]

theorem compile_eq
    (hPlain : expr.Plain dialect) :
    expr.compile dialect = .text (expr.render dialect) := by
  rw [compile_eq_settle, hPlain.faults_eq]
  rfl

variable {marks : List Char} {operators : List Operator}

/- The pieces of an operand in parentheses. -/
theorem pieces_parenthesized
    (hLegible : Reading.Legible marks operators)
    (text : String) :
    Reading.pieces marks ("(" ++ text ++ ")").toList =
      .mark '(' :: (Reading.pieces marks text.toList ++ [.mark ')']) := by
  rw [← Reading.pieces_group hLegible]
  simp

/- The pieces of a binary expression. -/
theorem pieces_binary
    {op : String}
    {operator : Operator}
    (hOp : dialect.binary op = some operator)
    (left right : Expr) :
    Reading.pieces marks
        ((Expr.binary op left right).render dialect).toList =
      Reading.pieces marks
          (if left.leftWrapped dialect op then
            "(" ++ left.render dialect ++ ")"
          else
            left.render dialect).toList ++
        (Reading.pieces marks operator.text.toList ++
          Reading.pieces marks (right.render dialect).toList) := by
  simp only [render, Dialect.binaryText, hOp]
  exact Reading.pieces_spaced _ operator.text _

/- A left operand is read as its chain, in parentheses or not. -/
theorem readsAs_leftText
    (hLegible : Reading.Legible marks operators)
    {left : Expr}
    (hLeft :
      Reading.ReadsAs marks operators (left.render dialect).toList
        (left.exposed dialect))
    (op : String) :
    Reading.ReadsAs marks operators (left.leftText dialect op)
      (left.exposedLeft dialect op) := by
  unfold leftText exposedLeft
  split
  · exact hLeft.parenthesized hLegible
  · exact hLeft

/- A plain expression is read as the chain that it exposes. -/
theorem readsAs_render
    (hLegible : Reading.Legible marks operators)
    (hOperators :
      ∀ op operator,
        dialect.binary op = some operator → operator ∈ operators)
    (hPlain : expr.Plain dialect) :
    Reading.ReadsAs marks operators (expr.render dialect).toList
      (expr.exposed dialect) := by
  induction hPlain with
  | leaf hLeaf =>
      rw [hLeaf.exposed_eq]
      exact (hLeaf.isLeafWord_render dialect).readsAs hLegible
  | @binary op operator left right hOp _ _ hLeft hRight =>
      rw [toList_render_binary hOp, exposed_binary hOp]
      exact (readsAs_leftText hLegible hLeft op).extend hLegible
        (hOperators op operator hOp) hRight

end Plain

------------------------------------------------------------
-- Grouping
------------------------------------------------------------

/- The precedence of the operator of a binary expression. -/
def rootPrecedence?
    (dialect : Dialect) : Expr → Option UInt8
  | .binary op _ _ => (dialect.binary op).map (·.precedence)
  | _ => none

/- A left operand without parentheses binds no looser. -/
theorem le_of_not_leftWrapped
    {dialect : Dialect}
    {op : String}
    {operator : Operator}
    {left : Expr}
    {precedence : UInt8}
    (hOp : dialect.binary op = some operator)
    (hBare : left.leftWrapped dialect op = false)
    (hRoot : left.rootPrecedence? dialect = some precedence) :
    operator.precedence ≤ precedence := by
  cases left with
  | binary leftOp _ _ =>
      rcases Option.map_eq_some_iff.1 hRoot with
        ⟨leftOperator, hLeftOp, rfl⟩
      simp only [leftWrapped, hOp, hLeftOp] at hBare
      exact UInt8.not_lt.1 (of_decide_eq_false hBare)
  | _ => cases hRoot

theorem lt_of_bindsTighter
    {dialect : Dialect}
    {right : Expr}
    {least precedence : UInt8}
    (hTighter : right.bindsTighter dialect least = true)
    (hRoot : right.rootPrecedence? dialect = some precedence) :
    least < precedence := by
  cases right with
  | binary op _ _ =>
      rcases Option.map_eq_some_iff.1 hRoot with
        ⟨operator, hOp, rfl⟩
      simp only [bindsTighter, hOp] at hTighter
      exact of_decide_eq_true hTighter
  | _ => cases hRoot

namespace Plain

variable {dialect : Dialect} {expr : Expr}

/- The operator of a binary expression is exposed. -/
theorem exists_step_of_root
    (hPlain : expr.Plain dialect)
    {precedence : UInt8}
    (hRoot : expr.rootPrecedence? dialect = some precedence) :
    ∃ step ∈ (expr.exposed dialect).steps,
      step.1.precedence = precedence := by
  cases hPlain with
  | leaf hLeaf => cases hLeaf <;> cases hRoot
  | @binary op operator left right hOp _ _ =>
      have hPrecedence : operator.precedence = precedence := by
        simpa [rootPrecedence?, hOp] using hRoot
      rw [exposed_binary hOp]
      refine ⟨(operator, (right.exposed dialect).head), ?_,
        hPrecedence⟩
      exact List.mem_append_right _ List.mem_cons_self

theorem bindsTighter_of_steps
    (hPlain : expr.Plain dialect)
    {least : UInt8}
    (hSteps :
      ∀ step ∈ (expr.exposed dialect).steps,
        least < step.1.precedence) :
    expr.bindsTighter dialect least = true := by
  cases hPlain with
  | leaf hLeaf => exact hLeaf.bindsTighter_eq least
  | @binary op operator left right hOp hLeft hRight =>
      rcases (Plain.binary hOp hLeft hRight).exists_step_of_root
          (show _ = some operator.precedence by
            simp [rootPrecedence?, hOp]) with
        ⟨step, hMem, hStep⟩
      have hLt := hSteps step hMem
      simp only [bindsTighter, hOp]
      exact decide_eq_true (hStep ▸ hLt)

/-
  In a right-tight expression, no exposed operator binds
  looser than the outermost one.
-/
theorem le_of_mem_steps
    (hPlain : expr.Plain dialect)
    (hTight : expr.rightTight dialect = true)
    {least : UInt8}
    (hRoot :
      ∀ precedence,
        expr.rootPrecedence? dialect = some precedence →
          least ≤ precedence) :
    ∀ step ∈ (expr.exposed dialect).steps,
      least ≤ step.1.precedence := by
  induction hPlain with
  | leaf hLeaf =>
      rw [hLeaf.exposed_eq]
      intro step hMem
      cases hMem
  | @binary op operator left right hOp _ _ hLeft hRight =>
      simp only [rightTight, hOp, Bool.and_eq_true] at hTight
      have hLeast : least ≤ operator.precedence :=
        hRoot operator.precedence (by simp [rootPrecedence?, hOp])
      intro step hMem
      rw [exposed_binary hOp] at hMem
      rcases List.mem_append.1 hMem with hBefore | hOthers
      · unfold exposedLeft at hBefore
        split at hBefore
        · cases hBefore
        · rename_i hBare
          refine hLeft hTight.1.1 ?_ step hBefore
          intro precedence hLeftRoot
          exact UInt8.le_trans hLeast
            (le_of_not_leftWrapped hOp
              (Bool.eq_false_iff.2 hBare) hLeftRoot)
      · rcases List.mem_cons.1 hOthers with rfl | hAfter
        · exact hLeast
        · refine hRight hTight.1.2 ?_ step hAfter
          intro precedence hRightRoot
          exact UInt8.le_trans hLeast
            (UInt8.le_of_lt
              (lt_of_bindsTighter hTight.2 hRightRoot))

/- Its outermost operator is the root of its chain. -/
theorem isRoot_of_rightTight
    {op : String}
    {operator : Operator}
    {left right : Expr}
    (hOp : dialect.binary op = some operator)
    (hLeft : left.Plain dialect)
    (hRight : right.Plain dialect)
    (hTight : (Expr.binary op left right).rightTight dialect = true) :
    Chain.IsRoot (left.exposedLeft dialect op).steps operator
      (right.exposed dialect).steps := by
  simp only [rightTight, hOp, Bool.and_eq_true] at hTight
  constructor
  · unfold exposedLeft
    split
    · intro step hMem
      cases hMem
    · rename_i hBare
      refine hLeft.le_of_mem_steps hTight.1.1 ?_
      intro precedence hRoot
      exact le_of_not_leftWrapped hOp (Bool.eq_false_iff.2 hBare)
        hRoot
  · intro step hMem
    cases hRoot : right.rootPrecedence? dialect with
    | none =>
        cases hRight with
        | leaf hLeaf =>
            rw [hLeaf.exposed_eq] at hMem
            cases hMem
        | binary hRightOp _ _ =>
            simp [rootPrecedence?, hRightOp] at hRoot
    | some precedence =>
        have hSame :
            ∀ other,
              right.rootPrecedence? dialect = some other →
                precedence ≤ other := by
          intro other hOther
          rw [Option.some.inj (hRoot.symm.trans hOther)]
          exact UInt8.le_refl other
        have hLe :=
          hRight.le_of_mem_steps hTight.1.2 hSame step hMem
        exact UInt8.lt_of_lt_of_le
          (lt_of_bindsTighter hTight.2 hRoot) hLe

theorem leaves_spelled
    (hPlain : expr.Plain dialect) :
    (expr.spelled dialect).leaves = expr.leaves := by
  induction hPlain with
  | leaf hLeaf => rw [hLeaf.spelled_eq]
  | binary hOp _ _ hLeft hRight =>
      simp only [spelled, leaves, hLeft, hRight]

end Plain

/- Parentheses around a left operand do not change its tree. -/
theorem tree_exposedLeft
    (dialect : Dialect)
    (op : String)
    (left : Expr) :
    (left.exposedLeft dialect op).tree =
      (left.exposed dialect).tree := by
  unfold exposedLeft
  split
  · exact Chain.tree_single _
  · rfl

namespace Plain

variable {dialect : Dialect} {expr : Expr}

theorem leaves_exposed
    (hPlain : expr.Plain dialect) :
    (expr.exposed dialect).tree.leaves = expr.leaves := by
  induction hPlain with
  | leaf hLeaf => rw [hLeaf.exposed_eq, Chain.tree_single]
  | binary hOp _ _ hLeft hRight =>
      rw [exposed_binary hOp, Chain.leaves_tree_extend,
        tree_exposedLeft, hLeft, hRight, leaves]

/- Right-tight expressions keep their grouping. -/
theorem tree_exposed_of_rightTight
    (hPlain : expr.Plain dialect)
    (hTight : expr.rightTight dialect = true) :
    (expr.exposed dialect).tree = expr.spelled dialect := by
  induction hPlain with
  | leaf hLeaf =>
      rw [hLeaf.exposed_eq, hLeaf.spelled_eq, Chain.tree_single]
  | @binary op operator left right hOp hLeft hRight ihLeft ihRight =>
      have hRoot := isRoot_of_rightTight hOp hLeft hRight hTight
      simp only [rightTight, hOp, Bool.and_eq_true] at hTight
      calc
        ((Expr.binary op left right).exposed dialect).tree
            = .binary operator.text
                (left.exposedLeft dialect op).tree
                (right.exposed dialect).tree := by
              rw [exposed_binary hOp, Chain.tree_extend hRoot]
        _ = .binary operator.text (left.spelled dialect)
                (right.spelled dialect) := by
              rw [tree_exposedLeft, ihLeft hTight.1.1,
                ihRight hTight.1.2]
        _ = (Expr.binary op left right).spelled dialect := by
              simp [spelled, Dialect.binaryText, hOp]

/-
  Only right-tight expressions keep their grouping.  If the
  tree of the chain is the expression, its root splits the
  leaves as the outermost operator does, and is therefore that
  operator; the operands keep their grouping in turn.
-/
theorem rightTight_of_tree_exposed
    (hPlain : expr.Plain dialect)
    (hTree : (expr.exposed dialect).tree = expr.spelled dialect) :
    expr.rightTight dialect = true := by
  induction hPlain with
  | leaf hLeaf => exact hLeaf.rightTight_eq
  | @binary op operator left right hOp hLeft hRight ihLeft ihRight =>
      have hLeaves :
          (left.spelled dialect).leaves =
            (left.exposedLeft dialect op).tree.leaves := by
        rw [hLeft.leaves_spelled, tree_exposedLeft,
          hLeft.leaves_exposed]
      rw [exposed_binary hOp, spelled] at hTree
      rcases Chain.isRoot_of_tree_extend hTree hLeaves with
        ⟨hRoot, hLeftTree, hRightTree⟩
      rw [tree_exposedLeft] at hLeftTree
      have hTighter :
          right.bindsTighter dialect operator.precedence = true :=
        hRight.bindsTighter_of_steps hRoot.lt_after
      simp [rightTight, hOp, ihLeft hLeftTree, ihRight hRightTree,
        hTighter]

/- Exactly the right-tight expressions keep their grouping. -/
theorem tree_exposed_iff
    (hPlain : expr.Plain dialect) :
    (expr.exposed dialect).tree = expr.spelled dialect ↔
      expr.rightTight dialect = true :=
  ⟨hPlain.rightTight_of_tree_exposed,
    hPlain.tree_exposed_of_rightTight⟩

/- A plain expression is read as the tree of its chain. -/
theorem exprOfPieces?_render
    {marks : List Char}
    {operators : List Operator}
    (hLegible : Reading.Legible marks operators)
    (hOperators :
      ∀ op operator,
        dialect.binary op = some operator → operator ∈ operators)
    (hPlain : expr.Plain dialect) :
    Reading.exprOfPieces? operators
        (Reading.pieces marks (expr.render dialect).toList) =
      some (expr.exposed dialect).tree :=
  (hPlain.readsAs_render hLegible hOperators).exprOfPieces?_eq

/-
  The exact reach of the parentheses.  The text of a plain
  expression in a built-in dialect can always be read, and it
  is read as the expression itself, operators spelled as in
  the dialect, if and only if every right operand is a leaf or
  binds strictly tighter than the operator in front of it.
-/
theorem read_compile_iff
    (builtIn : Dialect.BuiltIn)
    (expr : Expr)
    (hPlain : expr.Plain builtIn.dialect) :
    ∃ sql tree,
      expr.compile builtIn.dialect = .text sql ∧
        Reading.expr? builtIn.operators sql = some tree ∧
        (tree = expr.spelled builtIn.dialect ↔
          expr.rightTight builtIn.dialect = true) := by
  refine ⟨expr.render builtIn.dialect,
    (expr.exposed builtIn.dialect).tree, hPlain.compile_eq, ?_,
    hPlain.tree_exposed_iff⟩
  exact hPlain.exprOfPieces?_render
    (Reading.legible_builtIn builtIn)
    (fun _ _ hOp => builtIn.mem_operators hOp)

/-
  A group in parentheses inside of a right operand is read
  back, while a difference to the right of a minus sign is
  not.
-/
theorem read_compile_iff_at_groups :
    let name (letters : String) : Expr := .reference (.named letters)
    let kept : Expr :=
      .binary "is not" (name "a")
        (.binary "*" (.binary "or" (name "b") (name "c"))
          (.literal (.integer (-2))))
    let lost : Expr :=
      .binary "-" (name "a") (.binary "-" (name "b") (name "c"))
    let builtIn : Dialect.BuiltIn := .sqlite
    (∃ sql,
      kept.compile builtIn.dialect = .text sql ∧
        Reading.expr? builtIn.operators sql =
          some (kept.spelled builtIn.dialect)) ∧
      ∃ sql tree,
        lost.compile builtIn.dialect = .text sql ∧
          Reading.expr? builtIn.operators sql = some tree ∧
          tree ≠ lost.spelled builtIn.dialect := by
  intro name kept lost builtIn
  have hName :
      ∀ letters : String,
        Reading.isName letters.toList = true →
          (name letters).Plain builtIn.dialect :=
    fun _ hLetters => .leaf (.named hLetters)
  have hKept : kept.Plain builtIn.dialect :=
    .binary rfl (hName "a" rfl)
      (.binary rfl (.binary rfl (hName "b" rfl) (hName "c" rfl))
        (.leaf (.integer (-2))))
  have hLost : lost.Plain builtIn.dialect :=
    .binary rfl (hName "a" rfl)
      (.binary rfl (hName "b" rfl) (hName "c" rfl))
  rcases read_compile_iff builtIn kept hKept with
    ⟨keptSql, keptTree, hKeptSql, hKeptRead, hKeptIff⟩
  rcases read_compile_iff builtIn lost hLost with
    ⟨lostSql, lostTree, hLostSql, hLostRead, hLostIff⟩
  refine ⟨⟨keptSql, hKeptSql, ?_⟩,
    lostSql, lostTree, hLostSql, hLostRead, ?_⟩
  · rw [hKeptRead, hKeptIff.2 (by decide)]
  · intro hTree
    exact absurd (hLostIff.1 hTree) (by decide)

end Plain

end Expr

end SqlCompiler
