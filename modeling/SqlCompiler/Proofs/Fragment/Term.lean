import SqlCompiler.Proofs.Fragment

/-
  This file follows fragments through terms: any nesting of
  the operations on fragments, down to leaves that are texts
  or failures.  A term fails with the problems of its failing
  leaves from left to right, none of them lost, doubled or
  moved; if no leaf fails, it has the text that its operations
  say.

  Key definitions include:
    * `Fragment.Leaf`
    * `Fragment.Term`
    * `Fragment.Term.build`
    * `Fragment.Term.leaves`
    * `Fragment.Term.text`

  Key theorems include:
    * `Fragment.Term.build_eq_settle`
    * `Fragment.Term.build_accumulates`
-/

namespace SqlCompiler.Fragment

------------------------------------------------------------
-- Leaves
------------------------------------------------------------

/- A fragment that is not made of other ones. -/
inductive Leaf where
  | text (sql : String)
  | empty
  | fail (problem : Problem)
  | failAll (problems : Problems)
deriving DecidableEq, Repr

namespace Leaf

def build : Leaf → Fragment
  | .text sql => .text sql
  | .empty => .empty
  | .fail problem => .fail problem
  | .failAll problems => .failed problems

def IsFailure : Leaf → Prop
  | .text _ | .empty => False
  | .fail _ | .failAll _ => True

/- The problems that a leaf brings in. -/
def problems : Leaf → List Problem
  | .text _ | .empty => []
  | .fail problem => [problem]
  | .failAll problems => problems.toList

/- The text that a leaf brings in; a failure has none. -/
def sql : Leaf → String
  | .text sql => sql
  | .empty | .fail _ | .failAll _ => ""

theorem build_eq_settle
    (leaf : Leaf) :
    leaf.build = settle leaf.problems leaf.sql := by
  cases leaf <;> rfl

theorem problems_eq_nil_iff
    {leaf : Leaf} :
    leaf.problems = [] ↔ ¬ leaf.IsFailure := by
  cases leaf <;> simp [problems, IsFailure]

end Leaf

------------------------------------------------------------
-- Terms
------------------------------------------------------------

/-
  A way to build a fragment.  Adding a fragment in place is
  `combine`, and adding plain text in place is `followedBy`.
-/
inductive Term where
  | ofLeaf (leaf : Leaf)
  | combine (left right : Term)
  | followedBy (term : Term) (suffix : String)
  | after (lead : String) (term : Term)
  | join (separator : String) (items : List Term)
  | concat (items : List Term)
  | wrapIf (left right : String) (condition : Bool) (term : Term)
  | wrap (left right : String) (term : Term)
  | pad (term : Term)
  | check (term other : Term)

namespace Term

/-
  Induction on terms.  For a join or a concatenation, the
  property is assumed of every item.
-/
@[elab_as_elim]
theorem inductionOnItems
    {motive : Term → Prop}
    (ofLeaf : ∀ leaf, motive (.ofLeaf leaf))
    (combine :
      ∀ left right,
        motive left → motive right → motive (.combine left right))
    (followedBy :
      ∀ term suffix, motive term → motive (.followedBy term suffix))
    (after : ∀ lead term, motive term → motive (.after lead term))
    (join :
      ∀ separator items,
        (∀ item ∈ items, motive item) →
          motive (.join separator items))
    (concat :
      ∀ items,
        (∀ item ∈ items, motive item) → motive (.concat items))
    (wrapIf :
      ∀ left right condition term,
        motive term → motive (.wrapIf left right condition term))
    (wrap :
      ∀ left right term,
        motive term → motive (.wrap left right term))
    (pad : ∀ term, motive term → motive (.pad term))
    (check :
      ∀ term other,
        motive term → motive other → motive (.check term other))
    (term : Term) :
    motive term := by
  refine Term.rec ofLeaf combine followedBy after join concat wrapIf
    wrap pad check ?_ ?_ term
  · intro item hMem
    cases hMem
  · intro first rest hFirst hRest item hMem
    rcases List.mem_cons.1 hMem with hEq | hOld
    · exact hEq ▸ hFirst
    · exact hRest item hOld

mutual

/- The fragment that a term builds. -/
def build : Term → Fragment
  | .ofLeaf leaf => leaf.build
  | .combine left right => left.build.combine right.build
  | .followedBy term suffix => term.build.followedBy suffix
  | .after lead term => Fragment.after lead term.build
  | .join separator items => Fragment.join separator (buildEach items)
  | .concat items => Fragment.concat (buildEach items)
  | .wrapIf left right condition term =>
      term.build.wrapIf left right condition
  | .wrap left right term => term.build.wrap left right
  | .pad term => term.build.pad
  | .check term other => term.build.check other.build

def buildEach : List Term → List Fragment
  | [] => []
  | item :: rest => item.build :: buildEach rest

end

mutual

/- The leaves of a term, in the order of its operands. -/
def leaves : Term → List Leaf
  | .ofLeaf leaf => [leaf]
  | .combine left right => left.leaves ++ right.leaves
  | .followedBy term _ => term.leaves
  | .after _ term => term.leaves
  | .join _ items => leavesOfEach items
  | .concat items => leavesOfEach items
  | .wrapIf _ _ _ term => term.leaves
  | .wrap _ _ term => term.leaves
  | .pad term => term.leaves
  | .check term other => term.leaves ++ other.leaves

def leavesOfEach : List Term → List Leaf
  | [] => []
  | item :: rest => item.leaves ++ leavesOfEach rest

end

mutual

/-
  The text of a term as if nothing failed.  A term that is
  only checked has no part in it.
-/
def text : Term → String
  | .ofLeaf leaf => leaf.sql
  | .combine left right => left.text ++ right.text
  | .followedBy term suffix => term.text ++ suffix
  | .after lead term => lead ++ term.text
  | .join separator items => separator.intercalate (textOfEach items)
  | .concat items => String.join (textOfEach items)
  | .wrapIf left right condition term =>
      if condition then left ++ term.text ++ right else term.text
  | .wrap left right term => left ++ term.text ++ right
  | .pad term => " " ++ term.text ++ " "
  | .check term _ => term.text

def textOfEach : List Term → List String
  | [] => []
  | item :: rest => item.text :: textOfEach rest

end

theorem buildEach_eq_map
    (items : List Term) :
    buildEach items = items.map build := by
  induction items with
  | nil => rfl
  | cons item rest ih => simp [buildEach, ih]

theorem leavesOfEach_eq_flatMap
    (items : List Term) :
    leavesOfEach items = items.flatMap leaves := by
  induction items with
  | nil => rfl
  | cons item rest ih => simp [leavesOfEach, ih]

theorem textOfEach_eq_map
    (items : List Term) :
    textOfEach items = items.map text := by
  induction items with
  | nil => rfl
  | cons item rest ih => simp [textOfEach, ih]

------------------------------------------------------------
-- Accumulation
------------------------------------------------------------

/- The problems of the failing leaves, from left to right. -/
def problems
    (term : Term) : List Problem :=
  term.leaves.flatMap Leaf.problems

theorem problems_items
    (items : List Term) :
    (leavesOfEach items).flatMap Leaf.problems =
      items.flatMap problems := by
  rw [leavesOfEach_eq_flatMap, List.flatMap_assoc]
  rfl

/- What every item builds, when each is known to settle. -/
theorem buildEach_eq_settle
    {items : List Term}
    (hItems :
      ∀ item ∈ items,
        item.build = settle item.problems item.text) :
    buildEach items =
      items.map fun item => settle item.problems item.text := by
  rw [buildEach_eq_map]
  exact List.map_congr_left hItems

/- A term builds its problems or else its text. -/
theorem build_eq_settle
    (term : Term) :
    term.build = settle term.problems term.text := by
  induction term using inductionOnItems with
  | ofLeaf leaf =>
      rw [build, leaf.build_eq_settle]
      simp [problems, leaves, text]
  | combine left right hLeft hRight =>
      rw [build, hLeft, hRight, combine_settle]
      simp only [problems, leaves, text, List.flatMap_append]
  | followedBy term suffix hTerm =>
      rw [build, hTerm, followedBy_settle, text]
      rfl
  | after lead term hTerm =>
      rw [build, hTerm, after_settle, text]
      rfl
  | join separator items hItems =>
      rw [build, buildEach_eq_settle hItems, join_settle, text,
        textOfEach_eq_map, problems, leaves, problems_items]
  | concat items hItems =>
      rw [build, buildEach_eq_settle hItems, concat_settle, text,
        textOfEach_eq_map, problems, leaves, problems_items]
  | wrapIf left right condition term hTerm =>
      rw [build, hTerm, wrapIf_settle, text]
      rfl
  | wrap left right term hTerm =>
      rw [build, hTerm, wrap_settle, text]
      rfl
  | pad term hTerm =>
      rw [build, hTerm, Fragment.pad, wrap_settle, text]
      rfl
  | check term other hTerm hOther =>
      rw [build, hTerm, hOther, check_settle]
      simp only [problems, leaves, text, List.flatMap_append]

theorem problems_eq_nil_iff
    {term : Term} :
    term.problems = [] ↔ ∀ leaf ∈ term.leaves, ¬ leaf.IsFailure := by
  rw [problems, List.flatMap_eq_nil_iff]
  exact forall₂_congr fun _ _ => Leaf.problems_eq_nil_iff

/-
  A term fails exactly when one of its leaves does.  It then
  reports the problems of its leaves from left to right, of
  which there is a first one; otherwise it has its text.
-/
theorem build_accumulates
    (term : Term) :
    match term.build with
    | .failed problems =>
        (∃ leaf ∈ term.leaves, leaf.IsFailure) ∧
          problems.toList = term.leaves.flatMap Leaf.problems ∧
          term.leaves.flatMap Leaf.problems ≠ [] ∧
          (term.leaves.flatMap Leaf.problems)[0]? = some problems.first
    | .text sql =>
        (∀ leaf ∈ term.leaves, ¬ leaf.IsFailure) ∧
          sql = term.text := by
  rw [build_eq_settle]
  by_cases hFailing : ∃ leaf ∈ term.leaves, leaf.IsFailure
  · have hNonempty : term.problems ≠ [] := by
      rw [Ne, problems_eq_nil_iff]
      simpa using hFailing
    rcases List.exists_cons_of_ne_nil hNonempty with
      ⟨first, others, hProblems⟩
    have hFirst : term.problems[0]? = some first := by
      rw [hProblems]
      rfl
    rw [hProblems]
    exact ⟨hFailing, hProblems.symm, hNonempty, hFirst⟩
  · have hNone : ∀ leaf ∈ term.leaves, ¬ leaf.IsFailure := by
      simpa using hFailing
    rw [problems_eq_nil_iff.2 hNone]
    exact ⟨hNone, rfl⟩

end Term

end SqlCompiler.Fragment
