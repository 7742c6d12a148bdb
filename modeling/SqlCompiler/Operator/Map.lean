import SqlCompiler.Dialect.Basic

/-
  This file defines maps from symbols to operators.  The
  entries are kept in the order of their symbols, so that two
  maps with the same entries are equal.

  Key definitions include:
    * `OperatorMap`
    * `OperatorMap.insert`
    * `OperatorMap.ofList`
    * `OperatorMap.get?`
    * `OperatorMap.find?`

  Key theorems include:
    * `OperatorMap.place_sorted`
-/

namespace SqlCompiler

/- Entries whose symbols increase strictly. -/
def SortedEntries
    (entries : List Dialect.Entry) : Prop :=
  entries.Pairwise fun a b => a.1 < b.1

/- A map from symbols to operators. -/
structure OperatorMap where
  entries : List Dialect.Entry
  sorted : SortedEntries entries

namespace OperatorMap

instance : DecidableEq OperatorMap :=
  fun a b =>
    if h : a.entries = b.entries then
      isTrue (by cases a; cases b; cases h; rfl)
    else
      isFalse (fun hEq => h (congrArg entries hEq))

def empty : OperatorMap :=
  ⟨[], List.Pairwise.nil⟩

------------------------------------------------------------
-- Insertion
------------------------------------------------------------

/- Put an entry in its place, over an entry of the same symbol. -/
def place
    (symbol : String)
    (operator : Operator) : List Dialect.Entry → List Dialect.Entry
  | [] => [(symbol, operator)]
  | entry :: rest =>
      if symbol < entry.1 then
        (symbol, operator) :: entry :: rest
      else if symbol = entry.1 then
        (symbol, operator) :: rest
      else
        entry :: place symbol operator rest

/- An entry after placing is the new one or an old one. -/
theorem eq_or_mem_of_mem_place
    {symbol : String}
    {operator : Operator}
    {entries : List Dialect.Entry}
    {entry : Dialect.Entry}
    (hMem : entry ∈ place symbol operator entries) :
    entry = (symbol, operator) ∨ entry ∈ entries := by
  induction entries with
  | nil => simpa [place] using hMem
  | cons first rest ih =>
      unfold place at hMem
      split at hMem
      · simpa using hMem
      · split at hMem
        · rcases List.mem_cons.1 hMem with hNew | hOld
          · exact Or.inl hNew
          · exact Or.inr (List.mem_cons_of_mem _ hOld)
        · rcases List.mem_cons.1 hMem with hFirst | hRest
          · exact Or.inr (hFirst ▸ List.mem_cons_self)
          · rcases ih hRest with hNew | hOld
            · exact Or.inl hNew
            · exact Or.inr (List.mem_cons_of_mem _ hOld)

/- Placing an entry keeps the symbols increasing. -/
theorem place_sorted
    {symbol : String}
    {operator : Operator}
    {entries : List Dialect.Entry}
    (hSorted : SortedEntries entries) :
    SortedEntries (place symbol operator entries) := by
  induction entries with
  | nil => simp [place, SortedEntries]
  | cons first rest ih =>
      have hParts := List.pairwise_cons.1 hSorted
      unfold place
      split
      · rename_i hBefore
        refine List.pairwise_cons.2 ⟨?_, hSorted⟩
        intro entry hMem
        rcases List.mem_cons.1 hMem with hFirst | hRest
        · exact hFirst ▸ hBefore
        · exact String.lt_trans hBefore (hParts.1 entry hRest)
      · rename_i hNotBefore
        split
        · rename_i hSame
          refine List.pairwise_cons.2 ⟨?_, hParts.2⟩
          intro entry hMem
          exact hSame ▸ hParts.1 entry hMem
        · rename_i hOther
          refine List.pairwise_cons.2 ⟨?_, ih hParts.2⟩
          intro entry hMem
          rcases eq_or_mem_of_mem_place hMem with hNew | hOld
          · subst hNew
            show first.1 < symbol
            refine Decidable.byContradiction fun hNotAfter => ?_
            exact hOther
              (String.le_antisymm
                (String.not_lt.1 hNotAfter)
                (String.not_lt.1 hNotBefore))
          · exact hParts.1 entry hOld

/- Add an operator; an operator of the same symbol is replaced. -/
def insert
    (map : OperatorMap)
    (symbol : String)
    (operator : Operator) : OperatorMap :=
  ⟨place symbol operator map.entries, place_sorted map.sorted⟩

/- The map of a list of entries; later ones win. -/
def ofList
    (entries : List Dialect.Entry) : OperatorMap :=
  entries.foldl (fun map entry => map.insert entry.1 entry.2) empty

------------------------------------------------------------
-- Lookup
------------------------------------------------------------

def size
    (map : OperatorMap) : Nat :=
  map.entries.length

/- The operator of exactly this symbol. -/
def get?
    (map : OperatorMap)
    (symbol : String) : Option Operator :=
  (map.entries.find? fun entry => entry.1 == symbol).map (·.2)

/-
  The operator of this symbol, or else of the first symbol
  that equals it up to the case of ASCII letters.
-/
def find?
    (map : OperatorMap)
    (symbol : String) : Option Operator :=
  (map.get? symbol).or (Dialect.lookup? map.entries symbol)

end OperatorMap

end SqlCompiler
