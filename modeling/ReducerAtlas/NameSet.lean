/-!
# Name sets

A set of names is the list of its members in increasing order, each once, so two sets with the same
members are equal.

* `NameSet.insert`, `NameSet.ofList`: building a set.
* `NameSet.Ordered`: the order every set built here keeps.
-/

namespace ReducerAtlas

/-- Distinct names in increasing order. -/
abbrev NameSet := List String

/-- The set with one more member. -/
def NameSet.insert (name : String) : NameSet → NameSet
  | [] => [name]
  | n :: ns =>
    if name < n then name :: n :: ns
    else if name = n then n :: ns
    else n :: NameSet.insert name ns

/-- The set of the names in a list. -/
def NameSet.ofList (names : List String) : NameSet :=
  names.foldr NameSet.insert []

/-- Each member stands before all greater ones. -/
def NameSet.Ordered (names : NameSet) : Prop :=
  names.Pairwise (· < ·)

/-- Some member of the first set is one of the second. -/
def NameSet.meets (names other : NameSet) : Bool :=
  names.any other.contains

theorem NameSet.mem_insert {name x : String} {names : NameSet} :
    x ∈ NameSet.insert name names ↔ x = name ∨ x ∈ names := by
  induction names with
  | nil => simp [NameSet.insert]
  | cons n ns ih =>
    unfold NameSet.insert
    split
    · simp
    · split
      · next h => simp [h]
      · simp only [List.mem_cons, ih]
        exact or_left_comm

theorem NameSet.mem_ofList {x : String} {names : List String} :
    x ∈ NameSet.ofList names ↔ x ∈ names := by
  induction names with
  | nil => simp [NameSet.ofList]
  | cons n ns ih =>
    change x ∈ NameSet.insert n (NameSet.ofList ns) ↔ _
    rw [NameSet.mem_insert, ih, List.mem_cons]

theorem NameSet.ordered_insert {name : String} {names : NameSet} (h : names.Ordered) :
    (NameSet.insert name names).Ordered := by
  induction names with
  | nil => exact List.pairwise_singleton _ _
  | cons n ns ih =>
    obtain ⟨hn, hns⟩ := List.pairwise_cons.1 h
    unfold NameSet.insert
    split
    · next hlt =>
      refine List.pairwise_cons.2 ⟨fun x hx => ?_, h⟩
      rcases List.mem_cons.1 hx with rfl | hx
      · exact hlt
      · exact String.lt_trans hlt (hn x hx)
    · split
      · exact h
      · next hge hne =>
        refine List.pairwise_cons.2 ⟨fun x hx => ?_, ih hns⟩
        rcases NameSet.mem_insert.1 hx with rfl | hx
        · exact Decidable.byContradiction fun hn =>
            hne (String.le_antisymm (String.not_lt.1 hn) (String.not_lt.1 hge))
        · exact hn x hx

theorem NameSet.ordered_ofList (names : List String) : (NameSet.ofList names).Ordered := by
  induction names with
  | nil => exact List.Pairwise.nil
  | cons n ns ih => exact NameSet.ordered_insert ih

end ReducerAtlas
