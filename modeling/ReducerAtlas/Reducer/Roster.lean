import ReducerAtlas.Reducer.Basic

/-!
# Rosters

A roster holds at most one reducer of each name, in the order of the names, so two rosters that
answer alike for every name are equal.

* `Roster.find?`: the reducer of a name.
* `Roster.insert`: one more reducer; `Roster.union`: two rosters, the second winning on equal names.
-/

namespace ReducerAtlas

/-- Reducers in strictly increasing order of their names. -/
structure Roster where
  toList : List Reducer
  increasing : toList.Pairwise fun a b => a.name < b.name
  deriving DecidableEq

namespace Roster

/-- The roster without reducers. -/
def empty : Roster := ⟨[], .nil⟩

instance : Inhabited Roster := ⟨empty⟩

/-- The reducer of a name. -/
def find? (roster : Roster) (name : String) : Option Reducer :=
  roster.toList.find? (·.name == name)

/-- The names of a roster, in increasing order. -/
def names (roster : Roster) : List String :=
  roster.toList.map (·.name)

/-- A reducer among others in the order of their names, in place of one with its name. -/
def insertList (r : Reducer) : List Reducer → List Reducer
  | [] => [r]
  | s :: rest =>
    if r.name < s.name then r :: s :: rest
    else if r.name = s.name then r :: rest
    else s :: insertList r rest

theorem mem_insertList {r x : Reducer} {l : List Reducer} (h : x ∈ insertList r l) :
    x = r ∨ x ∈ l := by
  induction l with
  | nil => simpa [insertList] using h
  | cons s rest ih =>
    unfold insertList at h
    split at h
    · simpa using h
    · split at h
      · rcases List.mem_cons.1 h with h | h
        · exact .inl h
        · exact .inr (List.mem_cons_of_mem _ h)
      · rcases List.mem_cons.1 h with h | h
        · exact .inr (h ▸ List.mem_cons_self)
        · exact (ih h).imp id (List.mem_cons_of_mem _)

theorem pairwise_insertList {r : Reducer} {l : List Reducer}
    (h : l.Pairwise fun a b => a.name < b.name) :
    (insertList r l).Pairwise fun a b => a.name < b.name := by
  induction l with
  | nil => simp [insertList]
  | cons s rest ih =>
    obtain ⟨hs, hrest⟩ := List.pairwise_cons.1 h
    unfold insertList
    split
    · next hlt =>
      refine List.pairwise_cons.2 ⟨fun x hx => ?_, h⟩
      rcases List.mem_cons.1 hx with rfl | hx
      · exact hlt
      · exact String.lt_trans hlt (hs x hx)
    · split
      · next heq => exact List.pairwise_cons.2 ⟨fun x hx => heq ▸ hs x hx, hrest⟩
      · next hge hne =>
        refine List.pairwise_cons.2 ⟨fun x hx => ?_, ih hrest⟩
        rcases mem_insertList hx with rfl | hx
        · exact Decidable.byContradiction fun hn =>
            hne (String.le_antisymm (String.not_lt.1 hn) (String.not_lt.1 hge))
        · exact hs x hx

/-- The roster with a reducer in place of the one with its name. -/
def insert (roster : Roster) (r : Reducer) : Roster :=
  ⟨insertList r roster.toList, pairwise_insertList roster.increasing⟩

/-- All reducers of two rosters; on equal names the second wins. -/
def union (roster other : Roster) : Roster :=
  other.toList.foldl insert roster

/-- The roster of a list; on equal names the last wins. -/
def ofList (reducers : List Reducer) : Roster :=
  reducers.foldl insert empty

end Roster

end ReducerAtlas
