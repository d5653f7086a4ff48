import Mathlib.Data.List.Sort
import Mathlib.Data.String.Basic
import ReducerAtlas.Atlas.Basic

/-!
# The order of what is written

Reducers are written in the order of their names, containers in that of their keys. The two sorts
insert one entry after the other; what matters of the result is said without them: it holds the
same entries, their keys rise, and entries of one key stand as they were given.

* `InKeyOrder`: the stable order of a list by a key.
* `Reducer.inKeyOrder_sortByName`, `Container.inKeyOrder_sortByKey`: both sorts give it.
-/

namespace ReducerAtlas

variable {α : Type*}

/-- A list in the order of a key, entries of the same key in the order in which they are given. -/
structure InKeyOrder (key : α → String) (given sorted : List α) : Prop where
  perm : sorted.Perm given
  rises : sorted.Pairwise fun a b => key a ≤ key b
  stable : ∀ k, sorted.filter (key · = k) = given.filter (key · = k)

/-- Sorting by insertion is stable: entries of one key are in order as they stand, so they are
kept as a sublist. -/
theorem inKeyOrder_insertionSort (key : α → String) (given : List α) :
    InKeyOrder key given (given.insertionSort fun a b => key a ≤ key b) := by
  have hperm := given.perm_insertionSort fun a b => key a ≤ key b
  refine ⟨hperm, List.pairwise_insertionSort _ _, fun k => ?_⟩
  have hsame : (given.filter (key · = k)).Pairwise fun a b => key a ≤ key b := by
    apply List.pairwise_of_forall_mem_list
    intro a ha b hb
    rw [of_decide_eq_true (List.mem_filter.mp ha).2, of_decide_eq_true (List.mem_filter.mp hb).2]
  have hsub := (List.sublist_insertionSort hsame List.filter_sublist).filter (key · = k)
  rw [List.filter_filter] at hsub
  simp only [Bool.and_self] at hsub
  exact (hsub.eq_of_length (hperm.filter _).length_eq.symm).symm

section Insertion

variable (key : α → String) (place : α → List α → List α) (hnil : ∀ a, place a [] = [a])
  (hcons : ∀ a b rest, place a (b :: rest) =
    if key b < key a then b :: place a rest else a :: b :: rest)

include hnil hcons

theorem eq_orderedInsert (a : α) (l : List α) :
    place a l = l.orderedInsert (fun a b => key a ≤ key b) a := by
  induction l with
  | nil => exact hnil a
  | cons b rest ih =>
    rw [hcons, List.orderedInsert_cons, ih]
    by_cases h : key b < key a
    · rw [if_pos h, if_neg (not_le.mpr h)]
    · rw [if_neg h, if_pos (not_lt.mp h)]

theorem inKeyOrder_foldr (given : List α) : InKeyOrder key given (given.foldr place []) := by
  have hplace : place = fun a l => l.orderedInsert (fun a b => key a ≤ key b) a := by
    funext a l
    exact eq_orderedInsert key place hnil hcons a l
  rw [hplace]
  exact inKeyOrder_insertionSort key given

end Insertion

/-- **The reducers that are written** are the given ones, by their names. -/
theorem Reducer.inKeyOrder_sortByName (reducers : List Reducer) :
    InKeyOrder Reducer.name reducers (sortByName reducers) :=
  inKeyOrder_foldr Reducer.name insertByName (fun _ => rfl) (fun _ _ _ => rfl) reducers

/-- **The containers that are written** are the given ones, by their keys. -/
theorem Container.inKeyOrder_sortByKey (containers : List Container) :
    InKeyOrder Container.key containers (sortByKey containers) :=
  inKeyOrder_foldr Container.key insertByKey (fun _ => rfl) (fun _ _ _ => rfl) containers

end ReducerAtlas
