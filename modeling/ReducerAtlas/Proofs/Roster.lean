import Mathlib.Data.List.Nodup
import ReducerAtlas.Reducer.Roster

/-!
# What rosters hold

A roster is read in two ways: the reducers that it holds and the names that it knows. A union knows
the names of both its parts; which reducer answers to a name that both know is for the second part
to say, so only what is held comes from one of the two.

* `Roster.mem_names_union`, `Roster.mem_union`: the names and the reducers of a union.
* `Roster.find?_eq_some_iff`: looking up a name finds the one reducer that has it;
  `Roster.find?_insert`: and the one that was put in last; `Roster.find?_union`: in a union, that of
  the second part; `Roster.unionOver`: the union of many.
* `Roster.ext_mem`: a roster is known by what it holds.
-/

namespace ReducerAtlas.Roster

variable {a b : Roster} {r x : Reducer} {n : String} {l : List Reducer}

theorem mem_insertList_self : r ∈ insertList r l := by
  induction l with
  | nil => simp [insertList]
  | cons s rest ih =>
    unfold insertList
    split_ifs
    · exact List.mem_cons_self
    · exact List.mem_cons_self
    · exact List.mem_cons_of_mem _ ih

theorem mem_insertList_of_ne (hx : x ∈ l) (hne : x.name ≠ r.name) : x ∈ insertList r l := by
  induction l with
  | nil => cases hx
  | cons s rest ih =>
    unfold insertList
    split_ifs with hlt heq
    · exact List.mem_cons_of_mem _ hx
    · rcases List.mem_cons.mp hx with rfl | hx
      · exact absurd heq.symm hne
      · exact List.mem_cons_of_mem _ hx
    · rcases List.mem_cons.mp hx with rfl | hx
      · exact List.mem_cons_self
      · exact List.mem_cons_of_mem _ (ih hx)

theorem mem_names : n ∈ a.names ↔ ∃ r ∈ a.toList, r.name = n := List.mem_map

@[simp] theorem toList_empty : empty.toList = [] := rfl

@[simp] theorem names_empty : empty.names = [] := rfl

theorem mem_insert (h : x ∈ (a.insert r).toList) : x = r ∨ x ∈ a.toList := mem_insertList h

theorem mem_names_insert : n ∈ (a.insert r).names ↔ n = r.name ∨ n ∈ a.names := by
  simp only [mem_names]
  constructor
  · rintro ⟨x, hx, rfl⟩
    rcases mem_insert hx with rfl | hx
    · exact .inl rfl
    · exact .inr ⟨x, hx, rfl⟩
  · rintro (rfl | ⟨x, hx, rfl⟩)
    · exact ⟨r, mem_insertList_self, rfl⟩
    · by_cases hne : x.name = r.name
      · exact ⟨r, mem_insertList_self, hne.symm⟩
      · exact ⟨x, mem_insertList_of_ne hx hne, rfl⟩

/-! ## Many insertions -/

theorem mem_foldl_insert (h : x ∈ (l.foldl insert a).toList) : x ∈ a.toList ∨ x ∈ l := by
  induction l generalizing a with
  | nil => exact .inl h
  | cons s rest ih =>
    rcases ih h with h | h
    · rcases mem_insert h with rfl | h
      · exact .inr List.mem_cons_self
      · exact .inl h
    · exact .inr (List.mem_cons_of_mem _ h)

theorem mem_names_foldl_insert :
    n ∈ (l.foldl insert a).names ↔ n ∈ a.names ∨ ∃ r ∈ l, r.name = n := by
  induction l generalizing a with
  | nil => simp
  | cons s rest ih =>
    rw [List.foldl_cons, ih, mem_names_insert, List.exists_mem_cons_iff, or_assoc, eq_comm]
    exact or_left_comm

theorem mem_union (h : x ∈ (a.union b).toList) : x ∈ a.toList ∨ x ∈ b.toList := mem_foldl_insert h

theorem mem_names_union : n ∈ (a.union b).names ↔ n ∈ a.names ∨ n ∈ b.names := by
  rw [union, mem_names_foldl_insert, mem_names (a := b)]

theorem mem_ofList (h : x ∈ (ofList l).toList) : x ∈ l := by
  rcases mem_foldl_insert h with h | h
  · cases h
  · exact h

theorem mem_names_ofList : n ∈ (ofList l).names ↔ ∃ r ∈ l, r.name = n := by
  rw [ofList, mem_names_foldl_insert]
  simp

/-! ## Looking up a name -/

theorem nodup_names (a : Roster) : a.names.Nodup := by
  refine (List.pairwise_map.mpr a.increasing).imp fun {x y} h => ?_
  rintro rfl
  exact String.lt_irrefl x h

theorem eq_of_name_eq (hr : r ∈ a.toList) (hx : x ∈ a.toList) (h : r.name = x.name) : r = x :=
  List.inj_on_of_nodup_map a.nodup_names hr hx h

theorem find?_eq_some_iff : a.find? n = some r ↔ r ∈ a.toList ∧ r.name = n := by
  constructor
  · intro h
    exact ⟨List.mem_of_find?_eq_some h, by simpa using List.find?_some h⟩
  · rintro ⟨hr, rfl⟩
    cases h : a.find? r.name with
    | none =>
      have := List.find?_eq_none.mp h r hr
      simp at this
    | some x =>
      have hname : x.name = r.name := by simpa using List.find?_some h
      rw [eq_of_name_eq (List.mem_of_find?_eq_some h) hr hname]

theorem find?_eq_none_iff : a.find? n = none ↔ n ∉ a.names := by
  rw [mem_names, Option.eq_none_iff_forall_ne_some]
  simp only [ne_eq, find?_eq_some_iff, not_exists]

theorem find?_insert : (a.insert r).find? n = if r.name = n then some r else a.find? n := by
  split_ifs with h
  · exact find?_eq_some_iff.mpr ⟨mem_insertList_self, h⟩
  · refine Option.ext fun x => ?_
    rw [find?_eq_some_iff, find?_eq_some_iff]
    constructor
    · rintro ⟨hx, rfl⟩
      rcases mem_insert hx with rfl | hx
      · exact absurd rfl h
      · exact ⟨hx, rfl⟩
    · rintro ⟨hx, rfl⟩
      exact ⟨mem_insertList_of_ne hx (Ne.symm h), rfl⟩

theorem find?_foldl_insert (h : (l.map (·.name)).Nodup) :
    (l.foldl insert a).find? n = (l.find? (·.name == n)).or (a.find? n) := by
  induction l generalizing a with
  | nil => rfl
  | cons r rest ih =>
    obtain ⟨hnew, hrest⟩ := List.nodup_cons.mp h
    rw [List.foldl_cons, ih hrest, find?_insert, List.find?_cons]
    by_cases hr : r.name = n
    · have hnone : rest.find? (·.name == n) = none := by
        rw [List.find?_eq_none]
        intro x hx hname
        rw [beq_iff_eq] at hname
        exact hnew (List.mem_map.mpr ⟨x, hx, hname.trans hr.symm⟩)
      simp [hr, hnone]
    · simp [hr, beq_eq_false_iff_ne.mpr hr]

/-- The second part of a union answers first. -/
theorem find?_union : (a.union b).find? n = (b.find? n).or (a.find? n) :=
  find?_foldl_insert b.nodup_names

/-- **A roster is known by what it holds.** -/
theorem ext_mem (h : ∀ r, r ∈ a.toList ↔ r ∈ b.toList) : a = b := by
  have hperm : a.toList.Perm b.toList :=
    (List.perm_ext_iff_of_nodup a.nodup_names.of_map b.nodup_names.of_map).mpr h
  have hlist : a.toList = b.toList :=
    hperm.eq_of_pairwise (fun _ _ _ _ h1 h2 => absurd h1 (String.lt_asymm h2)) a.increasing
      b.increasing
  cases a
  cases b
  simp_all

/-! ## Unions of many rosters -/

/-- The union of the rosters of some things, the earlier ones of the list winning. -/
def unionOver {ι : Type} (f : ι → Roster) (l : List ι) : Roster :=
  l.foldr (fun i usage => usage.union (f i)) empty

section UnionOver

variable {ι : Type} {f : ι → Roster} {is : List ι}

theorem unionOver_cons (i : ι) : unionOver f (i :: is) = (unionOver f is).union (f i) := rfl

theorem find?_unionOver : (unionOver f is).find? n = is.findSome? fun i => (f i).find? n := by
  induction is with
  | nil => rfl
  | cons i rest ih =>
    rw [unionOver_cons, find?_union, ih, List.findSome?_cons]
    cases (f i).find? n <;> rfl

theorem mem_names_unionOver : n ∈ (unionOver f is).names ↔ ∃ i ∈ is, n ∈ (f i).names := by
  induction is with
  | nil => simp [unionOver]
  | cons i rest ih => rw [unionOver_cons, mem_names_union, ih, List.exists_mem_cons_iff, or_comm]

theorem mem_unionOver (h : x ∈ (unionOver f is).toList) : ∃ i ∈ is, x ∈ (f i).toList := by
  induction is with
  | nil => cases h
  | cons i rest ih =>
    rw [unionOver_cons] at h
    rw [List.exists_mem_cons_iff]
    rcases mem_union h with h | h
    · exact .inr (ih h)
    · exact .inl h

end UnionOver

end ReducerAtlas.Roster
