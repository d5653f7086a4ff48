import ReducerAtlas.Proofs.Roster
import ReducerAtlas.Usage.Ledger

/-!
# Laws of the ledger

What each operation of the ledger does to its marks, its pending nodes, its findings and its store,
so that nothing further on opens their definitions.

* `Ledger.number`, `Ledger.low`, `Ledger.Marked`, `Ledger.Known`: what the marks and the store say
  of a node.
* `Ledger.lower`, `Ledger.keep`, `Ledger.finish`: what `link`, a `close` inside a circle and the
  `close` of its oldest node come to.
* `Ledger.close_of_low_ne`, **`Ledger.close_eq_finish`**: the two ways in which a node is closed;
  `Ledger.close_of_low_eq`: what the result of a circle knows.
-/

namespace ReducerAtlas

/-! ## Tables -/

namespace Table

variable {κ α : Type} [DecidableEq κ] {key k : κ} {value a : α} {t u : Table κ α}

theorem length_set_of_none (h : t.get? key = none) : (t.set key value).length = t.length + 1 := by
  induction t with
  | nil => rfl
  | cons e rest ih =>
    simp only [get?] at h
    split_ifs at h with hk
    simp [set, hk, ih h]

theorem length_set_of_some (h : t.get? key = some a) : (t.set key value).length = t.length := by
  induction t with
  | nil => cases h
  | cons e rest ih =>
    simp only [get?] at h
    split_ifs at h with hk
    · simp [set, hk]
    · simp [set, hk, ih h]

theorem get?_erase_of_ne (h : key ≠ k) : (t.erase key).get? k = t.get? k := by
  induction t with
  | nil => rfl
  | cons e rest ih =>
    by_cases hk : e.1 = key
    · simp [erase, get?, hk, h]
    · simp [erase, get?, hk, ih]

theorem get?_append : get? k (t ++ u) = (get? k t).or (get? k u) := by
  induction t with
  | nil => rfl
  | cons e rest ih =>
    simp only [List.cons_append, get?, ih]
    split_ifs <;> rfl

theorem eq_nil_of_get? (h : ∀ k, t.get? k = none) : t = [] := by
  cases t with
  | nil => rfl
  | cons e rest => simpa [get?] using h e.1

theorem mem_keys_iff : k ∈ t.map Prod.fst ↔ (t.get? k).isSome = true := by
  induction t with
  | nil => simp [get?]
  | cons e rest ih =>
    simp only [get?, List.map_cons, List.mem_cons, ih]
    split_ifs with h
    · simp [h]
    · simp [Ne.symm h]

theorem nodup_keys_set (h : (t.map Prod.fst).Nodup) : ((t.set key value).map Prod.fst).Nodup := by
  induction t with
  | nil => simp [set]
  | cons e rest ih =>
    obtain ⟨hnew, hrest⟩ := List.nodup_cons.mp h
    unfold set
    split_ifs with hk
    · exact h
    · refine List.nodup_cons.mpr ⟨?_, ih hrest⟩
      rw [mem_keys_iff, get?_set, if_neg (Ne.symm hk), ← mem_keys_iff]
      exact hnew

theorem get?_erase (h : (t.map Prod.fst).Nodup) :
    (t.erase key).get? k = if key = k then none else t.get? k := by
  split_ifs with hk
  · subst hk
    induction t with
    | nil => rfl
    | cons e rest ih =>
      obtain ⟨hnew, hrest⟩ := List.nodup_cons.mp h
      unfold erase
      split_ifs with he
      · rw [mem_keys_iff, he] at hnew
        simpa using hnew
      · rw [get?, if_neg he]
        exact ih hrest
  · exact get?_erase_of_ne hk

theorem nodup_keys_erase (h : (t.map Prod.fst).Nodup) : ((t.erase key).map Prod.fst).Nodup := by
  induction t with
  | nil => exact h
  | cons e rest ih =>
    obtain ⟨hnew, hrest⟩ := List.nodup_cons.mp h
    unfold erase
    split_ifs with hk
    · exact hrest
    · refine List.nodup_cons.mpr ⟨?_, ih hrest⟩
      rw [mem_keys_iff, get?_erase_of_ne (Ne.symm hk), ← mem_keys_iff]
      exact hnew

end Table

/-! ## Stores -/

theorem Store.isSome_find?_iff {store : Store} {n : Node} :
    (store.find? n).isSome = true ↔ ∃ group ∈ store, n ∈ group.members := by
  induction store with
  | nil => simp [find?]
  | cons group rest ih =>
    simp only [find?]
    split_ifs with h
    · simp [h]
    · simp [h, ih]

namespace Ledger

variable {L : Ledger} {node n : Node} {k : Int} {found : Roster}

/-! ## Marks -/

/-- The number of a node. -/
def number (L : Ledger) (n : Node) : Nat := ((L.marks.get? n).map (·.number)).getD 0

/-- The low mark of a node. -/
def low (L : Ledger) (n : Node) : Int := ((L.marks.get? n).map (·.low)).getD 0

/-- The node was opened. -/
def Marked (L : Ledger) (n : Node) : Prop := (L.marks.get? n).isSome

/-- The node was opened or is finished. -/
def Known (L : Ledger) (n : Node) : Prop := L.Marked n ∨ (L.store.find? n).isSome

theorem get?_of_marked (h : L.Marked n) : L.marks.get? n = some ⟨L.number n, L.low n⟩ := by
  obtain ⟨mark, hmark⟩ := Option.isSome_iff_exists.mp h
  simp [number, low, hmark]

theorem not_marked_iff : ¬ L.Marked n ↔ L.marks.get? n = none := by
  simp [Marked]

/-- The ledger with a lower mark for a node. -/
def lower (L : Ledger) (node : Node) (k : Int) : Ledger :=
  { L with marks := L.marks.set node ⟨L.number node, min (L.low node) k⟩ }

/-- The ledger with the findings of a node. -/
def keep (L : Ledger) (node : Node) (found : Roster) : Ledger :=
  { L with partials := L.partials.set node found }

@[simp] theorem store_enter : (L.enter node).store = L.store := rfl
@[simp] theorem pending_enter : (L.enter node).pending = node :: L.pending := rfl
@[simp] theorem partials_enter : (L.enter node).partials = L.partials := rfl
@[simp] theorem store_lower : (L.lower node k).store = L.store := rfl
@[simp] theorem pending_lower : (L.lower node k).pending = L.pending := rfl
@[simp] theorem partials_lower : (L.lower node k).partials = L.partials := rfl
@[simp] theorem store_keep : (L.keep node found).store = L.store := rfl
@[simp] theorem marks_keep : (L.keep node found).marks = L.marks := rfl
@[simp] theorem pending_keep : (L.keep node found).pending = L.pending := rfl
@[simp] theorem number_keep : (L.keep node found).number n = L.number n := rfl
@[simp] theorem low_keep : (L.keep node found).low n = L.low n := rfl

theorem get?_partials_keep :
    (L.keep node found).partials.get? n = if node = n then some found else L.partials.get? n :=
  Table.get?_set node n found L.partials

theorem get?_marks_enter : (L.enter node).marks.get? n =
    if node = n then some ⟨L.marks.length, L.marks.length⟩ else L.marks.get? n :=
  Table.get?_set node n _ L.marks

theorem marked_enter : (L.enter node).Marked n ↔ node = n ∨ L.Marked n := by
  unfold Marked
  rw [get?_marks_enter]
  split_ifs with h <;> simp [h]

@[simp] theorem number_enter_self : (L.enter node).number node = L.marks.length := by
  simp [number, get?_marks_enter]

@[simp] theorem low_enter_self : (L.enter node).low node = L.marks.length := by
  simp [low, get?_marks_enter]

theorem number_enter_of_ne (h : node ≠ n) : (L.enter node).number n = L.number n := by
  simp [number, get?_marks_enter, h]

theorem low_enter_of_ne (h : node ≠ n) : (L.enter node).low n = L.low n := by
  simp [low, get?_marks_enter, h]

theorem length_marks_enter (h : ¬ L.Marked node) :
    (L.enter node).marks.length = L.marks.length + 1 :=
  Table.length_set_of_none (not_marked_iff.mp h)

theorem get?_marks_lower : (L.lower node k).marks.get? n =
    if node = n then some ⟨L.number node, min (L.low node) k⟩ else L.marks.get? n :=
  Table.get?_set node n _ L.marks

@[simp] theorem number_lower : (L.lower node k).number n = L.number n := by
  unfold number
  rw [get?_marks_lower]
  split_ifs with h
  · subst h
    rfl
  · rfl

@[simp] theorem low_lower_self : (L.lower node k).low node = min (L.low node) k := by
  simp [low, get?_marks_lower]

theorem low_lower_of_ne (h : node ≠ n) : (L.lower node k).low n = L.low n := by
  simp [low, get?_marks_lower, h]

theorem marked_lower (h : L.Marked node) : (L.lower node k).Marked n ↔ L.Marked n := by
  unfold Marked
  rw [get?_marks_lower]
  split_ifs with hn
  · subst hn
    simpa [Marked] using h
  · rfl

theorem length_marks_lower (h : L.Marked node) :
    (L.lower node k).marks.length = L.marks.length :=
  Table.length_set_of_some (get?_of_marked h)

theorem link_of_marked (h : L.Marked node) : L.link node k = .ok (L.lower node k) := by
  simp [link, get?_of_marked h, lower]

/-! ## Closing -/

/-- A node that can get back to an older one is closed with what it has found. -/
theorem close_of_low_ne (h : L.Marked node) (hlow : L.low node ≠ L.number node) :
    L.close node found = (L.keep node found, .ok found) := by
  simp [close, get?_of_marked h, hlow, keep]

theorem splitAt?_append {new below : List Node} (h : node ∉ new) :
    splitAt? node (new ++ node :: below) = some (new ++ [node], below) := by
  induction new with
  | nil => simp [splitAt?]
  | cons n rest ih =>
    rw [List.mem_cons, not_or] at h
    simp [splitAt?, Ne.symm h.1, ih h.2]

section Finish

variable {nodes members below new : List Node} {usage : Roster} {partials : Table Node Roster}
  {f : Node → Roster}

/-- The table without some nodes. -/
def eraseAll (nodes : List Node) (partials : Table Node Roster) : Table Node Roster :=
  nodes.foldl (fun t n => Table.erase n t) partials

theorem get?_eraseAll_of_not_mem (h : n ∉ nodes) :
    (eraseAll nodes partials).get? n = partials.get? n := by
  induction nodes generalizing partials with
  | nil => rfl
  | cons m rest ih =>
    rw [List.mem_cons, not_or] at h
    rw [eraseAll, List.foldl_cons, ← eraseAll, ih h.2, Table.get?_erase_of_ne (Ne.symm h.1)]

theorem nodup_keys_eraseAll (h : (partials.map Prod.fst).Nodup) :
    ((eraseAll nodes partials).map Prod.fst).Nodup := by
  induction nodes generalizing partials with
  | nil => exact h
  | cons n rest ih => exact ih (Table.nodup_keys_erase h)

theorem get?_eraseAll (h : (partials.map Prod.fst).Nodup) :
    (eraseAll nodes partials).get? n = if n ∈ nodes then none else partials.get? n := by
  induction nodes generalizing partials with
  | nil => rfl
  | cons m rest ih =>
    rw [eraseAll, List.foldl_cons, ← eraseAll, ih (Table.nodup_keys_erase h), Table.get?_erase h]
    by_cases hm : m = n
    · simp [hm]
    · simp [hm, Ne.symm hm]

/-- The findings of distinct nodes are taken out of the table and united one by one. -/
theorem collect_eq (nodup : nodes.Nodup) (h : ∀ m ∈ nodes, partials.get? m = some (f m)) :
    collect nodes usage partials =
      (eraseAll nodes partials, some (nodes.foldl (fun u m => u.union (f m)) usage)) := by
  induction nodes generalizing usage partials with
  | nil => rfl
  | cons a rest ih =>
    obtain ⟨ha, hrest⟩ := List.nodup_cons.mp nodup
    have hget : ∀ m ∈ rest, (partials.erase a).get? m = some (f m) := by
      intro m hm
      have hne : a ≠ m := fun e => ha (e ▸ hm)
      rw [Table.get?_erase_of_ne hne]
      exact h m (List.mem_cons_of_mem _ hm)
    simp [collect, h a List.mem_cons_self, ih hrest hget, eraseAll]

/-- The ledger with some nodes finished and others still pending. -/
def finish (L : Ledger) (members below : List Node) (usage : Roster) : Ledger :=
  { L with
    store := ⟨members, usage⟩ :: L.store
    pending := below
    partials := eraseAll members.reverse L.partials }

@[simp] theorem pending_finish : (L.finish members below usage).pending = below := rfl

theorem find?_finish : (L.finish members below usage).store.find? n =
    if n ∈ members then some usage else L.store.find? n := rfl

/-- **The oldest node of a circle is closed**: it is finished with all nodes opened since, and their
findings are united, the younger ones winning. -/
theorem close_eq_finish (h : L.Marked node) (hlow : L.low node = L.number node)
    (hp : L.pending = new ++ node :: below) (nodup : (new ++ [node]).Nodup)
    (hf : ∀ m ∈ new ++ [node], (L.keep node found).partials.get? m = some (f m)) :
    L.close node found =
      ((L.keep node found).finish (new ++ [node]) below (Roster.unionOver f (new ++ [node])),
        .ok (Roster.unionOver f (new ++ [node]))) := by
  have hnode : node ∉ new := fun hn =>
    (List.nodup_append.mp nodup).2.2 node hn node (List.mem_singleton_self node) rfl
  have hcollect : collect (new ++ [node]).reverse .empty (L.keep node found).partials =
      (eraseAll (new ++ [node]).reverse (L.keep node found).partials,
        some (Roster.unionOver f (new ++ [node]))) := by
    rw [collect_eq (List.nodup_reverse.mpr nodup) fun m hm => hf m (List.mem_reverse.mp hm),
      List.foldl_reverse, Roster.unionOver]
  simp only [keep] at hcollect
  simp [-List.reverse_append, close, get?_of_marked h, hlow, hp, splitAt?_append hnode, hcollect,
    finish, keep]

/-- **A node that cannot get back to an older one is finished**, and with it all nodes opened since.
They leave the pending nodes, and their common result knows what each of them has found. -/
theorem close_of_low_eq (found : Roster) (h : L.Marked node) (hlow : L.low node = L.number node)
    (hp : L.pending = new ++ node :: below) (hnode : node ∉ new)
    (nodup : new.Nodup) (hparts : ∀ m ∈ new, (L.partials.get? m).isSome) :
    ∃ partials usage, L.close node found =
        ({ L with store := ⟨new ++ [node], usage⟩ :: L.store, pending := below,
                  partials := partials }, .ok usage) ∧
      (∀ m ∉ new ++ [node], partials.get? m = L.partials.get? m) ∧
      (∀ x, x ∈ usage.names ↔
        ∃ m ∈ new ++ [node], ∃ f, (L.keep node found).partials.get? m = some f ∧ x ∈ f.names) ∧
      (∀ r ∈ usage.toList,
        ∃ m ∈ new ++ [node], ∃ f, (L.keep node found).partials.get? m = some f ∧ r ∈ f.toList) := by
  have hnodup : (new ++ [node]).Nodup := by
    rw [List.nodup_append]
    refine ⟨nodup, by simp, ?_⟩
    intro a ha b hb e
    rw [List.mem_singleton] at hb
    exact hnode (hb ▸ e ▸ ha)
  have hget : ∀ m ∈ new ++ [node], (L.keep node found).partials.get? m =
      some (((L.keep node found).partials.get? m).getD .empty) := by
    intro m hm
    rw [get?_partials_keep]
    split_ifs with he
    · rfl
    · rw [List.mem_append, List.mem_singleton] at hm
      obtain ⟨g, hg⟩ := Option.isSome_iff_exists.mp (hparts m (hm.resolve_right (Ne.symm he)))
      simp [hg]
  refine ⟨_, _, close_eq_finish h hlow hp hnodup hget, ?_, ?_, ?_⟩
  · intro m hm
    have hne : node ≠ m := by
      rintro rfl
      exact hm (by simp)
    rw [get?_eraseAll_of_not_mem fun hr => hm (List.mem_reverse.mp hr), get?_partials_keep,
      if_neg hne]
  · intro x
    rw [Roster.mem_names_unionOver]
    refine exists_congr fun m => and_congr_right fun hm => ?_
    rw [hget m hm]
    simp
  · intro r hr
    obtain ⟨m, hm, hmem⟩ := Roster.mem_unionOver hr
    exact ⟨m, hm, _, hget m hm, hmem⟩

end Finish

end Ledger

end ReducerAtlas
