import Mathlib.Data.List.Pairwise
import Mathlib.Data.List.Infix
import ReducerAtlas.Proofs.Ledger

/-!
# Nested calls on a ledger

A ledger is used by calls that open a node, lower its mark and close it. Here the calls come from
anywhere, not only from the visit of a node: all that is asked is that they are nested, so that a
node is closed after the nodes that were opened since. The ledger is then consistent after each of
them, at any depth and in any order of the marks.

* `Call`, `Ledger.perform`, `Ledger.after`: one call, and the ledger after a sequence of calls.
* `Ledger.Allowed`, `Ledger.Nested`: the calls that may come next, and nested sequences.
* `Ledger.Consistent`, `Ledger.Closes`, `Ledger.Cleared`: what holds after each call, what a close
  does, and what the close of an outermost node leaves.
* `Ledger.Tracks`: what one call preserves; `Ledger.tracks_after`: what a nested sequence does.
* **`Ledger.consistent_of_nested`**: every nested sequence keeps the ledger consistent.
-/

namespace ReducerAtlas

/-! ## Calls -/

/-- One call on a ledger. -/
inductive Call
  | enter (node : Node)
  | link (node : Node) (number : Int)
  | close (node : Node) (found : Roster)
  deriving DecidableEq

namespace Call

/-- The node that a call opens. -/
def entered? : Call → Option Node
  | enter node => some node
  | _ => none

/-- The node that a call closes, and its findings. -/
def closed? : Call → Option (Node × Roster)
  | close node found => some (node, found)
  | _ => none

/-- The nodes that some calls open, in order. -/
def entered (calls : List Call) : List Node := calls.filterMap entered?

/-- The findings that a node was closed with, if it was closed. -/
def findings? (calls : List Call) (node : Node) : Option Roster :=
  Table.get? node (calls.filterMap closed?)

/-- The number that a call links a node to. -/
def linked? (node : Node) : Call → Option Int
  | link n number => if n = node then some number else none
  | _ => none

/-- The numbers that a node was linked to. -/
def links (calls : List Call) (node : Node) : List Int := calls.filterMap (linked? node)

/-- A node was opened and is not closed yet. -/
abbrev Underway (calls : List Call) (node : Node) : Prop :=
  node ∈ entered calls ∧ findings? calls node = none

/-- The second node was opened after the first one. -/
abbrev Since (calls : List Call) (node later : Node) : Prop :=
  [node, later].Sublist (entered calls)

variable {past : List Call} {node n : Node} {number : Int} {found : Roster}

@[simp] theorem entered_enter : entered (past ++ [enter node]) = entered past ++ [node] := by
  simp [entered, entered?]

@[simp] theorem entered_link : entered (past ++ [link node number]) = entered past := by
  simp [entered, entered?]

@[simp] theorem entered_close : entered (past ++ [close node found]) = entered past := by
  simp [entered, entered?]

@[simp] theorem links_enter : links (past ++ [enter node]) n = links past n := by
  simp [links, linked?]

@[simp] theorem links_close : links (past ++ [close node found]) n = links past n := by
  simp [links, linked?]

theorem links_link : links (past ++ [link node number]) n =
    if node = n then links past n ++ [number] else links past n := by
  by_cases h : node = n <;> simp [links, linked?, h]

@[simp] theorem findings?_enter : findings? (past ++ [enter node]) n = findings? past n := by
  simp [findings?, List.filterMap_cons, closed?]

@[simp] theorem findings?_link : findings? (past ++ [link node number]) n = findings? past n := by
  simp [findings?, List.filterMap_cons, closed?]

theorem findings?_close (h : findings? past node = none) :
    findings? (past ++ [close node found]) n =
      if node = n then some found else findings? past n := by
  rw [findings?, List.filterMap_append, Table.get?_append, ← findings?]
  split_ifs with hn
  · subst hn
    simp [h, closed?, Table.get?]
  · simp [closed?, Table.get?, hn]

end Call

namespace Ledger

open Call

/-- The ledger after a call, and what the call gives: a result where a node is closed. -/
def perform (L : Ledger) : Call → Ledger × Except LedgerFault (Option Roster)
  | .enter node => (L.enter node, .ok none)
  | .link node number =>
    match L.link node number with
    | .ok lowered => (lowered, .ok none)
    | .error fault => (L, .error fault)
  | .close node found => ((L.close node found).1, (L.close node found).2.map some)

/-- The ledger after a sequence of calls on the empty one. -/
def after (calls : List Call) : Ledger :=
  calls.foldl (fun L call => (L.perform call).1) {}

/-- **The calls that may come next.** A node is opened once. A node that is not closed yet is linked
to a pending node or, right after a node opened since was closed, to what that one can get back to.
A node is closed once, after all nodes opened since. -/
def Allowed (past : List Call) (L : Ledger) : Call → Prop
  | .enter node => node ∉ entered past
  | .link node number => Underway past node ∧
      ((∃ n ∈ L.pending, number = L.number n) ∨
        ∃ last ∈ past.getLast?.bind closed?, Since past node last.1 ∧ number = L.low last.1)
  | .close node _ => Underway past node ∧
      ∀ n ∈ entered past, Since past node n → (findings? past n).isSome = true

instance (past : List Call) (L : Ledger) : (call : Call) → Decidable (Allowed past L call)
  | .enter node => inferInstanceAs (Decidable (node ∉ entered past))
  | .link node number => inferInstanceAs (Decidable (Underway past node ∧
      ((∃ n ∈ L.pending, number = L.number n) ∨
        ∃ last ∈ past.getLast?.bind closed?, Since past node last.1 ∧ number = L.low last.1)))
  | .close node _ => inferInstanceAs (Decidable (Underway past node ∧
      ∀ n ∈ entered past, Since past node n → (findings? past n).isSome = true))

/-- Each of some calls may come after the given ones and those before it. -/
def NestedFrom : List Call → List Call → Prop
  | _, [] => True
  | past, call :: rest => Allowed past (after past) call ∧ NestedFrom (past ++ [call]) rest

instance decidableNestedFrom : (past calls : List Call) → Decidable (NestedFrom past calls)
  | _, [] => inferInstanceAs (Decidable True)
  | past, call :: rest =>
    have := decidableNestedFrom (past ++ [call]) rest
    inferInstanceAs (Decidable (Allowed past (after past) call ∧ NestedFrom (past ++ [call]) rest))

/-- **Nested calls**: each of them may come after those before it. -/
def Nested (calls : List Call) : Prop := NestedFrom [] calls

instance (calls : List Call) : Decidable (Nested calls) := decidableNestedFrom [] calls

theorem after_concat (past : List Call) (call : Call) :
    after (past ++ [call]) = ((after past).perform call).1 := by
  simp [after]

theorem nestedFrom_append {past calls rest : List Call} :
    NestedFrom past (calls ++ rest) ↔ NestedFrom past calls ∧ NestedFrom (past ++ calls) rest := by
  induction calls generalizing past with
  | nil => simp [NestedFrom]
  | cons call calls ih => simp [NestedFrom, ih, and_assoc]

theorem Nested.of_prefix {past calls : List Call} (h : Nested calls) (hp : past <+: calls) :
    Nested past := by
  obtain ⟨rest, rfl⟩ := hp
  exact (nestedFrom_append.mp h).1

theorem nested_concat {past : List Call} {call : Call} :
    Nested (past ++ [call]) ↔ Nested past ∧ Allowed past (after past) call := by
  simp [Nested, nestedFrom_append, NestedFrom]

/-! ## What one call preserves -/

/-- **A ledger keeps track of some calls.** It knows the nodes that were opened in their order and
what they were linked to, the pending ones among them are those without a result, and the findings
of these are kept. -/
structure Tracks (past : List Call) (L : Ledger) : Prop where
  marked_iff : ∀ n, L.Marked n ↔ n ∈ entered past
  length_marks : L.marks.length = (entered past).length
  number_eq : ∀ n ∈ entered past, L.number n = (entered past).idxOf n
  unlinked : ∀ n ∉ entered past, links past n = []
  low_eq : ∀ n ∈ entered past, L.low n = (links past n).foldl min ↑(L.number n)
  ordered : (entered past).Pairwise fun a b => L.number a < L.number b
  sublist : L.pending.reverse.Sublist (entered past)
  mem_pending_iff : ∀ n, n ∈ L.pending ↔ n ∈ entered past ∧ L.store.find? n = none
  entered_of_closed : ∀ n, (findings? past n).isSome = true → n ∈ entered past
  closed_of_finished : ∀ n, (L.store.find? n).isSome = true → (findings? past n).isSome = true
  low_le : ∀ n ∈ L.pending, L.low n ≤ L.number n
  back : ∀ n ∈ L.pending, ∃ m ∈ L.pending, L.low n = L.number m
  distinct : (L.partials.map Prod.fst).Nodup
  partials : ∀ n, L.partials.get? n = if n ∈ L.pending then findings? past n else none
  lastClosed : ∀ last ∈ past.getLast?.bind closed?, last.1 ∉ L.pending →
    L.low last.1 = L.number last.1

namespace Tracks

variable {past : List Call} {L : Ledger} {node n : Node} {k : Int} {found : Roster}

theorem empty : Tracks [] {} := by
  constructor <;> simp [entered, findings?, links, Marked, Table.get?, Store.find?]

theorem bounded (h : Tracks past L) (hn : n ∈ entered past) : L.number n < L.marks.length := by
  rw [h.length_marks, h.number_eq n hn]
  exact List.idxOf_lt_length_iff.mpr hn

theorem nodup_entered (h : Tracks past L) : (entered past).Nodup :=
  List.Pairwise.imp (fun {a b} hlt (e : a = b) => Nat.lt_irrefl _ (e ▸ hlt)) h.ordered

theorem nodup (h : Tracks past L) : L.pending.Nodup :=
  List.nodup_reverse.mp (h.nodup_entered.sublist h.sublist)

theorem decreasing (h : Tracks past L) : L.pending.Pairwise fun a b => L.number b < L.number a :=
  List.pairwise_reverse.mp (h.ordered.sublist h.sublist)

theorem marked (h : Tracks past L) (hn : n ∈ L.pending) : L.Marked n :=
  (h.marked_iff n).mpr ((h.mem_pending_iff n).mp hn).1

theorem mem_of_underway (h : Tracks past L) (hn : Underway past n) : n ∈ L.pending := by
  refine (h.mem_pending_iff n).mpr ⟨hn.1, Option.not_isSome_iff_eq_none.mp fun hs => ?_⟩
  have hclosed := h.closed_of_finished n hs
  rw [hn.2] at hclosed
  cases hclosed

theorem lt_of_since (h : Tracks past L) (hs : Since past node n) : L.number node < L.number n := by
  have hpair := List.Pairwise.sublist hs h.ordered
  exact (List.pairwise_cons.mp hpair).1 n (List.mem_singleton_self n)

theorem enter (h : Tracks past L) (hnode : node ∉ entered past) :
    Tracks (past ++ [.enter node]) (L.enter node) := by
  have hunmarked : ¬ L.Marked node := fun hm => hnode ((h.marked_iff node).mp hm)
  have hne : ∀ n ∈ entered past, node ≠ n := fun n hn e => hnode (e ▸ hn)
  have hopen : ∀ n ∈ L.pending, node ≠ n := fun n hn => hne n ((h.mem_pending_iff n).mp hn).1
  have hunclosed : findings? past node = none :=
    Option.not_isSome_iff_eq_none.mp fun hs => hnode (h.entered_of_closed node hs)
  have hunfinished : L.store.find? node = none :=
    Option.not_isSome_iff_eq_none.mp fun hs =>
      hnode (h.entered_of_closed node (h.closed_of_finished node hs))
  refine ⟨?_, ?_, ?_, ?_, ?_, ?_, ?_, ?_, ?_, ?_, ?_, ?_, h.distinct, ?_, ?_⟩
  · intro n
    rw [marked_enter, h.marked_iff, entered_enter, List.mem_append, List.mem_singleton, or_comm,
      eq_comm]
  · rw [length_marks_enter hunmarked, h.length_marks, entered_enter, List.length_append,
      List.length_singleton]
  · intro n hn
    rw [entered_enter, List.mem_append, List.mem_singleton] at hn
    rw [entered_enter]
    rcases hn with hn | rfl
    · rw [number_enter_of_ne (hne n hn), List.idxOf_append_of_mem hn, h.number_eq n hn]
    · rw [number_enter_self, List.idxOf_append_of_notMem hnode, h.length_marks,
        List.idxOf_cons_self, Nat.add_zero]
  · intro n hn
    rw [entered_enter, List.mem_append, not_or] at hn
    rw [links_enter]
    exact h.unlinked n hn.1
  · intro n hn
    rw [entered_enter, List.mem_append, List.mem_singleton] at hn
    rw [links_enter]
    rcases hn with hn | rfl
    · rw [low_enter_of_ne (hne n hn), number_enter_of_ne (hne n hn)]
      exact h.low_eq n hn
    · rw [low_enter_self, number_enter_self, h.unlinked n hnode]
      rfl
  · rw [entered_enter, List.pairwise_append]
    refine ⟨h.ordered.imp_of_mem fun {a b} ha hb hlt => ?_, List.pairwise_singleton _ _, ?_⟩
    · rwa [number_enter_of_ne (hne a ha), number_enter_of_ne (hne b hb)]
    · intro a ha b hb
      rw [List.mem_singleton.mp hb, number_enter_self, number_enter_of_ne (hne a ha)]
      exact h.bounded ha
  · rw [pending_enter, List.reverse_cons, entered_enter]
    exact h.sublist.append (List.Sublist.refl _)
  · intro n
    rw [pending_enter, List.mem_cons, h.mem_pending_iff, entered_enter, List.mem_append,
      List.mem_singleton, store_enter]
    constructor
    · rintro (rfl | ⟨hn, hs⟩)
      · exact ⟨.inr rfl, hunfinished⟩
      · exact ⟨.inl hn, hs⟩
    · rintro ⟨hn | rfl, hs⟩
      · exact .inr ⟨hn, hs⟩
      · exact .inl rfl
  · intro n hn
    rw [findings?_enter] at hn
    rw [entered_enter]
    exact List.mem_append_left _ (h.entered_of_closed n hn)
  · intro n hn
    rw [findings?_enter]
    exact h.closed_of_finished n hn
  · intro n hn
    rcases List.mem_cons.mp hn with rfl | hn
    · simp
    · rw [low_enter_of_ne (hopen n hn), number_enter_of_ne (hopen n hn)]
      exact h.low_le n hn
  · intro n hn
    rcases List.mem_cons.mp hn with rfl | hn
    · exact ⟨n, List.mem_cons_self, by rw [low_enter_self, number_enter_self]⟩
    · obtain ⟨m, hm, heq⟩ := h.back n hn
      refine ⟨m, List.mem_cons_of_mem _ hm, ?_⟩
      rw [low_enter_of_ne (hopen n hn), number_enter_of_ne (hopen m hm), heq]
  · intro n
    rw [partials_enter, h.partials, pending_enter, findings?_enter]
    by_cases hn : n = node
    · subst hn
      simp [hunclosed]
    · simp [hn]
  · simp [closed?]

/-- A mark is lowered to the number of a pending node, or stays as it is. -/
theorem lower (h : Tracks past L) (hnode : node ∈ L.pending)
    (hk : L.low node ≤ k ∨ ∃ m ∈ L.pending, k = L.number m) :
    Tracks (past ++ [.link node k]) (L.lower node k) := by
  have hmarked := h.marked hnode
  have hentered := (h.mem_pending_iff node).mp hnode
  refine ⟨?_, ?_, ?_, ?_, ?_, ?_, ?_, ?_, ?_, ?_, ?_, ?_, h.distinct, ?_, ?_⟩
  · intro n
    rw [marked_lower hmarked, entered_link]
    exact h.marked_iff n
  · rw [length_marks_lower hmarked, entered_link, h.length_marks]
  · simpa using h.number_eq
  · intro n hn
    rw [entered_link] at hn
    have hne : node ≠ n := fun e => hn (e ▸ hentered.1)
    rw [links_link, if_neg hne]
    exact h.unlinked n hn
  · intro n hn
    rw [entered_link] at hn
    rw [number_lower, links_link]
    split_ifs with hne
    · subst hne
      rw [low_lower_self, List.foldl_concat, h.low_eq node hn]
    · rw [low_lower_of_ne hne]
      exact h.low_eq n hn
  · simpa using h.ordered
  · simpa using h.sublist
  · simpa using h.mem_pending_iff
  · simpa using h.entered_of_closed
  · simpa using h.closed_of_finished
  · intro n hn
    rw [number_lower]
    by_cases hne : node = n
    · subst hne
      rw [low_lower_self]
      exact Int.le_trans (Int.min_le_left _ _) (h.low_le node hn)
    · rw [low_lower_of_ne hne]
      exact h.low_le n hn
  · intro n hn
    by_cases hne : node = n
    · subst hne
      simp only [low_lower_self, number_lower, pending_lower]
      rcases hk with hk | ⟨m, hm, rfl⟩
      · rw [Int.min_eq_left hk]
        exact h.back node hn
      · rcases Int.le_total (L.low node) (L.number m) with hle | hle
        · rw [Int.min_eq_left hle]
          exact h.back node hn
        · exact ⟨m, hm, Int.min_eq_right hle⟩
    · simp only [low_lower_of_ne hne, number_lower, pending_lower]
      exact h.back n hn
  · simpa using h.partials
  · simp [closed?]

/-- A node that can get back to an older one is closed and stays pending. -/
theorem keep (h : Tracks past L) (hnode : Underway past node) :
    Tracks (past ++ [.close node found]) (L.keep node found) := by
  have hopen := h.mem_of_underway hnode
  refine ⟨?_, ?_, ?_, ?_, ?_, ?_, ?_, ?_, ?_, ?_, ?_, ?_, ?_, ?_, ?_⟩
  · simpa [Marked] using h.marked_iff
  · simpa using h.length_marks
  · simpa using h.number_eq
  · simpa using h.unlinked
  · simpa using h.low_eq
  · simpa using h.ordered
  · simpa using h.sublist
  · simpa using h.mem_pending_iff
  · intro n hn
    rw [findings?_close hnode.2] at hn
    rw [entered_close]
    split_ifs at hn with he
    · exact he ▸ hnode.1
    · exact h.entered_of_closed n hn
  · intro n hn
    rw [findings?_close hnode.2]
    split_ifs
    · rfl
    · exact h.closed_of_finished n hn
  · simpa using h.low_le
  · simpa using h.back
  · exact Table.nodup_keys_set h.distinct
  · intro n
    rw [get?_partials_keep, h.partials, findings?_close hnode.2, pending_keep]
    split_ifs with he hn hn
    · rfl
    · exact absurd (he ▸ hopen) hn
    · rfl
    · rfl
  · simp [closed?, hopen]

section Finish

variable {new below : List Node}

theorem since_of_above (h : Tracks past L) (hp : L.pending = new ++ node :: below) (hn : n ∈ new) :
    Since past node n := by
  have hreverse : L.pending.reverse = below.reverse ++ node :: new.reverse := by simp [hp]
  refine List.Sublist.trans ?_ (hreverse ▸ h.sublist)
  refine List.Sublist.trans ?_ (List.sublist_append_right _ _)
  exact List.Sublist.cons_cons _ (List.singleton_sublist.mpr (List.mem_reverse.mpr hn))

theorem get?_keep_of_above (h : Tracks past L) (hnode : Underway past node)
    (hclosed : ∀ n ∈ entered past, Since past node n → (findings? past n).isSome = true)
    (hp : L.pending = new ++ node :: below) (hn : n ∈ new ++ [node]) :
    (L.keep node found).partials.get? n =
      some ((findings? (past ++ [.close node found]) n).getD .empty) := by
  rw [get?_partials_keep, findings?_close hnode.2]
  split_ifs with he
  · rfl
  · have hnew : n ∈ new := by
      rcases List.mem_append.mp hn with hn | hn
      · exact hn
      · exact absurd (List.mem_singleton.mp hn).symm he
    have hopen : n ∈ L.pending := by simp [hp, hnew]
    obtain ⟨u, hu⟩ := Option.isSome_iff_exists.mp
      (hclosed n ((h.mem_pending_iff n).mp hopen).1 (h.since_of_above hp hnew))
    simp [h.partials, hopen, hu]

theorem nodup_members (h : Tracks past L) (hp : L.pending = new ++ node :: below) :
    (new ++ [node]).Nodup ∧ ∀ n ∈ new ++ [node], n ∉ below := by
  have hnodup := h.nodup
  rw [hp, ← List.singleton_append, ← List.append_assoc, List.nodup_append] at hnodup
  exact ⟨hnodup.1, fun n hn hb => hnodup.2.2 n hn n hb rfl⟩

theorem number_le_of_member (h : Tracks past L) (hp : L.pending = new ++ node :: below)
    (hn : n ∈ new ++ [node]) : L.number node ≤ L.number n := by
  rcases List.mem_append.mp hn with hn | hn
  · exact Nat.le_of_lt (h.lt_of_since (h.since_of_above hp hn))
  · rw [List.mem_singleton.mp hn]

theorem number_lt_of_below (h : Tracks past L) (hp : L.pending = new ++ node :: below)
    (hn : n ∈ below) : L.number n < L.number node := by
  have hdec := h.decreasing
  rw [hp] at hdec
  exact (List.pairwise_cons.mp (List.pairwise_append.mp hdec).2.1).1 n hn

/-- The oldest node of a circle is closed and finished with the nodes above it. -/
theorem finish (h : Tracks past L) (hnode : Underway past node)
    (hclosed : ∀ n ∈ entered past, Since past node n → (findings? past n).isSome = true)
    (hlow : L.low node = L.number node) (hp : L.pending = new ++ node :: below) (usage : Roster) :
    Tracks (past ++ [.close node found])
      ((L.keep node found).finish (new ++ [node]) below usage) := by
  have hkeep : Tracks (past ++ [.close node found]) (L.keep node found) := h.keep hnode
  obtain ⟨-, hapart⟩ := h.nodup_members hp
  have hmem : ∀ n, n ∈ L.pending ↔ n ∈ new ++ [node] ∨ n ∈ below := by
    intro n
    simp [hp, or_assoc]
  refine ⟨hkeep.marked_iff, hkeep.length_marks, hkeep.number_eq, hkeep.unlinked, hkeep.low_eq,
    hkeep.ordered, ?_, ?_, hkeep.entered_of_closed, ?_, ?_, ?_, nodup_keys_eraseAll hkeep.distinct,
    ?_, ?_⟩
  · refine List.Sublist.trans (List.Sublist.reverse ?_) hkeep.sublist
    rw [pending_keep, hp]
    exact (List.sublist_cons_self _ _).trans (List.sublist_append_right _ _)
  · intro n
    have hiff := hkeep.mem_pending_iff n
    rw [pending_keep, hmem] at hiff
    rw [pending_finish, find?_finish]
    split_ifs with hn
    · simp [hapart n hn]
    · rw [← hiff]
      simp [hn]
  · intro n hn
    rw [find?_finish] at hn
    split_ifs at hn with hmember
    · have hget : (L.keep node found).partials.get? n =
          some ((findings? (past ++ [.close node found]) n).getD .empty) :=
        h.get?_keep_of_above hnode hclosed hp hmember
      rw [hkeep.partials, pending_keep, if_pos ((hmem n).mpr (.inl hmember))] at hget
      rw [hget]
      rfl
    · exact hkeep.closed_of_finished n hn
  · intro n hn
    exact h.low_le n ((hmem n).mpr (.inr hn))
  · intro n hn
    have hopen := (hmem n).mpr (.inr hn)
    obtain ⟨m, hm, heq⟩ := h.back n hopen
    refine ⟨m, ?_, heq⟩
    rcases (hmem m).mp hm with hm | hm
    · have hle := h.low_le n hopen
      have hlt := h.number_lt_of_below hp hn
      have hge := h.number_le_of_member hp hm
      omega
    · exact hm
  · intro n
    rw [Ledger.finish, get?_eraseAll hkeep.distinct, hkeep.partials, pending_keep]
    simp only [List.mem_reverse, hmem]
    by_cases hmember : n ∈ new ++ [node]
    · rw [if_pos hmember, if_neg (hapart n hmember)]
    · simp only [hmember, if_false, false_or]
  · intro last hlast _
    simp only [List.getLast?_append, List.getLast?_singleton, closed?, Option.some_or,
      Option.bind_some, Option.mem_some_iff] at hlast
    subst hlast
    exact hlow

end Finish

/-- A link that may come next leaves the mark alone or takes it to a pending node. -/
theorem low_le_or_pending (h : Tracks past L) (hallowed : Allowed past L (.link node k)) :
    L.low node ≤ k ∨ ∃ m ∈ L.pending, k = L.number m := by
  obtain ⟨hnode, hk | ⟨last, hlast, hsince, rfl⟩⟩ := hallowed
  · exact .inr hk
  · by_cases hopen : last.1 ∈ L.pending
    · exact .inr (h.back last.1 hopen)
    · -- the node closed last is finished, so its mark is its own number and too high to matter
      left
      rw [h.lastClosed last hlast hopen]
      have hle := h.low_le node (h.mem_of_underway hnode)
      have hlt := h.lt_of_since hsince
      omega

/-- **The two ways of closing a node** in a nested sequence. -/
theorem close_cases (h : Tracks past L) (hallowed : Allowed past L (.close node found)) :
    (L.low node ≠ L.number node ∧ L.close node found = (L.keep node found, .ok found)) ∨
    L.low node = L.number node ∧ ∃ new below usage, L.pending = new ++ node :: below ∧
      usage = Roster.unionOver (fun m => (findings? (past ++ [.close node found]) m).getD .empty)
        (new ++ [node]) ∧
      L.close node found =
        ((L.keep node found).finish (new ++ [node]) below usage, .ok usage) := by
  obtain ⟨hnode, hclosed⟩ := hallowed
  have hopen := h.mem_of_underway hnode
  have hmarked := h.marked hopen
  by_cases hlow : L.low node = L.number node
  · obtain ⟨new, below, hp⟩ := List.append_of_mem hopen
    refine .inr ⟨hlow, new, below, _, hp, rfl, ?_⟩
    exact close_eq_finish hmarked hlow hp (h.nodup_members hp).1 fun m hm =>
      h.get?_keep_of_above hnode hclosed hp hm
  · exact .inl ⟨hlow, close_of_low_ne hmarked hlow⟩

/-- **One call** that may come next succeeds, and the ledger keeps track of it. -/
theorem perform {call : Call} (h : Tracks past L) (hallowed : Allowed past L call) :
    Tracks (past ++ [call]) (L.perform call).1 ∧ ∃ result, (L.perform call).2 = .ok result := by
  cases call with
  | enter node => exact ⟨h.enter hallowed, none, rfl⟩
  | link node number =>
    have hopen := h.mem_of_underway hallowed.1
    rw [Ledger.perform, link_of_marked (h.marked hopen)]
    exact ⟨h.lower hopen (h.low_le_or_pending hallowed), none, rfl⟩
  | close node found =>
    rw [Ledger.perform]
    rcases h.close_cases hallowed with ⟨-, hclose⟩ | ⟨hlow, new, below, usage, hp, -, hclose⟩
    · rw [hclose]
      exact ⟨h.keep hallowed.1, some found, rfl⟩
    · rw [hclose]
      exact ⟨h.finish hallowed.1 hallowed.2 hlow hp usage, some usage, rfl⟩

end Tracks

/-! ## What a nested sequence preserves -/

variable {past calls : List Call} {L : Ledger} {node n : Node} {found : Roster}

/-- **The ledger keeps track of nested calls.** -/
theorem tracks_after (h : Nested calls) : Tracks calls (after calls) := by
  induction calls using List.reverseRecOn with
  | nil => exact Tracks.empty
  | append_singleton past call ih =>
    obtain ⟨hpast, hallowed⟩ := nested_concat.mp h
    rw [after_concat]
    exact ((ih hpast).perform hallowed).1

/-- **What holds after each call.** Nodes are numbered in the order in which they were opened, and
the mark of a node is the lowest of its number and those that it was linked to. The pending nodes
are the open ones, the youngest first, and none of them is finished; the mark of an open node is the
number of a pending one that is no younger; and findings are kept for the pending nodes that were
closed. -/
structure Consistent (calls : List Call) (L : Ledger) : Prop where
  number_eq : ∀ n ∈ entered calls, L.number n = (entered calls).idxOf n
  low_eq : ∀ n ∈ entered calls, L.low n = (links calls n).foldl min ↑(L.number n)
  decreasing : L.pending.Pairwise fun a b => L.number b < L.number a
  mem_pending_iff : ∀ n, n ∈ L.pending ↔ L.isOpen n = true
  unfinished : ∀ n ∈ L.pending, L.store.find? n = none
  low_le : ∀ n, L.isOpen n = true → L.low n ≤ L.number n
  back : ∀ n, L.isOpen n = true → ∃ m ∈ L.pending, L.low n = L.number m
  partials : ∀ n, L.partials.get? n = if n ∈ L.pending then findings? calls n else none

theorem Tracks.consistent (h : Tracks calls L) : Consistent calls L := by
  have hiff : ∀ n, n ∈ L.pending ↔ L.isOpen n = true := by
    intro n
    rw [h.mem_pending_iff, ← h.marked_iff]
    simp [isOpen, Marked]
  refine ⟨h.number_eq, h.low_eq, h.decreasing, hiff, ?_, ?_, ?_, h.partials⟩
  · intro n hn
    exact ((h.mem_pending_iff n).mp hn).2
  · intro n hn
    exact h.low_le n ((hiff n).mpr hn)
  · intro n hn
    exact h.back n ((hiff n).mpr hn)

/-- **What closing a node does**, as the last of some calls. A node that can get back to an older
one stays pending. Any other is finished with all nodes opened since: each of them gets the union of
their findings, in which the youngest node that knows a name answers to it. -/
structure Closes (calls : List Call) (L : Ledger) (node : Node) (found : Roster) (L' : Ledger) :
    Prop where
  kept : L.low node ≠ L.number node →
    L.close node found = (L', .ok found) ∧ L'.pending = L.pending ∧ L'.store = L.store
  finished : L.low node = L.number node → ∃ members below usage,
    L.close node found = (L', .ok usage) ∧ L.pending = members ++ below ∧
      members.getLast? = some node ∧ L'.pending = below ∧
      (∀ m, L'.store.find? m = if m ∈ members then some usage else L.store.find? m) ∧
      ∀ name, usage.find? name =
        members.findSome? fun m => (findings? calls m).bind (·.find? name)

theorem Tracks.closes (h : Tracks past L) (hallowed : Allowed past L (.close node found)) :
    Closes (past ++ [.close node found]) L node found (L.perform (.close node found)).1 := by
  rw [Ledger.perform]
  rcases h.close_cases hallowed with ⟨hlow, hclose⟩ | ⟨hlow, new, below, usage, hp, rfl, hclose⟩
  · rw [hclose]
    exact ⟨fun _ => ⟨hclose, rfl, rfl⟩, fun heq => absurd heq hlow⟩
  · rw [hclose]
    refine ⟨fun hne => absurd hlow hne, fun _ =>
      ⟨new ++ [node], below, _, hclose, by simp [hp], by simp, rfl, fun m => rfl, fun name => ?_⟩⟩
    rw [Roster.find?_unionOver]
    congr 1
    funext m
    cases findings? (past ++ [.close node found]) m <;> rfl

/-! ## Outermost nodes -/

theorem Tracks.mem_pending_perform {call : Call} (h : Tracks past L)
    (hallowed : Allowed past L call) (hn : n ∈ (L.perform call).1.pending) :
    n ∈ L.pending ∨ call.entered? = some n := by
  cases call with
  | enter node =>
    rcases List.mem_cons.mp hn with rfl | hn
    · exact .inr rfl
    · exact .inl hn
  | link node number =>
    rw [Ledger.perform, link_of_marked (h.marked (h.mem_of_underway hallowed.1))] at hn
    exact .inl hn
  | close node found =>
    have hcloses := h.closes hallowed
    left
    by_cases hlow : L.low node = L.number node
    · obtain ⟨members, below, usage, -, hp, -, hbelow, -⟩ := hcloses.finished hlow
      rw [hbelow] at hn
      rw [hp]
      exact List.mem_append_right _ hn
    · obtain ⟨-, hp, -⟩ := hcloses.kept hlow
      rwa [hp] at hn

theorem mem_pending_append {rest : List Call} (h : Nested (past ++ rest))
    (hn : n ∈ (after (past ++ rest)).pending) : n ∈ (after past).pending ∨ n ∈ entered rest := by
  induction rest using List.reverseRecOn with
  | nil => exact .inl (by simpa using hn)
  | append_singleton rest call ih =>
    rw [← List.append_assoc] at h hn
    obtain ⟨hrest, hallowed⟩ := nested_concat.mp h
    rw [after_concat] at hn
    rw [entered, List.filterMap_append, List.mem_append, ← entered]
    rcases (tracks_after hrest).mem_pending_perform hallowed hn with hn | hn
    · exact (ih hrest hn).imp id .inl
    · exact .inr (.inr (by simp [hn]))

/-- All nodes that some calls have opened are finished, and nothing is kept of them. -/
structure Cleared (calls : List Call) (L : Ledger) : Prop where
  pending : L.pending = []
  partials : L.partials = []
  finished : ∀ n ∈ entered calls, (L.store.find? n).isSome = true

theorem Tracks.cleared (h : Tracks calls L) (hp : L.pending = []) : Cleared calls L where
  pending := hp
  partials := Table.eq_nil_of_get? fun n => by simp [h.partials, hp]
  finished n hn := by
    have hiff := h.mem_pending_iff n
    rw [hp] at hiff
    rw [Option.isSome_iff_ne_none]
    intro hnone
    exact List.not_mem_nil (hiff.mpr ⟨hn, hnone⟩)

/-- A node that was opened while nothing was pending is the oldest of the pending nodes. -/
theorem number_le_of_outermost {between : List Call}
    (h : Nested (past ++ .enter node :: between)) (hempty : (after past).pending = [])
    (hn : n ∈ (after (past ++ .enter node :: between)).pending) :
    (after (past ++ .enter node :: between)).number node ≤
      (after (past ++ .enter node :: between)).number n := by
  have hentered : n ∈ node :: entered between := by
    rcases mem_pending_append h hn with hn | hn
    · rw [hempty] at hn
      cases hn
    · simpa [entered, List.filterMap_cons, entered?] using hn
  rcases List.mem_cons.mp hentered with rfl | hlater
  · exact Nat.le_refl _
  · refine Nat.le_of_lt ((tracks_after h).lt_of_since ?_)
    have hsplit : entered (past ++ .enter node :: between) =
        entered past ++ node :: entered between := by
      simp [entered, entered?]
    rw [Since, hsplit]
    refine List.Sublist.trans ?_ (List.sublist_append_right _ _)
    exact List.Sublist.cons_cons _ (List.singleton_sublist.mpr hlater)

/-- **Closing an outermost node clears the ledger.** -/
theorem cleared_of_outermost {between : List Call}
    (h : Nested (past ++ .enter node :: between ++ [.close node found]))
    (hempty : (after past).pending = []) :
    Cleared (past ++ .enter node :: between ++ [.close node found])
      (after (past ++ .enter node :: between ++ [.close node found])) := by
  refine (tracks_after h).cleared ?_
  obtain ⟨hnested, hallowed⟩ := nested_concat.mp h
  have htracks := tracks_after hnested
  have hopen := htracks.mem_of_underway hallowed.1
  obtain ⟨m, hm, heq⟩ := htracks.back node hopen
  have hlow : (after (past ++ .enter node :: between)).low node =
      (after (past ++ .enter node :: between)).number node := by
    have hle := htracks.low_le node hopen
    have hge := number_le_of_outermost hnested hempty hm
    omega
  rw [after_concat, Ledger.perform]
  rcases htracks.close_cases hallowed with ⟨hne, -⟩ | ⟨-, new, below, usage, hp, -, hclose⟩
  · exact absurd hlow hne
  · rw [hclose, pending_finish]
    refine List.eq_nil_iff_forall_not_mem.mpr fun b hb => ?_
    have hlt := htracks.number_lt_of_below hp hb
    have hge := number_le_of_outermost hnested hempty (n := b) (by simp [hp, hb])
    omega

/-- **Every nested sequence of calls keeps the ledger consistent.** No call fails, and the ledger is
consistent after each of them; closing a node finishes it with its circle or keeps its findings; and
once a node that was opened while nothing was pending is closed, all nodes are finished. -/
theorem consistent_of_nested (h : Nested calls) :
    (∀ past call, past ++ [call] <+: calls →
      ∃ result, ((after past).perform call).2 = .ok result) ∧
    (∀ past, past <+: calls → Consistent past (after past)) ∧
    (∀ past node found, past ++ [.close node found] <+: calls →
      Closes (past ++ [.close node found]) (after past) node found
        (after (past ++ [.close node found]))) ∧
    ∀ past node between found, past ++ .enter node :: between ++ [.close node found] <+: calls →
      (after past).pending = [] →
        Cleared (past ++ .enter node :: between ++ [.close node found])
          (after (past ++ .enter node :: between ++ [.close node found])) := by
  refine ⟨?_, ?_, ?_, ?_⟩
  · intro past call hp
    obtain ⟨hpast, hallowed⟩ := nested_concat.mp (h.of_prefix hp)
    exact ((tracks_after hpast).perform hallowed).2
  · intro past hp
    exact (tracks_after (h.of_prefix hp)).consistent
  · intro past node found hp
    obtain ⟨hpast, hallowed⟩ := nested_concat.mp (h.of_prefix hp)
    rw [after_concat]
    exact (tracks_after hpast).closes hallowed
  · intro past node between found hp hempty
    exact cleared_of_outermost (h.of_prefix hp) hempty

/-! ## A circle with a leaf -/

/-- A file at the root. -/
def rootNode (name : String) : Node := ⟨⟨.root, [name]⟩, none⟩

/-- A reducer that is defined in a file at the root. -/
def rootReducer (name file : String) : Reducer := ⟨name, ⟨.root, [file]⟩, none⟩

/-- The findings of the older node of a circle. -/
def olderFindings : Roster := .ofList [rootReducer "cart" "old.js", rootReducer "user" "user.js"]

/-- The findings of the younger node, which knows another reducer by one of the names. -/
def youngerFindings : Roster := .ofList [rootReducer "cart" "new.js"]

/-- Two nodes in a circle; the younger one opens a third, which is finished before them. -/
def circleCalls : List Call :=
  [.enter (rootNode "x.js"), .enter (rootNode "y.js"), .link (rootNode "y.js") 0,
    .enter (rootNode "z.js"), .close (rootNode "z.js") .empty, .link (rootNode "y.js") 2,
    .close (rootNode "y.js") youngerFindings, .link (rootNode "x.js") 0,
    .close (rootNode "x.js") olderFindings]

theorem consistent_circleCalls :
    Nested circleCalls ∧ Consistent (circleCalls.take 8) (after (circleCalls.take 8)) ∧
    (after (circleCalls.take 8)).pending = [rootNode "y.js", rootNode "x.js"] ∧
    Cleared circleCalls (after circleCalls) ∧
    (after circleCalls).store.find? (rootNode "y.js") =
      some (.ofList [rootReducer "cart" "new.js", rootReducer "user" "user.js"]) := by
  have hnested : Nested circleCalls := by decide +kernel
  obtain ⟨-, hconsistent, -, hcleared⟩ := consistent_of_nested hnested
  refine ⟨hnested, hconsistent _ (List.take_prefix 8 _), by decide +kernel, ?_, by decide +kernel⟩
  exact hcleared [] (rootNode "x.js") ((circleCalls.drop 1).dropLast) olderFindings
    (List.prefix_refl _) rfl

end Ledger

end ReducerAtlas
