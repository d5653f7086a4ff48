import ReducerAtlas.Proofs.Scan

/-!
# What a scan counts

A scan counts the files that it reads and the uses that it finds in them. It does both when it opens
a node and at no other place, so the counters follow from the nodes that were opened. These can all
be reached from the start, and what is finished at the end was opened by the scan or finished
before it.

* `Ledger.opened`: the nodes that were opened, in order.
* `tally`: the uses at some nodes together.
* `Search.takeSteps_induct`, `Search.takeSteps_keeps`: what is kept along the steps from a node.
* `Search.opening`: a node is opened; **`Search.visit_keeps`**: what a visit keeps.
* `Search.Accounts`: the counters of a search fit the nodes that it opened.
* **`Search.Accounts.visit`**: the visit of a node keeps it, whether it fails or not.
-/

namespace ReducerAtlas

/-! ## Opened nodes -/

namespace Table

variable {κ α : Type} [DecidableEq κ] {key : κ} {value : α} {t : Table κ α}

theorem mem_map_fst_iff : key ∈ t.map (·.1) ↔ (t.get? key).isSome = true := by
  induction t with
  | nil => simp [get?]
  | cons e rest ih =>
    by_cases hk : e.1 = key
    · simp [get?, hk]
    · simp [get?, hk, Ne.symm hk, ← ih]

theorem map_fst_set_of_none (h : t.get? key = none) :
    (t.set key value).map (·.1) = t.map (·.1) ++ [key] := by
  induction t with
  | nil => rfl
  | cons e rest ih =>
    simp only [get?] at h
    split_ifs at h with hk
    simp [set, hk, ih h]

theorem map_fst_set_of_some (h : (t.get? key).isSome = true) :
    (t.set key value).map (·.1) = t.map (·.1) := by
  induction t with
  | nil => cases h
  | cons e rest ih =>
    simp only [get?] at h
    split_ifs at h with hk
    · simp [set, hk]
    · simp [set, hk, ih h]

end Table

namespace Ledger

variable {L L' : Ledger} {node n : Node} {k : Int} {found : Roster}

/-- The nodes that were opened, in order. -/
def opened (L : Ledger) : List Node := L.marks.map (·.1)

theorem mem_opened_iff : n ∈ L.opened ↔ L.Marked n := Table.mem_map_fst_iff

theorem opened_enter (h : ¬ L.Marked node) : (L.enter node).opened = L.opened ++ [node] :=
  Table.map_fst_set_of_none (not_marked_iff.mp h)

theorem link_ok (h : L.link node k = .ok L') :
    L'.opened = L.opened ∧ L'.pending = L.pending ∧ L'.store = L.store := by
  unfold link at h
  cases hmark : L.marks.get? node with
  | none => simp [hmark] at h
  | some mark =>
    simp only [hmark, Except.ok.injEq] at h
    subst h
    exact ⟨Table.map_fst_set_of_some (by simp [hmark]), rfl, rfl⟩

theorem splitAt?_eq_some {nodes members below : List Node}
    (h : splitAt? node nodes = some (members, below)) : nodes = members ++ below := by
  induction nodes generalizing members with
  | nil => cases h
  | cons a rest ih =>
    simp only [splitAt?] at h
    split_ifs at h
    · cases h
      rfl
    · obtain ⟨⟨m, b⟩, hrest, heq⟩ := Option.map_eq_some_iff.mp h
      cases heq
      rw [ih hrest, List.cons_append]

/-- Closing a node opens none; what it finishes was pending. -/
theorem close_fst (L : Ledger) (node : Node) (found : Roster) :
    (L.close node found).1.opened = L.opened ∧ (L.close node found).1.pending ⊆ L.pending ∧
      ∀ n, ((L.close node found).1.store.find? n).isSome = true →
        (L.store.find? n).isSome = true ∨ n ∈ L.pending := by
  unfold close
  dsimp only
  cases L.marks.get? node with
  | none => exact ⟨rfl, List.Subset.refl _, fun n hn => .inl hn⟩
  | some mark =>
    dsimp only
    split_ifs
    · exact ⟨rfl, List.Subset.refl _, fun n hn => .inl hn⟩
    · cases hsplit : splitAt? node L.pending with
      | none => exact ⟨rfl, List.nil_subset _, fun n hn => .inl hn⟩
      | some cut =>
        obtain ⟨members, below⟩ := cut
        have hpending := splitAt?_eq_some hsplit
        have hbelow : below ⊆ L.pending := hpending ▸ List.subset_append_right _ _
        dsimp only
        split
        · exact ⟨rfl, hbelow, fun n hn => .inl hn⟩
        · refine ⟨rfl, hbelow, fun n hn => ?_⟩
          simp only [Store.find?] at hn
          split_ifs at hn with hmem
          · exact .inr (hpending ▸ List.mem_append_left _ hmem)
          · exact .inl hn

end Ledger

/-! ## Counters -/

/-- The file at a node can be read. -/
def Reading.isSource : Reading → Bool
  | .source .. => true
  | _ => false

/-- The uses at some nodes together. -/
def tally (read : Node → Reading) (nodes : List Node) : Nat :=
  (nodes.map fun n => (read n).uses.length).sum

theorem tally_append (read : Node → Reading) (l m : List Node) :
    tally read (l ++ m) = tally read l + tally read m := by
  simp [tally]

theorem tally_eq_zero_iff {read : Node → Reading} {nodes : List Node} :
    tally read nodes = 0 ↔ ∀ n ∈ nodes, (read n).uses = [] := by
  simp [tally, List.sum_eq_zero_iff_forall_eq_nat]

namespace Search

open Ledger

theorem link_eq_ok {s s' : Search} {node : Node} {k : Int} (h : s.link node k = .ok s') :
    ∃ L, s.ledger.link node k = .ok L ∧ s' = { s with ledger := L } := by
  unfold link at h
  cases hlink : s.ledger.link node k with
  | error fault => simp [hlink] at h
  | ok L =>
    simp only [hlink, Except.ok.injEq] at h
    exact ⟨L, rfl, h.symm⟩

theorem close_fst (s : Search) (node : Node) (found : Roster) :
    (s.close node found).1 = { s with ledger := (s.ledger.close node found).1 } := by
  unfold close
  split <;> simp [*]

theorem link_eq_error {s : Search} {node : Node} {k : Int} {failure : Failure}
    (h : s.link node k = .error failure) : ∃ fault, failure = .ledger fault := by
  unfold link at h
  split at h
  · cases h
  · next fault _ => exact ⟨fault, (Except.error.inj h).symm⟩

/-- **The steps from a node, one after the other.** What holds of a state is kept by notes, other
than those of visits, by links and by the visits of new nodes. The outcome is that of the last step,
of a step or a link that fails, or of a visit that fails. -/
theorem takeSteps_induct {visit : Node → Search → Outcome} {node : Node} {steps : List Step}
    {P : Search → Prop} {Q : Outcome → Prop} (hdone : ∀ s found, P s → Q (s, .ok found))
    (hfail : ∀ s failure, .fail failure ∈ steps → P s → Q (s, .error failure))
    (hledger : ∀ s fault, P s → Q (s, .error (.ledger fault)))
    (htell : ∀ s note, (∀ depth file, note ≠ .scanning depth file) → P s → P (s.tell note))
    (hlink : ∀ s k s', P s → s.link node k = .ok s' → P s')
    (hvisit : ∀ child, .follow child ∈ steps → ∀ s, P s → ¬ s.ledger.Known child →
      (∀ s' usage, visit child s = (s', .ok usage) → P s') ∧
        ∀ s' failure, visit child s = (s', .error failure) → Q (s', .error failure))
    (depth : Nat) (found : Roster) {s : Search} (h : P s) :
    Q (takeSteps visit depth node steps found s) := by
  induction steps generalizing found s with
  | nil => exact hdone s found h
  | cons step rest ih =>
    have hrest := ih (fun s failure hmem => hfail s failure (List.mem_cons_of_mem _ hmem))
      fun child hchild => hvisit child (List.mem_cons_of_mem _ hchild)
    have hlinked : ∀ s k failure, P s → s.link node k = .error failure →
        Q (s, .error failure) := by
      intro s k failure h hfailed
      obtain ⟨fault, rfl⟩ := link_eq_error hfailed
      exact hledger s fault h
    cases step with
    | notAskedFor specifiers => exact hrest _ (htell _ _ (by simp) h)
    | blocked target => exact hrest _ (htell _ _ (by simp) h)
    | fail failure => exact hfail s failure List.mem_cons_self h
    | follow child =>
      simp only [takeSteps]
      cases hstore : s.ledger.store.find? child with
      | some usage => exact hrest _ h
      | none =>
        cases hmark : s.ledger.marks.get? child with
        | some mark =>
          have htold := htell s (.cycle depth child.file) (by simp) h
          dsimp only
          cases hlinks : (s.tell (.cycle depth child.file)).link node mark.number with
          | error failure => exact hlinked _ _ _ htold hlinks
          | ok s' => exact hrest _ (hlink _ _ _ htold hlinks)
        | none =>
          obtain ⟨hok, herror⟩ := hvisit child List.mem_cons_self s h
            (by simp [Known, Marked, hmark, hstore])
          generalize visit child s = outcome at hok herror
          obtain ⟨s', result⟩ := outcome
          cases result with
          | error failure => exact herror s' failure rfl
          | ok usage =>
            have hkept := hok s' usage rfl
            dsimp only
            cases s'.ledger.marks.get? child with
            | none => exact hledger s' _ hkept
            | some mark =>
              dsimp only
              cases hlinks : s'.link node mark.low with
              | error failure => exact hlinked _ _ _ hkept hlinks
              | ok s'' => exact hrest _ (hlink _ _ _ hkept hlinks)

/-- What is kept by notes, by links and by the visits of new nodes is kept along all steps. -/
theorem takeSteps_keeps {visit : Node → Search → Outcome} {node : Node} {steps : List Step}
    {P : Search → Prop}
    (htell : ∀ s note, (∀ depth file, note ≠ .scanning depth file) → P s → P (s.tell note))
    (hlink : ∀ s k s', P s → s.link node k = .ok s' → P s')
    (hvisit : ∀ child, .follow child ∈ steps → ∀ s, P s → ¬ s.ledger.Known child →
      P (visit child s).1) (depth : Nat) (found : Roster) {s : Search} (h : P s) :
    P (takeSteps visit depth node steps found s).1 := by
  refine takeSteps_induct (Q := fun outcome => P outcome.1) (fun _ _ h => h) (fun _ _ _ h => h)
    (fun _ _ h => h) htell hlink (fun child hchild s hs hnew => ?_) depth found h
  have hkept := hvisit child hchild s hs hnew
  exact ⟨fun s' usage heq => by rwa [heq] at hkept, fun s' failure heq => by rwa [heq] at hkept⟩

/-- The state after a node was opened and what stands there was counted. -/
def opening (read : Node → Reading) (depth : Nat) (node : Node) (s : Search) : Search :=
  let s := { s with ledger := s.ledger.enter node }.tell (.scanning depth node.file)
  match read node with
  | .source uses _ => s.count depth uses
  | _ => s

@[simp] theorem ledger_opening (read : Node → Reading) (depth : Nat) (node : Node) (s : Search) :
    (s.opening read depth node).ledger = s.ledger.enter node := by
  unfold opening
  split <;> rfl

/-- **What a visit keeps**, whether it fails or not: what is kept by notes, links and closings, and
where new nodes are opened that can be reached, above the last level. -/
theorem visit_keeps {read : Node → Reading} {start : Node} {P : Search → Prop} {last : Nat}
    (htell : ∀ s note, (∀ depth file, note ≠ .scanning depth file) → P s → P (s.tell note))
    (hlink : ∀ s node k s', P s → s.link node k = .ok s' → P s')
    (hclose : ∀ s node found, P s → P (s.close node found).1)
    (hopen : ∀ s node depth, depth < last → Reaches read start node → ¬ s.ledger.Known node →
      P s → P (s.opening read depth node))
    (fuel depth : Nat) (hlast : depth + fuel ≤ last) {node : Node}
    (hreach : Reaches read start node) {s : Search} (hnew : ¬ s.ledger.Known node) (h : P s) :
    P (visit read fuel depth node s).1 := by
  induction fuel generalizing depth node s with
  | zero => exact h
  | succ fuel ih =>
    have hopened := hopen s node depth (by omega) hreach hnew h
    unfold opening at hopened
    simp only [visit]
    cases hread : read node with
    | absent =>
      rw [hread] at hopened
      exact hclose _ _ _ (htell _ _ (by simp) hopened)
    | broken failure =>
      rw [hread] at hopened
      exact hopened
    | source uses steps =>
      rw [hread] at hopened
      have hsteps : ∀ child, .follow child ∈ steps → Reaches read start child := by
        intro child hchild
        refine hreach.tail ?_
        rw [Leads, hread]
        exact hchild
      have htaken : P (takeSteps (visit read fuel (depth + 1)) depth node steps .empty _).1 :=
        takeSteps_keeps htell (fun s => hlink s node) (fun child hchild s hs hnew =>
          ih (depth + 1) (by omega) (hsteps child hchild) hnew hs) depth .empty hopened
      dsimp only
      generalize takeSteps _ _ _ _ _ _ = outcome at htaken ⊢
      obtain ⟨s', result⟩ := outcome
      cases result with
      | error failure => exact htaken
      | ok found => exact hclose _ _ _ htaken

/-- **The counters of a search fit the nodes that it opened**: it started with the given store and
counters, all nodes that it opened can be reached from the given one, and what is pending or newly
finished is among them. -/
structure Accounts (read : Node → Reading) (start : Node) (store : Store) (files uses : Nat)
    (s : Search) : Prop where
  filesRead_eq : s.filesRead = files + s.ledger.opened.countP fun n => (read n).isSource
  usesFound_eq : s.usesFound = uses + tally read s.ledger.opened
  reaches : ∀ n ∈ s.ledger.opened, Reaches read start n
  pending : s.ledger.pending ⊆ s.ledger.opened
  finished : ∀ n, (s.ledger.store.find? n).isSome = true →
    (store.find? n).isSome = true ∨ n ∈ s.ledger.opened

section Accounts

variable {read : Node → Reading} {start node : Node} {store : Store} {files uses : Nat} {s : Search}

theorem accounts_begin (h : s.ledger = { store := store }) :
    Accounts read start store s.filesRead s.usesFound s := by
  refine ⟨?_, ?_, ?_, ?_, ?_⟩ <;> simp [h, opened, tally]

theorem Accounts.tell (h : Accounts read start store files uses s) (note : Note) :
    Accounts read start store files uses (s.tell note) :=
  ⟨h.filesRead_eq, h.usesFound_eq, h.reaches, h.pending, h.finished⟩

theorem Accounts.link (h : Accounts read start store files uses s) {k : Int} {s' : Search}
    (hlink : s.link node k = .ok s') : Accounts read start store files uses s' := by
  obtain ⟨L, hledger, rfl⟩ := link_eq_ok hlink
  obtain ⟨hopened, hpending, hstore⟩ := link_ok hledger
  refine ⟨?_, ?_, ?_, ?_, ?_⟩
  · simpa only [hopened] using h.filesRead_eq
  · simpa only [hopened] using h.usesFound_eq
  · simpa only [hopened] using h.reaches
  · simpa only [hopened, hpending] using h.pending
  · simpa only [hopened, hstore] using h.finished

theorem Accounts.close (h : Accounts read start store files uses s) (found : Roster) :
    Accounts read start store files uses (s.close node found).1 := by
  obtain ⟨hopened, hpending, hstore⟩ := Ledger.close_fst s.ledger node found
  rw [Search.close_fst]
  refine ⟨?_, ?_, ?_, ?_, fun n hn => ?_⟩
  · simpa only [hopened] using h.filesRead_eq
  · simpa only [hopened] using h.usesFound_eq
  · simpa only [hopened] using h.reaches
  · rw [hopened]
    exact List.Subset.trans hpending h.pending
  · rw [hopened]
    rcases hstore n hn with hold | hpend
    · exact h.finished n hold
    · exact .inr (h.pending hpend)

theorem Accounts.opening (h : Accounts read start store files uses s)
    (hnode : ¬ s.ledger.Marked node) (hreach : Reaches read start node) (depth : Nat) :
    Accounts read start store files uses (s.opening read depth node) := by
  have hopened : (s.opening read depth node).ledger.opened = s.ledger.opened ++ [node] := by
    rw [ledger_opening, opened_enter hnode]
  have hfiles : (s.opening read depth node).filesRead =
      s.filesRead + if (read node).isSource then 1 else 0 := by
    unfold Search.opening
    split <;> simp [Reading.isSource, Search.count, Search.tell, *]
  have huses : (s.opening read depth node).usesFound =
      s.usesFound + (read node).uses.length := by
    unfold Search.opening
    split
    · next hread => simp [Search.count, Search.tell, hread]
    · next hread => cases hr : read node <;> simp_all [Reading.uses, Search.tell]
  refine ⟨?_, ?_, ?_, ?_, ?_⟩
  · rw [hopened, List.countP_append, hfiles, h.filesRead_eq]
    simp [List.countP_cons, Nat.add_assoc]
  · rw [hopened, tally_append, huses, h.usesFound_eq]
    simp [tally, Nat.add_assoc]
  · rw [hopened]
    simpa [or_imp, forall_and] using ⟨h.reaches, hreach⟩
  · rw [hopened, ledger_opening, pending_enter]
    refine List.cons_subset.mpr ⟨by simp, ?_⟩
    exact List.Subset.trans h.pending (List.subset_append_left _ _)
  · intro n hn
    rw [ledger_opening, store_enter] at hn
    rw [hopened, List.mem_append]
    exact (h.finished n hn).imp_right .inl

/-- **The visit of a node keeps the accounts**, whether it fails or not. -/
theorem Accounts.visit (h : Accounts read start store files uses s)
    (hreach : Reaches read start node) (hnew : ¬ s.ledger.Known node) (fuel depth : Nat) :
    Accounts read start store files uses (visit read fuel depth node s).1 :=
  visit_keeps (fun _ note _ h => h.tell note) (fun _ _ _ _ h hlink => h.link hlink)
    (fun _ _ found h => h.close found)
    (fun _ _ depth _ hreach hnew h => h.opening (mt .inl hnew) hreach depth) fuel depth le_rfl
    hreach hnew h

theorem not_known_begin {phase : Phase} {stack : List Path}
    (hmiss : (phase.storeFor stack).find? node = none) :
    ¬ (phase.begin stack).ledger.Known node := by
  simp [Phase.begin, known_of_store, hmiss]

theorem accounts_top {phase : Phase} {stack : List Path}
    (hmiss : (phase.storeFor stack).find? node = none) (read : Node → Reading) (fuel depth : Nat) :
    Accounts read node (phase.storeFor stack) phase.filesRead phase.usesFound
      (Search.visit read fuel depth node (phase.begin stack)).1 := by
  refine Accounts.visit ?_ .refl (not_known_begin hmiss) fuel depth
  exact accounts_begin (s := phase.begin stack) rfl

end Accounts

end Search

end ReducerAtlas
