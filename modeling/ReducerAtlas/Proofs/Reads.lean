import Mathlib.Algebra.BigOperators.Finprod
import Mathlib.Data.Set.Card
import Mathlib.Order.CompletePartialOrder
import ReducerAtlas.Proofs.Components

/-!
# Each node is read once

The visit of a node tells which file it reads, so a journal lists the files of the nodes that were
read, in order. A scan opens no node twice, and none that is finished in the store that it starts
with; at its normal end every node within reach is finished. So scans that share their results read
the nodes within reach of any of them once, and scans that keep theirs read the nodes within their
own reach once each. The counters follow.

* `Journal.scanned`: the files that a journal tells of.
* `Disk.readableIn`, `Surveyor.usesIn`: what there is to count at some nodes.
* `Search.Traces`: a search opened its nodes once, and told of each; `Search.traces_top`: the visit
  that a scan begins.
* `Surveyor.Reads`: some nodes were read, each once, and counted; `Surveyor.Reads.append`: some
  after others.
* `Surveyor.Settled.reads_answer`: what a scan reads; `Surveyor.Settled.finished_answer`: what it
  leaves finished.
* `Surveyor.Settled.reads_shared`, `Surveyor.Settled.reads_apart`: what a sequence of scans reads.
* **`Surveyor.reads_once`**: the counters of a phase.
-/

namespace ReducerAtlas

open Relation

/-- The files that a journal tells to be scanned, in order. -/
def Journal.scanned (journal : Journal) : List Path :=
  journal.filterMap fun note =>
    match note with
    | .scanning _ file => some file
    | _ => none

theorem Journal.scanned_append (a b : Journal) :
    Journal.scanned (a ++ b) = Journal.scanned a ++ Journal.scanned b := List.filterMap_append

theorem Journal.mem_scanned {journal : Journal} {file : Path} :
    file ∈ Journal.scanned journal ↔ ∃ depth, .scanning depth file ∈ journal := by
  rw [Journal.scanned, List.mem_filterMap]
  constructor
  · rintro ⟨note, hnote, heq⟩
    split at heq
    · cases heq
      exact ⟨_, hnote⟩
    · cases heq
  · rintro ⟨depth, hnote⟩
    exact ⟨_, hnote, rfl⟩

theorem Journal.scanned_eq_nil {journal : Journal}
    (h : ∀ note ∈ journal, ∀ depth file, note ≠ .scanning depth file) :
    Journal.scanned journal = [] := by
  refine List.eq_nil_iff_forall_not_mem.mpr fun file hfile => ?_
  obtain ⟨depth, hnote⟩ := Journal.mem_scanned.mp hfile
  exact h _ hnote depth file rfl

/-! ## What there is to count -/

/-- The file can be read. -/
def Disk.canRead (disk : Disk) (file : Path) : Bool := (disk.readText file).isOk

/-- The number of nodes, among some, whose file can be read. -/
noncomputable def Disk.readableIn (disk : Disk) (nodes : Set Node) : ℕ :=
  Set.ncard {x ∈ nodes | disk.canRead x.file = true}

namespace Surveyor

instance (surveyor : Surveyor) (disk : Disk) (node : Node) (r : Reducer) :
    Decidable (surveyor.Claims disk node r) :=
  match h : disk.readText node.file with
  | .ok content => decidable_of_iff
      (surveyor.belongs node.file ((Source.Summary.of content).value? Source.actionMarker) r = true)
      (by simp [Claims, h])
  | .error _ => isFalse (by simp [Claims, h])

/-- The number of reducers, without the excluded names, that a node has a core file of. -/
def usesAt (surveyor : Surveyor) (disk : Disk) (excluded : List String) (node : Node) : ℕ :=
  surveyor.reducers.countP fun r => r.name ∉ excluded ∧ surveyor.Claims disk node r

/-- These numbers for some nodes together. -/
noncomputable def usesIn (surveyor : Surveyor) (disk : Disk) (excluded : List String)
    (nodes : Set Node) : ℕ :=
  ∑ᶠ x ∈ nodes, surveyor.usesAt disk excluded x

variable {surveyor : Surveyor} {disk : Disk} {excluded : List String} {blocked : List Path}

theorem isSource_read (node : Node) :
    (surveyor.read disk excluded blocked node).isSource = disk.canRead node.file := by
  unfold read Disk.canRead
  cases disk.readText node.file with
  | error e =>
    dsimp only
    split_ifs <;> rfl
  | ok content => rfl

theorem length_uses_read (node : Node) :
    (surveyor.read disk excluded blocked node).uses.length =
      surveyor.usesAt disk excluded node := by
  have huses : (surveyor.read disk excluded blocked node).uses = surveyor.reducers.filter fun r =>
      r.name ∉ excluded ∧ surveyor.Claims disk node r := by
    unfold read
    split
    · next e h =>
      have hnone : surveyor.reducers.filter
          (fun r => r.name ∉ excluded ∧ surveyor.Claims disk node r) = [] := by
        simp [Claims, h]
      rw [hnone]
      split_ifs <;> rfl
    · next content h => simp [usesOf, Claims, h]
  rw [huses, usesAt, List.countP_eq_length_filter]

/-- A list without repetitions counts what the set of its members counts. -/
theorem readableIn_of_nodup {nodes : List Node} (h : nodes.Nodup) :
    disk.readableIn {x | x ∈ nodes} = nodes.countP fun x => disk.canRead x.file := by
  have hset : {x ∈ {x | x ∈ nodes} | disk.canRead x.file = true} =
      ((nodes.filter fun x => disk.canRead x.file).toFinset : Set Node) := by
    ext x
    simp
  rw [Disk.readableIn, hset, Set.ncard_coe_finset, List.toFinset_card_of_nodup (h.filter _),
    List.countP_eq_length_filter]

theorem usesIn_of_nodup {nodes : List Node} (h : nodes.Nodup) :
    surveyor.usesIn disk excluded {x | x ∈ nodes} =
      (nodes.map (surveyor.usesAt disk excluded)).sum := by
  have hset : {x | x ∈ nodes} = (nodes.toFinset : Set Node) := by
    ext x
    simp
  rw [usesIn, hset, finsum_mem_coe_finset, List.sum_toFinset _ h]

end Surveyor

/-! ## The nodes that a search opens -/

namespace Search

open Ledger

/-- **A search opened its nodes once, and told of each**: none of them twice, none that was finished
in the store it started with, and all that was finished there still is. -/
structure Traces (store : Store) (s : Search) : Prop where
  nodup : s.ledger.opened.Nodup
  scanned : Journal.scanned s.notes.reverse = s.ledger.opened.map (·.file)
  kept : ∀ n, (store.find? n).isSome = true → (s.ledger.store.find? n).isSome = true
  unfinished : ∀ n ∈ s.ledger.opened, store.find? n = none

variable {store : Store} {s s' : Search} {node : Node}

theorem Traces.tell (h : Traces store s) {note : Note}
    (hnote : ∀ depth file, note ≠ .scanning depth file) : Traces store (s.tell note) := by
  refine ⟨h.nodup, ?_, h.kept, h.unfinished⟩
  have hnone : Journal.scanned [note] = [] := Journal.scanned_eq_nil (by simpa using hnote)
  rw [Search.tell, List.reverse_cons, Journal.scanned_append, hnone, List.append_nil]
  exact h.scanned

theorem Traces.link (h : Traces store s) {k : Int} (hlink : s.link node k = .ok s') :
    Traces store s' := by
  obtain ⟨L, hledger, rfl⟩ := link_eq_ok hlink
  obtain ⟨hopened, -, hstore⟩ := link_ok hledger
  exact ⟨hopened ▸ h.nodup, hopened ▸ h.scanned, hstore ▸ h.kept, hopened ▸ h.unfinished⟩

theorem Traces.close (h : Traces store s) (node : Node) (found : Roster) :
    Traces store (s.close node found).1 := by
  have hopened := (Ledger.close_fst s.ledger node found).1
  rw [Search.close_fst]
  refine ⟨hopened.symm ▸ h.nodup, hopened.symm ▸ h.scanned, fun n hn => ?_,
    hopened.symm ▸ h.unfinished⟩
  obtain hsame | ⟨group, -, hcons⟩ := s.ledger.store_close node found
  · exact hsame.symm ▸ h.kept n hn
  · simp only [hcons, Store.find?]
    split_ifs
    · rfl
    · exact h.kept n hn

theorem notes_opening (read : Node → Reading) (depth : Nat) (node : Node) (s : Search) :
    ∃ told, (s.opening read depth node).notes = told ++ .scanning depth node.file :: s.notes ∧
      ∀ note ∈ told, ∀ depth file, note ≠ .scanning depth file := by
  unfold opening
  split
  · exact ⟨_, rfl, by simp⟩
  · exact ⟨[], rfl, by simp⟩

theorem Traces.opening (h : Traces store s) (hnew : ¬ s.ledger.Known node) (read : Node → Reading)
    (depth : Nat) : Traces store (s.opening read depth node) := by
  obtain ⟨hmarked, hfinished⟩ := not_or.mp hnew
  have hopened : (s.opening read depth node).ledger.opened = s.ledger.opened ++ [node] := by
    rw [ledger_opening, opened_enter hmarked]
  refine ⟨?_, ?_, ?_, ?_⟩
  · rw [hopened, ← List.concat_eq_append]
    exact h.nodup.concat (mt mem_opened_iff.mp hmarked)
  · obtain ⟨told, hnotes, htold⟩ := notes_opening read depth node s
    have hnone : Journal.scanned told.reverse = [] :=
      Journal.scanned_eq_nil fun note hnote => htold note (List.mem_reverse.mp hnote)
    rw [hopened, hnotes, List.reverse_append, List.reverse_cons, Journal.scanned_append,
      Journal.scanned_append, hnone, h.scanned, List.map_append, List.append_nil]
    rfl
  · rw [ledger_opening, store_enter]
    exact h.kept
  · intro n hn
    rw [hopened, List.mem_append, List.mem_singleton] at hn
    rcases hn with hn | rfl
    · exact h.unfinished n hn
    · -- what was finished at the start still is, so a new node was not
      by_contra hsome
      exact hfinished (h.kept n (Option.ne_none_iff_isSome.mp hsome))

/-- The visit that a scan begins opens its nodes once. -/
theorem traces_top {phase : Phase} {stack : List Path}
    (hmiss : (phase.storeFor stack).find? node = none) (read : Node → Reading) (fuel depth : Nat) :
    Traces (phase.storeFor stack) (visit read fuel depth node (phase.begin stack)).1 := by
  refine visit_keeps (fun _ _ hnote h => h.tell hnote) (fun _ _ _ _ h hlink => h.link hlink)
    (fun _ node found h => h.close node found)
    (fun _ _ depth _ _ hnew h => h.opening hnew read depth) fuel depth le_rfl .refl
    (not_known_begin hmiss) ?_
  exact ⟨List.nodup_nil, rfl, fun _ hn => hn, by simp [Phase.begin, opened]⟩

/-- **What a visit finishes and opens** if it ends normally and no open nodes are around it: all
that can be reached is finished, and was opened unless it was finished before. -/
theorem opened_top {read : Node → Reading} {phase : Phase} {stack : List Path} {fuel depth : Nat}
    {usage : Roster} (hfinal : (phase.storeFor stack).Final read)
    (hmiss : (phase.storeFor stack).find? node = none)
    (hvisit : visit read fuel depth node (phase.begin stack) = (s, .ok usage)) :
    (∀ x, (s.ledger.store.find? x).isSome = true ↔
      ((phase.storeFor stack).find? x).isSome = true ∨ Reaches read node x) ∧
    ∀ x, x ∈ s.ledger.opened ↔ Reaches read node x ∧ (phase.storeFor stack).find? x = none := by
  have htop := visit_top (s := phase.begin stack) rfl hfinal hmiss fuel depth
  have haccounts := accounts_top hmiss read fuel depth
  have htraces := traces_top hmiss read fuel depth
  rw [hvisit] at htop haccounts htraces
  obtain ⟨⟨hend, hnode⟩, -⟩ := htop.of_ok
  have hreached : ∀ x, Reaches read node x → (s.ledger.store.find? x).isSome = true := fun x hx =>
    hend.isSome_of_reaches (by simp [hnode]) hx
  refine ⟨fun x => ⟨fun hx => ?_, ?_⟩, fun x => ⟨fun hx => ?_, ?_⟩⟩
  · exact (haccounts.finished x hx).imp_right (haccounts.reaches x)
  · rintro (hx | hx)
    · exact htraces.kept x hx
    · exact hreached x hx
  · exact ⟨haccounts.reaches x hx, htraces.unfinished x hx⟩
  · rintro ⟨hx, hnone⟩
    exact (haccounts.finished x (hreached x hx)).resolve_left (by simp [hnone])

end Search

/-! ## Scans -/

namespace Surveyor

variable {surveyor : Surveyor} {disk : Disk} {phase : Phase} {stack : List Path}
  {restriction : Option NameSet} {file found : Path} {usage : Roster} {excluded : List String}

/-- **Some nodes were read, each once, and counted**: the files that were scanned are theirs, in
some order, and the counters of a phase grew by what there is to count at them. -/
structure Reads (surveyor : Surveyor) (disk : Disk) (excluded : List String) (nodes : Set Node)
    (scanned : List Path) (before after : Phase) : Prop where
  once : ∃ list : List Node, list.Nodup ∧ {x | x ∈ list} = nodes ∧ scanned = list.map (·.file)
  filesRead_eq : after.filesRead = before.filesRead + disk.readableIn nodes
  usesFound_eq : after.usesFound = before.usesFound + surveyor.usesIn disk excluded nodes

theorem reads_nil (phase : Phase) : surveyor.Reads disk excluded ∅ [] phase phase := by
  refine ⟨⟨[], List.nodup_nil, by simp, rfl⟩, ?_, ?_⟩
  · simp [Disk.readableIn]
  · simp [usesIn]

theorem Reads.append {nodes nodes' : Set Node} {scanned scanned' : List Path} {a b c : Phase}
    (h : surveyor.Reads disk excluded nodes scanned a b)
    (h' : surveyor.Reads disk excluded nodes' scanned' b c) (hdisjoint : Disjoint nodes nodes') :
    surveyor.Reads disk excluded (nodes ∪ nodes') (scanned ++ scanned') a c := by
  obtain ⟨list, hnodup, rfl, hscanned⟩ := h.once
  obtain ⟨list', hnodup', rfl, hscanned'⟩ := h'.once
  have hboth : (list ++ list').Nodup :=
    hnodup.append hnodup' fun x hx hx' => Set.disjoint_left.mp hdisjoint hx hx'
  have hunion : {x | x ∈ list} ∪ {x | x ∈ list'} = {x | x ∈ list ++ list'} := by
    ext x
    simp
  rw [hunion]
  refine ⟨⟨list ++ list', hboth, rfl, by rw [hscanned, hscanned', List.map_append]⟩, ?_, ?_⟩
  · rw [h'.filesRead_eq, h.filesRead_eq, readableIn_of_nodup hnodup, readableIn_of_nodup hnodup',
      readableIn_of_nodup hboth, List.countP_append, Nat.add_assoc]
  · rw [h'.usesFound_eq, h.usesFound_eq, usesIn_of_nodup hnodup, usesIn_of_nodup hnodup',
      usesIn_of_nodup hboth, List.map_append, List.sum_append, Nat.add_assoc]

variable {request : Request}

/-- The nodes within reach of a request. -/
def reached (surveyor : Surveyor) (disk : Disk) (request : Request) : Set Node :=
  {x | surveyor.Within disk request.stack request.restriction request.file x}

/-- Those of them that are not finished among the results that its scan starts with. -/
def toRead (surveyor : Surveyor) (disk : Disk) (phase : Phase) (request : Request) : Set Node :=
  {x ∈ surveyor.reached disk request | (phase.storeFor request.stack).find? x = none}

theorem mem_reached_iff (hfind : surveyor.lookup.find disk request.file = .ok (some found))
    (hstack : found ∉ request.stack) (excluded : List String) (x : Node) :
    x ∈ surveyor.reached disk request ↔
      Reaches (surveyor.read disk excluded request.stack)
        (surveyor.node found request.restriction) x := by
  change surveyor.Within disk request.stack request.restriction request.file x ↔ _
  rw [reaches_read_iff, Within, hfind]
  simp [hstack]

/-- A scan visits its node, or leaves its phase alone, tells of no visit, and fails only if its file
cannot be looked up. -/
theorem scan_visits_or (surveyor : Surveyor) (disk : Disk) (phase : Phase) (stack : List Path)
    (restriction : Option NameSet) (file : Path) :
    (∃ found, surveyor.lookup.find disk file = .ok (some found) ∧ found ∉ stack ∧
      (phase.storeFor stack).find? (surveyor.node found restriction) = none) ∨
    (surveyor.scan disk phase stack restriction file).phase = phase ∧
      (surveyor.scan disk phase stack restriction file).journal.scanned = [] ∧
      ∀ failure, (surveyor.scan disk phase stack restriction file).outcome = .error failure →
        surveyor.lookup.find disk file = .error failure := by
  cases hfind : surveyor.lookup.find disk file with
  | error failure => simp [scan, hfind, Journal.scanned]
  | ok target =>
    cases target with
    | none => simp [scan, hfind, Journal.scanned]
    | some found =>
      by_cases hstack : found ∈ stack
      · simp [scan, hfind, hstack, Journal.scanned]
      · cases hhit : (phase.storeFor stack).find? (surveyor.node found restriction) with
        | none => exact .inl ⟨found, rfl, hstack, hhit⟩
        | some usage =>
          rw [scan_of_hit hfind hstack hhit]
          exact .inr ⟨rfl, rfl, by simp⟩

theorem Settled.answer_visits_or (h : surveyor.Settled disk phase) (request : Request) :
    (∃ found, surveyor.lookup.find disk request.file = .ok (some found) ∧ found ∉ request.stack ∧
      (phase.storeFor request.stack).find? (surveyor.node found request.restriction) = none) ∨
    surveyor.toRead disk phase request = ∅ ∧
      (surveyor.answer disk phase request).phase = phase ∧
      (surveyor.answer disk phase request).journal.scanned = [] := by
  by_cases hvisits : ∃ found, surveyor.lookup.find disk request.file = .ok (some found) ∧
      found ∉ request.stack ∧
        (phase.storeFor request.stack).find? (surveyor.node found request.restriction) = none
  · exact .inl hvisits
  · obtain ⟨hphase, hscanned, -⟩ := (surveyor.scan_visits_or disk phase request.stack
      request.restriction request.file).resolve_left hvisits
    refine .inr ⟨Set.eq_empty_iff_forall_notMem.mpr fun x hx => hvisits ?_, hphase, hscanned⟩
    -- what can be reached from a finished node is finished as well
    obtain ⟨⟨found, hfind, hstack, hreach⟩, hnone⟩ := hx
    refine ⟨found, hfind, hstack, Option.not_isSome_iff_eq_none.mp fun hsome => ?_⟩
    have hfinal := h.final_storeFor request.stack
    have hfound := hfinal.isSome_of_reaches hsome (reaches_read_iff.mpr hreach)
    rw [hnone] at hfound
    cases hfound

theorem answer_of_miss (hfind : surveyor.lookup.find disk request.file = .ok (some found))
    (hstack : found ∉ request.stack)
    (hmiss : (phase.storeFor request.stack).find? (surveyor.node found request.restriction) = none)
    (hends : (surveyor.answer disk phase request).outcome = .ok usage) :
    ∃ s, Search.visit (surveyor.read disk phase.excluded request.stack) disk.nodeBound
        request.stack.length (surveyor.node found request.restriction) (phase.begin request.stack) =
          (s, .ok usage) ∧
      surveyor.answer disk phase request =
        ⟨phase.after request.stack s, s.notes.reverse, .ok usage⟩ := by
  unfold answer at hends ⊢
  rw [scan_eq_visit hfind hstack hmiss] at hends ⊢
  generalize Search.visit _ disk.nodeBound _ _ _ = visited at hends ⊢
  obtain ⟨s, outcome⟩ := visited
  cases hends
  exact ⟨s, rfl, rfl⟩

/-- **What a scan that ends normally reads**: the nodes within reach that are not finished among the
results it starts with, each once. -/
theorem Settled.reads_answer (h : surveyor.Settled disk phase)
    (hends : (surveyor.answer disk phase request).outcome = .ok usage) :
    surveyor.Reads disk phase.excluded (surveyor.toRead disk phase request)
      (surveyor.answer disk phase request).journal.scanned phase
      (surveyor.answer disk phase request).phase := by
  rcases h.answer_visits_or request with
    ⟨found, hfind, hstack, hmiss⟩ | ⟨hnone, hphase, hscanned⟩
  · obtain ⟨s, hvisit, hanswer⟩ := answer_of_miss hfind hstack hmiss hends
    have haccounts := Search.accounts_top hmiss (surveyor.read disk phase.excluded request.stack)
      disk.nodeBound request.stack.length
    have htraces := Search.traces_top hmiss (surveyor.read disk phase.excluded request.stack)
      disk.nodeBound request.stack.length
    rw [hvisit] at haccounts htraces
    have hnodes : {x | x ∈ s.ledger.opened} = surveyor.toRead disk phase request := by
      ext x
      change x ∈ s.ledger.opened ↔ x ∈ surveyor.reached disk request ∧ _
      rw [mem_reached_iff hfind hstack phase.excluded,
        (Search.opened_top (h.final_storeFor request.stack) hmiss hvisit).2]
    rw [hanswer]
    refine ⟨⟨s.ledger.opened, htraces.nodup, hnodes, htraces.scanned⟩, ?_, ?_⟩
    · rw [← hnodes, readableIn_of_nodup htraces.nodup]
      simpa only [isSource_read, Phase.after] using haccounts.filesRead_eq
    · rw [← hnodes, usesIn_of_nodup htraces.nodup]
      simpa only [tally, length_uses_read, Phase.after] using haccounts.usesFound_eq
  · rw [hnone, hscanned, hphase]
    exact reads_nil phase

/-- **What a scan that shares its results leaves finished**: what was finished before, and all that
is within its reach. -/
theorem Settled.finished_answer (h : surveyor.Settled disk phase)
    (hshares : phase.shares request.stack = true)
    (hends : (surveyor.answer disk phase request).outcome = .ok usage) (x : Node) :
    ((surveyor.answer disk phase request).phase.store.find? x).isSome = true ↔
      (phase.store.find? x).isSome = true ∨ x ∈ surveyor.reached disk request := by
  have hstore : phase.storeFor request.stack = phase.store := if_pos hshares
  rcases h.answer_visits_or request with ⟨found, hfind, hstack, hmiss⟩ | ⟨hnone, hphase, -⟩
  · obtain ⟨s, hvisit, hanswer⟩ := answer_of_miss hfind hstack hmiss hends
    rw [mem_reached_iff hfind hstack phase.excluded, hanswer, ← hstore,
      ← (Search.opened_top (h.final_storeFor request.stack) hmiss hvisit).1 x]
    simp [Phase.after, hshares]
  · rw [hphase, iff_self_or]
    intro hx
    by_contra hfinished
    have hmem : x ∈ surveyor.toRead disk phase request :=
      ⟨hx, by simpa [hstore] using hfinished⟩
    simp [hnone] at hmem

/-! ## Sequences of scans -/

/-- The results of some scans, one after the other. -/
def answers (surveyor : Surveyor) (disk : Disk) : Phase → List Request → List ScanResult
  | _, [] => []
  | phase, request :: rest =>
    let result := surveyor.answer disk phase request
    result :: answers surveyor disk result.phase rest

theorem caching_answer (phase : Phase) (request : Request) :
    (surveyor.answer disk phase request).phase.caching = phase.caching := by
  unfold answer scan
  split
  · rfl
  · rfl
  · split_ifs
    · rfl
    · dsimp only
      split <;> rfl

/-- **Scans that share their results** read, each once, the nodes within reach of any of them that
are not finished before. -/
theorem Settled.reads_shared (h : surveyor.Settled disk phase) (hcaching : phase.caching = true)
    {requests : List Request} (hstack : ∀ request ∈ requests, request.stack = [])
    (hends : ∀ result ∈ surveyor.answers disk phase requests, ∃ usage, result.outcome = .ok usage) :
    surveyor.Reads disk phase.excluded
      {x | (∃ request ∈ requests, x ∈ surveyor.reached disk request) ∧
        phase.store.find? x = none}
      ((surveyor.answers disk phase requests).flatMap (·.journal.scanned)) phase
      (surveyor.phaseAfter disk phase requests) := by
  induction requests generalizing phase with
  | nil => simpa [answers, Surveyor.phaseAfter] using reads_nil phase
  | cons request rest ih =>
    obtain ⟨hempty, hothers⟩ := List.forall_mem_cons.mp hstack
    obtain ⟨⟨usage, hfirst⟩, hrest⟩ := List.forall_mem_cons.mp hends
    obtain ⟨hsettled, hexcluded⟩ := h.answer request
    have hreads := ih hsettled ((caching_answer phase request).trans hcaching) hothers hrest
    rw [hexcluded] at hreads
    have hshares : phase.shares request.stack = true := by simp [Phase.shares, hcaching, hempty]
    have hstore : phase.storeFor request.stack = phase.store := if_pos hshares
    -- the first scan leaves its own nodes finished, so the others do not read them again
    have hfinished : ∀ x, (surveyor.answer disk phase request).phase.store.find? x = none ↔
        phase.store.find? x = none ∧ x ∉ surveyor.reached disk request := by
      intro x
      rw [← Option.not_isSome_iff_eq_none, ← Option.not_isSome_iff_eq_none, ← not_or,
        h.finished_answer hshares hfirst x]
    have hunion : {x | (∃ r ∈ request :: rest, x ∈ surveyor.reached disk r) ∧
          phase.store.find? x = none} =
        surveyor.toRead disk phase request ∪
          {x | (∃ r ∈ rest, x ∈ surveyor.reached disk r) ∧
            (surveyor.answer disk phase request).phase.store.find? x = none} := by
      ext x
      simp only [toRead, hstore, hfinished, List.exists_mem_cons_iff, Set.mem_union,
        Set.mem_ofPred_eq]
      tauto
    rw [hunion]
    refine (h.reads_answer hfirst).append hreads (Set.disjoint_left.mpr fun x hx hx' => ?_)
    exact ((hfinished x).mp hx'.2).2 hx.1

/-- **Scans that keep their results to themselves** each read the nodes within their own reach. -/
theorem Settled.reads_apart (h : surveyor.Settled disk phase) (hcaching : phase.caching = false)
    {requests : List Request}
    (hends : ∀ result ∈ surveyor.answers disk phase requests, ∃ usage, result.outcome = .ok usage) :
    List.Forall₂ (fun request result => ∃ list : List Node, list.Nodup ∧
        {x | x ∈ list} = surveyor.reached disk request ∧
          result.journal.scanned = list.map (·.file))
      requests (surveyor.answers disk phase requests) ∧
    (surveyor.phaseAfter disk phase requests).filesRead =
      phase.filesRead + (requests.map fun r => disk.readableIn (surveyor.reached disk r)).sum ∧
    (surveyor.phaseAfter disk phase requests).usesFound = phase.usesFound + (requests.map fun r =>
      surveyor.usesIn disk phase.excluded (surveyor.reached disk r)).sum := by
  induction requests generalizing phase with
  | nil => exact ⟨.nil, rfl, rfl⟩
  | cons request rest ih =>
    obtain ⟨⟨usage, hfirst⟩, hrest⟩ := List.forall_mem_cons.mp hends
    obtain ⟨hsettled, hexcluded⟩ := h.answer request
    obtain ⟨honce, hfiles, huses⟩ :=
      ih hsettled ((caching_answer phase request).trans hcaching) hrest
    have hreads := h.reads_answer hfirst
    have hall : surveyor.toRead disk phase request = surveyor.reached disk request := by
      simp [toRead, Phase.storeFor, Phase.shares, hcaching, Store.find?]
    rw [hall] at hreads
    refine ⟨.cons hreads.once honce, ?_, ?_⟩
    · rw [Surveyor.phaseAfter, hfiles, hreads.filesRead_eq, List.map_cons, List.sum_cons,
        Nat.add_assoc]
    · rw [Surveyor.phaseAfter, huses, hreads.usesFound_eq, hexcluded, List.map_cons, List.sum_cons,
        Nat.add_assoc]

/-- **Each node is read once, and the counters are exact.** Whatever the disk, the reducers, the
excluded names and the files and restrictions to scan: if all scans of a fresh phase end normally,
none with files around it that are being visited, then

* scans that share their results read the nodes within reach of any of them, none twice, and the
  phase counts the nodes among these whose file can be read and the uses at all of them;
* scans that keep their results read the nodes within their own reach, none twice, and the phase
  counts the sums of these numbers over the scans. -/
theorem reads_once (surveyor : Surveyor) (disk : Disk) (excluded : List String)
    (requests : List Request) (hstack : ∀ request ∈ requests, request.stack = []) :
    ((∀ result ∈ surveyor.answers disk { excluded := excluded, caching := true } requests,
        ∃ usage, result.outcome = .ok usage) →
      let nodes := {x | ∃ request ∈ requests, x ∈ surveyor.reached disk request}
      let phase := surveyor.phaseAfter disk { excluded := excluded, caching := true } requests
      phase.filesRead = disk.readableIn nodes ∧
      phase.usesFound = surveyor.usesIn disk excluded nodes ∧
      ∃ list : List Node, list.Nodup ∧ {x | x ∈ list} = nodes ∧
        (surveyor.answers disk { excluded := excluded, caching := true } requests).flatMap
          (·.journal.scanned) = list.map (·.file)) ∧
    ((∀ result ∈ surveyor.answers disk { excluded := excluded, caching := false } requests,
        ∃ usage, result.outcome = .ok usage) →
      let phase := surveyor.phaseAfter disk { excluded := excluded, caching := false } requests
      phase.filesRead = (requests.map fun r => disk.readableIn (surveyor.reached disk r)).sum ∧
      phase.usesFound =
        (requests.map fun r => surveyor.usesIn disk excluded (surveyor.reached disk r)).sum ∧
      List.Forall₂ (fun request result => ∃ list : List Node, list.Nodup ∧
          {x | x ∈ list} = surveyor.reached disk request ∧
            result.journal.scanned = list.map (·.file))
        requests (surveyor.answers disk { excluded := excluded, caching := false } requests)) := by
  have hfresh : ∀ caching, surveyor.Settled disk { excluded := excluded, caching := caching } :=
    fun _ => settled_of_store_eq_nil rfl
  refine ⟨fun hends => ?_, fun hends => ?_⟩
  · have hreads := (hfresh true).reads_shared rfl hstack hends
    simp only [Store.find?, and_true] at hreads
    exact ⟨by simpa using hreads.filesRead_eq, by simpa using hreads.usesFound_eq, hreads.once⟩
  · obtain ⟨honce, hfiles, huses⟩ := (hfresh false).reads_apart rfl hends
    exact ⟨by simpa using hfiles, by simpa using huses, honce⟩

/-- Scans of both files of the import circle, one of them twice. -/
def circleRequests : List Request :=
  [⟨Path.parse "/left", none, []⟩, ⟨Path.parse "/right", none, []⟩, ⟨Path.parse "/left", none, []⟩]

theorem reads_once_circleDisk :
    let nodes := {x | ∃ request ∈ circleRequests, x ∈ circleSurveyor.reached circleDisk request}
    circleDisk.readableIn nodes = 3 ∧ circleSurveyor.usesIn circleDisk [] nodes = 1 ∧
    (circleRequests.map fun r => circleDisk.readableIn (circleSurveyor.reached circleDisk r)).sum =
      9 := by
  have hends : ∀ caching, ∀ result ∈ circleSurveyor.answers circleDisk
      { excluded := [], caching := caching } circleRequests,
        ∃ usage, result.outcome = .ok usage := by
    have hok : ∀ caching, ∀ result ∈ circleSurveyor.answers circleDisk
        { excluded := [], caching := caching } circleRequests, result.outcome.isOk = true := by
      decide +kernel
    intro caching result hresult
    have h := hok caching result hresult
    cases houtcome : result.outcome with
    | ok usage => exact ⟨usage, rfl⟩
    | error failure => simp [houtcome, Except.isOk, Except.toBool] at h
  obtain ⟨hshared, hapart⟩ :=
    reads_once circleSurveyor circleDisk [] circleRequests (by decide)
  obtain ⟨hfiles, huses, -⟩ := hshared (hends true)
  obtain ⟨hsums, -⟩ := hapart (hends false)
  exact ⟨hfiles.symm.trans (by decide +kernel), huses.symm.trans (by decide +kernel),
    hsums.symm.trans (by decide +kernel)⟩

end Surveyor

end ReducerAtlas
