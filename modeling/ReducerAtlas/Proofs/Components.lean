import ReducerAtlas.Proofs.Count
import ReducerAtlas.Proofs.Failing
import ReducerAtlas.Proofs.Nesting

/-!
# The groups that a scan finishes

A visit uses its ledger by calls, and each call that closes a node finishes one group of nodes or
none. In a scan that starts with no results and ends normally, these groups are the strongly
connected components of the graph within reach of the start, and a group is finished only after all
groups that it leads to.

* `Components`: a list of groups of nodes is that of the components, in an order of their links.
* `Store.Final.ordered`, `Store.Final.exists_common`: final groups among each other.
* `Search.calls`: the calls of a visit; `Search.ledger_visit`: its ledger is that after these calls.
* `Ledger.moves`: the nodes that each of some calls finishes; `Ledger.members_performAll`: they are
  the groups of the store.
* **`Surveyor.components_of_scan`**: the groups that a scan finishes are the components.
-/

namespace ReducerAtlas

open Relation

/-! ## Components -/

/-- **The strongly connected components of a graph**, given by what can be reached from where, among
some of its nodes. No group can reach one that comes after it. -/
structure Components {α : Type} (reaches : α → α → Prop) (within : α → Prop)
    (groups : List (List α)) : Prop where
  nonempty : ∀ group ∈ groups, group ≠ []
  mem_iff : ∀ a, (∃ group ∈ groups, a ∈ group) ↔ within a
  same_iff : ∀ a b, within a → within b →
    ((∃ group ∈ groups, a ∈ group ∧ b ∈ group) ↔ reaches a b ∧ reaches b a)
  ordered : groups.Pairwise fun earlier later => ∀ a ∈ earlier, ∀ b ∈ later, ¬ reaches a b

namespace Store

variable {read : Node → Reading} {store : Store} {a b : Node}

theorem Final.isSome_of_reaches (h : store.Final read) (ha : (store.find? a).isSome = true)
    (hab : Reaches read a b) : (store.find? b).isSome = true :=
  (Surveyor.healthy_of_finished h ha hab).1

theorem Final.linked (h : store.Final read) {group : Group} (hgroup : group ∈ store)
    (ha : a ∈ group.members) (hb : b ∈ group.members) : Reaches read a b := by
  induction store with
  | nil => cases hgroup
  | cons first rest ih =>
    rcases List.mem_cons.mp hgroup with rfl | hrest
    · exact h.1.linked a ha b hb
    · exact ih h.2 hrest

/-- What was finished earlier does not reach what was finished later. -/
theorem Final.ordered (h : store.Final read) :
    store.Pairwise fun later earlier =>
      ∀ a ∈ earlier.members, ∀ b ∈ later.members, ¬ Reaches read a b := by
  induction store with
  | nil => exact .nil
  | cons group rest ih =>
    refine .cons (fun earlier hearlier a ha b hb hab => ?_) (ih h.2)
    have hfound : (find? rest a).isSome = true := isSome_find?_iff.mpr ⟨earlier, hearlier, ha⟩
    have hagain := h.2.isSome_of_reaches hfound hab
    rw [h.1.fresh b hb] at hagain
    cases hagain

/-- Finished nodes that reach each other were finished together. -/
theorem Final.exists_common (h : store.Final read) (ha : (store.find? a).isSome = true)
    (hab : Reaches read a b) (hba : Reaches read b a) :
    ∃ group ∈ store, a ∈ group.members ∧ b ∈ group.members := by
  induction store with
  | nil => cases ha
  | cons group rest ih =>
    by_cases hrest : (find? rest a).isSome = true
    · obtain ⟨common, hcommon, hmem⟩ := ih h.2 hrest
      exact ⟨common, List.mem_cons_of_mem _ hcommon, hmem⟩
    · -- neither was finished before the last group, since it would have taken the other with it
      have hout : ¬ (find? rest b).isSome = true := fun hb => hrest (h.2.isSome_of_reaches hb hba)
      have hb := h.isSome_of_reaches ha hab
      simp only [find?] at ha hb
      split_ifs at ha hb with hma hmb
      · exact ⟨group, List.mem_cons_self, hma, hmb⟩
      · exact absurd hb hout
      · exact absurd ha hrest
      · exact absurd ha hrest

end Store

/-! ## Closings -/

namespace Ledger

theorem mem_of_splitAt? {node : Node} {nodes members below : List Node}
    (h : splitAt? node nodes = some (members, below)) : node ∈ members := by
  induction nodes generalizing members with
  | nil => cases h
  | cons n rest ih =>
    simp only [splitAt?] at h
    split_ifs at h with hn
    · cases h
      rw [hn]
      exact List.mem_singleton_self node
    · obtain ⟨⟨m, b⟩, hrest, heq⟩ := Option.map_eq_some_iff.mp h
      cases heq
      exact List.mem_cons_of_mem _ (ih hrest)

/-- **One closing finishes one group or none**, and the node that is closed is in the group. -/
theorem store_close (L : Ledger) (node : Node) (found : Roster) :
    (L.close node found).1.store = L.store ∨
      ∃ group : Group, node ∈ group.members ∧
        (L.close node found).1.store = group :: L.store := by
  unfold close
  dsimp only
  cases L.marks.get? node with
  | none => exact .inl rfl
  | some mark =>
    dsimp only
    split_ifs
    · exact .inl rfl
    · cases hsplit : splitAt? node L.pending with
      | none => exact .inl rfl
      | some cut =>
        obtain ⟨members, below⟩ := cut
        dsimp only
        split
        · exact .inl rfl
        · exact .inr ⟨_, mem_of_splitAt? hsplit, rfl⟩

/-- A call that changes the store closes a node and finishes one group. -/
theorem store_perform (L : Ledger) (call : Call) :
    (L.perform call).1.store = L.store ∨
      ∃ node found, ∃ group : Group, call = .close node found ∧ node ∈ group.members ∧
        (L.perform call).1.store = group :: L.store := by
  cases call with
  | enter node => exact .inl store_enter
  | link node number =>
    refine .inl ?_
    cases hlink : L.link node number with
    | error fault => simp [perform, hlink]
    | ok lowered =>
      obtain ⟨-, -, hstore⟩ := link_ok hlink
      simpa [perform, hlink] using hstore
  | close node found =>
    refine (L.store_close node found).imp_right ?_
    rintro ⟨group, hnode, hcons⟩
    exact ⟨node, found, group, rfl, hnode, hcons⟩

/-- The ledger after some calls. -/
def performAll (L : Ledger) (calls : List Call) : Ledger :=
  calls.foldl (fun L call => (L.perform call).1) L

theorem performAll_append (L : Ledger) (calls rest : List Call) :
    L.performAll (calls ++ rest) = (L.performAll calls).performAll rest :=
  List.foldl_append

/-- The nodes that a call moves into the store. -/
def moved (L : Ledger) (call : Call) : List Node :=
  let after := (L.perform call).1.store
  (after.take (after.length - L.store.length)).flatMap (·.members)

/-- The nodes that each of some calls moves into the store. -/
def moves (L : Ledger) : List Call → List (List Node)
  | [] => []
  | call :: rest => L.moved call :: moves (L.perform call).1 rest

/-- **The groups of the store are what the single calls moved there.** -/
theorem members_performAll (L : Ledger) (calls : List Call) :
    (L.performAll calls).store.reverse.map (·.members) =
      L.store.reverse.map (·.members) ++ (L.moves calls).filter (!·.isEmpty) := by
  induction calls generalizing L with
  | nil => simp [performAll, moves]
  | cons call rest ih =>
    have hcons : L.performAll (call :: rest) = (L.perform call).1.performAll rest := rfl
    rw [hcons, ih, moves]
    obtain hsame | ⟨node, found, group, -, hnode, hnew⟩ := L.store_perform call
    · have hmoved : L.moved call = [] := by simp [moved, hsame]
      simp [hmoved, hsame]
    · have hmoved : L.moved call = group.members := by simp [moved, hnew]
      have hne : group.members ≠ [] := List.ne_nil_of_mem hnode
      simp [hmoved, hnew, hne]

end Ledger

/-! ## The calls of a visit -/

namespace Search

open Ledger

/-- The calls that one step from a node makes, given those of visits. -/
def stepCalls (visit : Node → Search → Outcome) (calls : Node → Search → List Call) (node : Node)
    (s : Search) : Step → List Call
  | .follow child =>
    match s.ledger.store.find? child, s.ledger.marks.get? child with
    | some _, _ => []
    | none, some mark => [.link node mark.number]
    | none, none =>
      match visit child s with
      | (_, .error _) => calls child s
      | (s', .ok _) =>
        calls child s ++ (s'.ledger.marks.get? child).toList.map fun mark => .link node mark.low
  | _ => []

/-- The calls that the steps from a node make one after the other, up to one that fails. -/
def stepsCalls (visit : Node → Search → Outcome) (calls : Node → Search → List Call) (depth : Nat)
    (node : Node) : List Step → Roster → Search → List Call
  | [], _, _ => []
  | step :: rest, found, s =>
    stepCalls visit calls node s step ++
      match takeSteps visit depth node [step] found s with
      | (_, .error _) => []
      | (s, .ok found) => stepsCalls visit calls depth node rest found s

/-- **The calls that a visit makes on its ledger**, in their order. -/
def calls (read : Node → Reading) : Nat → Nat → Node → Search → List Call
  | 0, _, _, _ => []
  | fuel + 1, depth, node, s =>
    let s := s.opening read depth node
    .enter node ::
      match read node with
      | .absent => [.close node .empty]
      | .broken _ => []
      | .source uses steps =>
        stepsCalls (visit read fuel (depth + 1)) (calls read fuel (depth + 1)) depth node steps
            .empty s ++
          match takeSteps (visit read fuel (depth + 1)) depth node steps .empty s with
          | (_, .error _) => []
          | (_, .ok found) => [.close node (found.union (.ofList uses))]

/-- The first of some steps fails, and with it all of them, or the others go on from there. -/
theorem takeSteps_cons_cases (visit : Node → Search → Outcome) (depth : Nat) (node : Node)
    (step : Step) (rest : List Step) (found : Roster) (s : Search) :
    (∃ s' failure, takeSteps visit depth node [step] found s = (s', .error failure) ∧
        takeSteps visit depth node (step :: rest) found s = (s', .error failure)) ∨
      ∃ s' found', takeSteps visit depth node [step] found s = (s', .ok found') ∧
        takeSteps visit depth node (step :: rest) found s =
          takeSteps visit depth node rest found' s' := by
  cases step with
  | fail failure => exact .inl ⟨s, failure, rfl, rfl⟩
  | follow child =>
    simp only [takeSteps]
    repeat' split
    all_goals simp
  | _ => exact .inr ⟨_, found, rfl, rfl⟩

section Links

variable {node : Node} {s s' : Search} {failure : Failure} {k : Int}

theorem performAll_link_of_ok (h : s.link node k = .ok s') :
    s.ledger.performAll [.link node k] = s'.ledger := by
  obtain ⟨L, hlink, rfl⟩ := link_eq_ok h
  simp [performAll, perform, hlink]

theorem performAll_link_of_error (h : s.link node k = .error failure) :
    s.ledger.performAll [.link node k] = s.ledger := by
  unfold Search.link at h
  cases hlink : s.ledger.link node k with
  | error fault => simp [performAll, perform, hlink]
  | ok L => simp [hlink] at h

end Links

section Calls

variable {visit : Node → Search → Outcome} {calls : Node → Search → List Call}
  (hvisit : ∀ child s, (visit child s).1.ledger = s.ledger.performAll (calls child s))

include hvisit

theorem ledger_step (depth : Nat) (node : Node) (step : Step) (found : Roster) (s : Search) :
    (takeSteps visit depth node [step] found s).1.ledger =
      s.ledger.performAll (stepCalls visit calls node s step) := by
  cases step with
  | follow child =>
    cases hfind : s.ledger.store.find? child with
    | some usage =>
      simp only [takeSteps, stepCalls, hfind]
      rfl
    | none =>
      cases hmark : s.ledger.marks.get? child with
      | some mark =>
        simp only [takeSteps, stepCalls, hfind, hmark]
        cases hlink : (s.tell (.cycle depth child.file)).link node mark.number with
        | error failure => exact (performAll_link_of_error hlink).symm
        | ok s' => exact (performAll_link_of_ok hlink).symm
      | none =>
        -- the calls of the child's visit come first, then the link from the node to its mark
        have hchild := hvisit child s
        cases hout : visit child s with
        | mk s' result =>
          rw [hout] at hchild
          simp only [takeSteps, stepCalls, hfind, hmark, hout]
          cases result with
          | error failure => exact hchild
          | ok usage =>
            simp only [performAll_append, ← hchild]
            cases s'.ledger.marks.get? child with
            | none => rfl
            | some mark =>
              cases hlink : s'.link node mark.low with
              | error failure => simpa [hlink] using (performAll_link_of_error hlink).symm
              | ok s'' => simpa [hlink] using (performAll_link_of_ok hlink).symm
  | _ => rfl

theorem ledger_takeSteps (depth : Nat) (node : Node) (steps : List Step) (found : Roster)
    (s : Search) : (takeSteps visit depth node steps found s).1.ledger =
      s.ledger.performAll (stepsCalls visit calls depth node steps found s) := by
  induction steps generalizing found s with
  | nil => rfl
  | cons step rest ih =>
    have hstep := ledger_step hvisit depth node step found s
    rw [stepsCalls, performAll_append, ← hstep]
    obtain ⟨s', failure, htaken, hall⟩ | ⟨s', found', htaken, hall⟩ :=
      takeSteps_cons_cases visit depth node step rest found s
    · rw [htaken, hall]
      rfl
    · rw [htaken, hall]
      exact ih found' s'

end Calls

/-- **The ledger of a visit is that after its calls**, whether the visit fails or not. -/
theorem ledger_visit (read : Node → Reading) (fuel depth : Nat) (node : Node) (s : Search) :
    (visit read fuel depth node s).1.ledger =
      s.ledger.performAll (calls read fuel depth node s) := by
  induction fuel generalizing depth node s with
  | zero => rfl
  | succ fuel ih =>
    have hcons : ∀ rest, s.ledger.performAll (.enter node :: rest) =
        (s.opening read depth node).ledger.performAll rest := by
      intro rest
      rw [ledger_opening]
      rfl
    cases hread : read node with
    | absent =>
      simp only [visit, calls, hread, hcons, close_fst, ledger_opening]
      rfl
    | broken failure =>
      simp only [visit, calls, hread, hcons, ledger_opening]
      rfl
    | source uses steps =>
      -- the steps start from the opened state, and the node is closed if none of them fails
      have hopened : ({ s with ledger := s.ledger.enter node }.tell
          (.scanning depth node.file)).count depth uses = s.opening read depth node := by
        simp only [opening, hread]
      have htaken := ledger_takeSteps (ih (depth + 1)) depth node steps .empty
        (s.opening read depth node)
      simp only [visit, calls, hread, hcons, hopened, performAll_append, ← htaken]
      cases takeSteps _ depth node steps .empty (s.opening read depth node) with
      | mk s' result =>
        cases result with
        | error failure => rfl
        | ok found => exact congrArg Search.ledger (close_fst s' node _)

end Search

/-! ## Scans -/

namespace Surveyor

variable {surveyor : Surveyor} {disk : Disk} {phase : Phase} {stack : List Path}
  {restriction : Option NameSet} {file found : Path} {usage : Roster}

/-- The store that a scan has at its end, whether its phase keeps it or not. -/
def storeAfter (surveyor : Surveyor) (disk : Disk) (phase : Phase) (stack : List Path)
    (restriction : Option NameSet) (file : Path) : Store :=
  match surveyor.lookup.find disk file with
  | .ok (some found) =>
    if found ∈ stack then phase.storeFor stack
    else if ((phase.storeFor stack).find? (surveyor.node found restriction)).isSome then
      phase.storeFor stack
    else
      (Search.visit (surveyor.read disk phase.excluded stack) disk.nodeBound stack.length
        (surveyor.node found restriction) (phase.begin stack)).1.ledger.store
  | _ => phase.storeFor stack

theorem store_phase_scan (hshares : phase.shares stack = true) :
    (surveyor.scan disk phase stack restriction file).phase.store =
      surveyor.storeAfter disk phase stack restriction file := by
  have hstore : phase.storeFor stack = phase.store := if_pos hshares
  unfold scan storeAfter
  cases surveyor.lookup.find disk file with
  | error failure => exact hstore.symm
  | ok target =>
    cases target with
    | none => exact hstore.symm
    | some found =>
      by_cases hstack : found ∈ stack
      · simp [hstack, hstore]
      · cases hhit : (phase.storeFor stack).find? (surveyor.node found restriction) with
        | some u => simpa [hstack, hhit] using hstore.symm
        | none => simp [hstack, hhit, Phase.after, hshares]

/-- The calls that a scan makes on its ledger: those of its visit, if it visits a node. -/
def callsOf (surveyor : Surveyor) (disk : Disk) (phase : Phase) (stack : List Path)
    (restriction : Option NameSet) (file : Path) : List Call :=
  match surveyor.lookup.find disk file with
  | .ok (some found) =>
    if found ∈ stack then []
    else if ((phase.storeFor stack).find? (surveyor.node found restriction)).isSome then []
    else
      Search.calls (surveyor.read disk phase.excluded stack) disk.nodeBound stack.length
        (surveyor.node found restriction) (phase.begin stack)
  | _ => []

theorem callsOf_of_not (h : ¬ ∃ found, surveyor.lookup.find disk file = .ok (some found) ∧
    found ∉ stack) : surveyor.callsOf disk phase stack restriction file = [] := by
  unfold callsOf
  split
  · next found hfind =>
    have hstack : found ∈ stack := by
      by_contra hstack
      exact h ⟨found, hfind, hstack⟩
    rw [if_pos hstack]
  · rfl

section Fresh

variable (hempty : phase.storeFor stack = [])

include hempty

theorem storeAfter_of_find (hfind : surveyor.lookup.find disk file = .ok (some found))
    (hstack : found ∉ stack) :
    surveyor.storeAfter disk phase stack restriction file =
      (Search.visit (surveyor.read disk phase.excluded stack) disk.nodeBound stack.length
        (surveyor.node found restriction) (phase.begin stack)).1.ledger.store := by
  simp [storeAfter, hfind, hstack, hempty, Store.find?]

theorem storeAfter_of_not (h : ¬ ∃ found, surveyor.lookup.find disk file = .ok (some found) ∧
    found ∉ stack) : surveyor.storeAfter disk phase stack restriction file = [] := by
  unfold storeAfter
  split
  · next found hfind =>
    have hstack : found ∈ stack := by
      by_contra hstack
      exact h ⟨found, hfind, hstack⟩
    rw [if_pos hstack, hempty]
  · exact hempty

/-- The store of a scan that starts with no results is the one after its calls. -/
theorem store_after_callsOf :
    (Ledger.after (surveyor.callsOf disk phase stack restriction file)).store =
      surveyor.storeAfter disk phase stack restriction file := by
  have hbegin : (phase.begin stack).ledger = {} := by rw [Phase.begin, hempty]
  by_cases h : ∃ found, surveyor.lookup.find disk file = .ok (some found) ∧ found ∉ stack
  · obtain ⟨found, hfind, hstack⟩ := h
    have hcalls : surveyor.callsOf disk phase stack restriction file =
        Search.calls (surveyor.read disk phase.excluded stack) disk.nodeBound stack.length
          (surveyor.node found restriction) (phase.begin stack) := by
      simp [callsOf, hfind, hstack, hempty, Store.find?]
    rw [storeAfter_of_find hempty hfind hstack, Search.ledger_visit, hbegin, hcalls]
    rfl
  · rw [storeAfter_of_not hempty h, callsOf_of_not h]
    rfl

/-- It is final if the scan ends normally, and then holds the nodes within reach of the scan. -/
theorem final_storeAfter
    (h : (surveyor.scan disk phase stack restriction file).outcome = .ok usage) :
    (surveyor.storeAfter disk phase stack restriction file).Final
        (surveyor.read disk phase.excluded stack) ∧
      ∀ x, ((surveyor.storeAfter disk phase stack restriction file).find? x).isSome = true ↔
        surveyor.Within disk stack restriction file x := by
  by_cases hstart : ∃ found, surveyor.lookup.find disk file = .ok (some found) ∧ found ∉ stack
  · obtain ⟨found, hfind, hstack⟩ := hstart
    have hmiss : (phase.storeFor stack).find? (surveyor.node found restriction) = none := by
      rw [hempty]
      rfl
    rw [scan_eq_visit hfind hstack hmiss] at h
    rw [storeAfter_of_find hempty hfind hstack]
    have hstart : (phase.storeFor stack).Final (surveyor.read disk phase.excluded stack) := by
      rw [hempty]
      trivial
    have hvisit := Search.visit_top (s := phase.begin stack) rfl hstart hmiss disk.nodeBound
      stack.length
    have haccounts := Search.accounts_top hmiss (surveyor.read disk phase.excluded stack)
      disk.nodeBound stack.length
    dsimp only at h
    generalize Search.visit _ disk.nodeBound _ _ _ = outcome at h hvisit haccounts ⊢
    obtain ⟨s, result⟩ := outcome
    dsimp only at h
    subst h
    obtain ⟨⟨hfinal, hnode⟩, -⟩ := hvisit.of_ok
    refine ⟨hfinal, fun x => ⟨fun hx => ?_, ?_⟩⟩
    · have hopened := (haccounts.finished x hx).resolve_left (by simp [hempty, Store.find?])
      exact ⟨found, hfind, hstack, reaches_read_iff.mp (haccounts.reaches x hopened)⟩
    · rintro ⟨found', hfind', -, hreach⟩
      obtain rfl : found = found' := by simpa [hfind] using hfind'
      exact hfinal.isSome_of_reaches (by simp [hnode]) (reaches_read_iff.mpr hreach)
  · rw [storeAfter_of_not hempty hstart]
    refine ⟨trivial, fun x => iff_of_false (by simp [Store.find?]) ?_⟩
    rintro ⟨found, hfind, hstack, -⟩
    exact hstart ⟨found, hfind, hstack⟩

end Fresh

/-- **The groups that a scan finishes are the strongly connected components** of the graph within
its reach. Whatever the disk, the stack, the restriction and the file: if a scan starts with no
results and ends normally, its store is the one after the calls that it makes. Each call moves one
group of nodes there or nothing, and one that moves a group closes a node. What the single calls
move, in their order, are the components: two nodes are moved by the same call exactly if they reach
each other, and no group reaches one that is moved later. The phase has this store then, if the scan
shares its results. -/
theorem components_of_scan (surveyor : Surveyor) (disk : Disk) (phase : Phase) (stack : List Path)
    (restriction : Option NameSet) (file : Path) (hempty : phase.storeFor stack = [])
    (usage : Roster)
    (h : (surveyor.scan disk phase stack restriction file).outcome = .ok usage) :
    let calls := surveyor.callsOf disk phase stack restriction file
    let store := surveyor.storeAfter disk phase stack restriction file
    (Ledger.after calls).store = store ∧
    (∀ (L : Ledger) (call : Call), (L.perform call).1.store = L.store ∨
      ∃ node found group, call = .close node found ∧
        (L.perform call).1.store = group :: L.store) ∧
    (Ledger.moves {} calls).filter (!·.isEmpty) = store.reverse.map (·.members) ∧
    Components (ReflTransGen (surveyor.Imports disk stack))
      (surveyor.Within disk stack restriction file) (store.reverse.map (·.members)) ∧
    (phase.shares stack = true →
      (surveyor.scan disk phase stack restriction file).phase.store = store) := by
  intro calls store
  have hstore : (Ledger.after calls).store = store := store_after_callsOf hempty
  have hmoves : store.reverse.map (·.members) = (Ledger.moves {} calls).filter (!·.isEmpty) := by
    rw [← hstore]
    exact Ledger.members_performAll {} calls
  obtain ⟨hfinal, hwithin⟩ := final_storeAfter hempty h
  have hgroups : ∀ P : List Node → Prop, (∃ group ∈ store.reverse.map (·.members), P group) ↔
      ∃ group ∈ store, P group.members := by
    simp
  refine ⟨hstore, ?_, hmoves.symm, ⟨?_, ?_, ?_, ?_⟩, store_phase_scan⟩
  · intro L call
    refine (L.store_perform call).imp_right ?_
    rintro ⟨node, found, group, hcall, -, hcons⟩
    exact ⟨node, found, group, hcall, hcons⟩
  · rw [hmoves]
    intro group hgroup
    simpa using (List.mem_filter.mp hgroup).2
  · intro a
    rw [hgroups fun group => a ∈ group, ← hwithin, Store.isSome_find?_iff]
  · intro a b ha _
    rw [hgroups fun group => a ∈ group ∧ b ∈ group]
    constructor
    · rintro ⟨group, hgroup, hma, hmb⟩
      exact ⟨reaches_read_iff.mp (hfinal.linked hgroup hma hmb),
        reaches_read_iff.mp (hfinal.linked hgroup hmb hma)⟩
    · rintro ⟨hab, hba⟩
      exact hfinal.exists_common ((hwithin a).mpr ha) (reaches_read_iff.mpr hab)
        (reaches_read_iff.mpr hba)
  · rw [List.pairwise_map, List.pairwise_reverse]
    refine hfinal.ordered.imp fun {later earlier} hno a ha b hb hab => ?_
    exact hno a ha b hb (reaches_read_iff.mpr hab)

/-- The circle is one component, finished after the action file that it leads to. -/
theorem components_circleDisk :
    let phase : Phase := { excluded := [], caching := true }
    let groups := [["/user/actions.js"], ["/right.js", "/left.js"]].map
      (·.map fun name => (⟨Path.parse name, none⟩ : Node))
    (circleSurveyor.scan circleDisk phase [] none (Path.parse "/left")).outcome =
      .ok (.ofList [circleReducer]) ∧
    Components (ReflTransGen (circleSurveyor.Imports circleDisk []))
      (circleSurveyor.Within circleDisk [] none (Path.parse "/left")) groups := by
  intro phase groups
  have h : (circleSurveyor.scan circleDisk phase [] none (Path.parse "/left")).outcome =
      .ok (.ofList [circleReducer]) := by
    decide +kernel
  obtain ⟨-, -, -, hcomponents, -⟩ := components_of_scan circleSurveyor circleDisk phase [] none
    (Path.parse "/left") rfl _ h
  have hgroups : ((circleSurveyor.storeAfter circleDisk phase [] none
      (Path.parse "/left")).reverse.map (·.members)) = groups := by
    decide +kernel
  exact ⟨h, hgroups ▸ hcomponents⟩

end Surveyor

end ReducerAtlas
