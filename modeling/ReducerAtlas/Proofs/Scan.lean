import ReducerAtlas.Proofs.Exploration
import ReducerAtlas.Proofs.NodeBound

/-!
# What a scan finds

A scan visits one node with a ledger that holds nothing but a store. No node is open around it, so
nothing is left waiting at its end: the node is finished, and its result is the roster of all that
can be reached from it.

* `Search.visit_top`: the visit of a node with no open nodes around it.
* `Surveyor.scan_cases`: a scan with a file to start at, and one without; `Surveyor.scan_of_hit`,
  `Surveyor.scan_eq_visit`: one that finds its node among the results it starts with, and one that
  visits it; `Surveyor.scan_of_miss`: what such a visit comes to.
* `Surveyor.gathers_of_scan`: the result of a scan is the roster of its node.
* **`Surveyor.find?_scan_iff`**: the result of a scan is exact reachability.
-/

namespace ReducerAtlas

open Relation

variable {read : Node → Reading}

/-! ## Visits with no open nodes around -/

namespace Ledger

variable {L L' : Ledger} {node m : Node} {store : Store} {usage : Roster}

theorem sound_of_final (h : store.Final read) : Sound read { store := store } where
  final := h
  bounded n hn := by simp [Marked, Table.get?] at hn
  mem_pending_iff n := by simp [Marked, Table.get?]
  decreasing := .nil

theorem known_of_store (n : Node) :
    Known { store := store } n ↔ (store.find? n).isSome = true := by
  simp [Known, Marked, Table.get?]

/-- The oldest open node cannot wait, since it would have to get back to an older one. -/
theorem pending_eq_nil (h : ∀ m ∈ L.pending, L.Waiting read m) : L.pending = [] := by
  suffices hno : ∀ i, ∀ m ∈ L.pending, L.number m ≠ i from
    List.eq_nil_iff_forall_not_mem.mpr fun m hm => hno _ m hm rfl
  intro i
  induction i using Nat.strongRecOn with
  | ind i ih =>
    intro m hm hi
    obtain ⟨hlt, f, -, hx⟩ := h m hm
    obtain ⟨w, hw, hn, -⟩ := hx.back
    exact ih (L.number w) (by omega) w hw rfl

theorem Visited.find?_eq (h : Visited read L node L' usage) (hp : L.pending = []) :
    L'.store.find? node = some usage := by
  obtain ⟨new, hnew, habove⟩ := h.above
  rw [hp, List.append_nil] at hnew
  have hwait : ∀ m ∈ L'.pending, L'.Waiting read m := fun m hm => (habove m (hnew ▸ hm)).1
  have hnil : L'.pending = [] := pending_eq_nil hwait
  rcases h.result with ⟨hpend, -⟩ | hfind
  · rw [hnil] at hpend
    cases hpend
  · exact hfind

end Ledger

namespace Search

/-- The nodes that are finished in a store. -/
def finished (store : Store) : List Node := store.flatMap (·.members)

theorem mem_finished {store : Store} {n : Node} :
    n ∈ finished store ↔ (store.find? n).isSome = true := by
  rw [finished, List.mem_flatMap, Store.isSome_find?_iff]

/-- **The visit of a node with no open nodes around** finishes that node, if nothing stops it, and
leaves a store of final results in any case. -/
theorem visit_top {s : Search} {store : Store} {node : Node} (hs : s.ledger = { store := store })
    (hfinal : store.Final read) (hnode : store.find? node = none) (fuel depth : Nat) :
    Mirrors read (fun L usage => L.store.Final read ∧ L.store.find? node = some usage)
      (visit read fuel depth node s) (explore read fuel node (finished store)) := by
  have hsound : s.ledger.Sound read := hs ▸ Ledger.sound_of_final hfinal
  have hunknown : ¬ s.ledger.Known node := by
    rw [hs, Ledger.known_of_store, hnode]
    simp
  have hseen : ∀ n, n ∈ finished store ↔ s.ledger.Known n := by
    intro n
    rw [hs, Ledger.known_of_store, mem_finished]
  refine (visit_mirrors read fuel depth node s _ hsound hunknown hseen).imp fun L usage hv => ?_
  exact ⟨hv.sound.final, hv.find?_eq (by rw [hs])⟩

end Search

/-! ## Scans -/

namespace Surveyor

variable {surveyor : Surveyor} {disk : Disk} {phase : Phase} {stack : List Path}
  {restriction : Option NameSet} {file found : Path}

/-- A scan starts at a file outside the stack, or it has nothing to visit: then it fails or finds
nothing, whatever its phase, and leaves the phase alone. -/
theorem scan_cases (surveyor : Surveyor) (disk : Disk) (stack : List Path)
    (restriction : Option NameSet) (file : Path) :
    (∃ found, surveyor.lookup.find disk file = .ok (some found) ∧ found ∉ stack) ∨
      (¬ ∃ found, surveyor.lookup.find disk file = .ok (some found) ∧ found ∉ stack) ∧
        ∃ journal outcome, (∀ usage, outcome = .ok usage → usage = .empty) ∧
          ∀ phase, surveyor.scan disk phase stack restriction file = ⟨phase, journal, outcome⟩ := by
  cases hfind : surveyor.lookup.find disk file with
  | error failure =>
    exact .inr ⟨by simp, [], .error failure, by simp, fun phase => by simp [scan, hfind]⟩
  | ok target =>
    cases target with
    | none =>
      exact .inr ⟨by simp, [.unresolved stack.length file], .ok .empty, by simp,
        fun phase => by simp [scan, hfind]⟩
    | some found =>
      by_cases hstack : found ∈ stack
      · exact .inr ⟨by simp [hstack], [], .ok .empty, by simp,
          fun phase => by simp [scan, hfind, hstack]⟩
      · exact .inl ⟨found, rfl, hstack⟩

theorem scan_of_hit (hfind : surveyor.lookup.find disk file = .ok (some found))
    (hstack : found ∉ stack) {usage : Roster}
    (hhit : (phase.storeFor stack).find? (surveyor.node found restriction) = some usage) :
    surveyor.scan disk phase stack restriction file = ⟨phase, [], .ok usage⟩ := by
  simp [scan, hfind, hstack, hhit]

theorem scan_eq_visit (hfind : surveyor.lookup.find disk file = .ok (some found))
    (hstack : found ∉ stack)
    (hmiss : (phase.storeFor stack).find? (surveyor.node found restriction) = none) :
    surveyor.scan disk phase stack restriction file =
      let visited := Search.visit (surveyor.read disk phase.excluded stack) disk.nodeBound
        stack.length (surveyor.node found restriction) (phase.begin stack)
      ⟨phase.after stack visited.1, visited.1.notes.reverse, visited.2⟩ := by
  simp only [scan, hfind, List.contains_iff_mem, hstack, if_false, hmiss]

/-- A scan that visits its node finishes it, or stops where the plain search does. -/
theorem scan_of_miss (hfind : surveyor.lookup.find disk file = .ok (some found))
    (hstack : found ∉ stack)
    (hmiss : (phase.storeFor stack).find? (surveyor.node found restriction) = none)
    (hfinal : (phase.storeFor stack).Final (surveyor.read disk phase.excluded stack)) :
    ∃ s : Search, (surveyor.scan disk phase stack restriction file).phase = phase.after stack s ∧
      Search.Mirrors (surveyor.read disk phase.excluded stack)
        (fun L usage => L.store.Final (surveyor.read disk phase.excluded stack) ∧
          L.store.find? (surveyor.node found restriction) = some usage)
        (s, (surveyor.scan disk phase stack restriction file).outcome)
        (Search.explore (surveyor.read disk phase.excluded stack) disk.nodeBound
          (surveyor.node found restriction) (Search.finished (phase.storeFor stack))) := by
  have hvisit := Search.visit_top (s := phase.begin stack) rfl hfinal hmiss disk.nodeBound
    stack.length
  rw [scan_eq_visit hfind hstack hmiss]
  generalize Search.visit _ disk.nodeBound _ _ _ = outcome at hvisit ⊢
  exact ⟨outcome.1, rfl, hvisit⟩

theorem gathers_of_scan (hfind : surveyor.lookup.find disk file = .ok (some found))
    (hstack : found ∉ stack)
    (hfinal : (phase.storeFor stack).Final (surveyor.read disk phase.excluded stack))
    {usage : Roster} (h : (surveyor.scan disk phase stack restriction file).outcome = .ok usage) :
    Gathers (surveyor.read disk phase.excluded stack) (surveyor.node found restriction) usage := by
  cases hstore : (phase.storeFor stack).find? (surveyor.node found restriction) with
  | some u =>
    rw [scan_of_hit hfind hstack hstore] at h
    cases h
    exact hfinal.gathers hstore
  | none =>
    obtain ⟨s, -, hm⟩ := scan_of_miss hfind hstack hstore hfinal
    rw [h] at hm
    exact hm.of_ok.1.1.gathers hm.of_ok.1.2

/-- **A scan is exact reachability.** In a fresh phase, and whatever the disk, the reducers (one for
each name), the excluded names, the stack, the restriction and the file: if the scan ends normally,
its result answers a name with a reducer exactly if that is the reducer of the name, the name is not
excluded, the file stands for one outside the stack, and from the node of that one a node can be
reached that is a core file of the reducer. -/
theorem find?_scan_iff (surveyor : Surveyor) (distinct : (surveyor.reducers.map (·.name)).Nodup)
    (disk : Disk) (excluded : List String) (caching : Bool) (stack : List Path)
    (restriction : Option NameSet) (file : Path) (usage : Roster)
    (h : (surveyor.scan disk { excluded := excluded, caching := caching } stack restriction
      file).outcome = .ok usage) (n : String) (r : Reducer) :
    usage.find? n = some r ↔ r ∈ surveyor.reducers ∧ r.name = n ∧ n ∉ excluded ∧
      ∃ found, surveyor.lookup.find disk file = .ok (some found) ∧ found ∉ stack ∧
        surveyor.Needs disk stack (surveyor.node found restriction) r := by
  rcases surveyor.scan_cases disk stack restriction file with
    ⟨found, hfind, hstack⟩ | ⟨hno, _, _, hempty, hscan⟩
  · have hfinal : (Phase.storeFor { excluded := excluded, caching := caching } stack).Final
        (surveyor.read disk excluded stack) := by
      simp [Phase.storeFor, Store.Final]
    rw [find?_iff_of_gathers distinct (gathers_of_scan hfind hstack hfinal h)]
    simp [hfind, hstack]
  · rw [hscan] at h
    rw [hempty usage h]
    simpa [Roster.find?] using fun _ _ _ found hfind hstack _ => hno ⟨found, hfind, hstack⟩

/-! ## An import circle -/

/-- Two files import each other, and one of them also the action file of a reducer. -/
def circleDisk : Disk where
  root :=
    .file "left.js" (Text.Utf8.encode "import './right';".toList) <|
    .file "right.js" (Text.Utf8.encode "import './left'; import './user/actions';".toList) <|
    .folder "user" (.file "actions.js" [] .empty) .empty

/-- The reducer of that circle. -/
def circleReducer : Reducer := ⟨"user", Path.parse "/user/reducer.js", none⟩

/-- A surveyor that looks for this reducer. -/
def circleSurveyor : Surveyor where
  reducers := [circleReducer]
  base := .root
  actionNames := some ["actions.js"]

theorem needs_circleReducer :
    (circleSurveyor.scan circleDisk { excluded := [], caching := true } [] none
      (Path.parse "/left")).outcome = .ok (.ofList [circleReducer]) ∧
    ∃ found, circleSurveyor.lookup.find circleDisk (Path.parse "/left") = .ok (some found) ∧
      found ∉ ([] : List Path) ∧
      circleSurveyor.Needs circleDisk [] (circleSurveyor.node found none) circleReducer := by
  have h : (circleSurveyor.scan circleDisk { excluded := [], caching := true } [] none
      (Path.parse "/left")).outcome = .ok (.ofList [circleReducer]) := by
    decide +kernel
  have hfind := find?_scan_iff circleSurveyor (by decide) circleDisk [] true [] none
    (Path.parse "/left") _ h "user" circleReducer
  exact ⟨h, (hfind.mp (by decide +kernel)).2.2.2⟩

end Surveyor

end ReducerAtlas
