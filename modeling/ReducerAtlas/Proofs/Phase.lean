import ReducerAtlas.Proofs.Scan

/-!
# Scans that share their results

The results of a phase are final after every scan, however it ended and wherever it was cut off. A
later scan that starts from them takes finished nodes as seen, and these lead to no failure, so it
gives what it would have given alone.

* `Request`, `Surveyor.answer`: one scan of a sequence; `Surveyor.phaseAfter`,
  `Surveyor.outcomes`: what a sequence of scans leaves and what it gives.
* `Surveyor.Settled`: all results of a phase are final; `Surveyor.Settled.answer`: a scan keeps it.
* **`Surveyor.find?_phaseAfter_iff`**: what stands in the store after any sequence of scans.
* **`Surveyor.outcomes_eq_map`**: scans that share their results give what each gives alone.
-/

namespace ReducerAtlas

/-- What a scan is asked for: a file, the names asked of it, and the files being visited around it.
-/
structure Request where
  file : Path
  restriction : Option NameSet := none
  stack : List Path := []
  deriving DecidableEq, Repr

namespace Surveyor

/-- The scan that a request asks for. -/
def answer (surveyor : Surveyor) (disk : Disk) (phase : Phase) (request : Request) : ScanResult :=
  surveyor.scan disk phase request.stack request.restriction request.file

/-- The phase after some scans, one after the other, whether they fail or not. -/
def phaseAfter (surveyor : Surveyor) (disk : Disk) : Phase → List Request → Phase
  | phase, [] => phase
  | phase, request :: rest =>
    phaseAfter surveyor disk (surveyor.answer disk phase request).phase rest

/-- The outcomes of these scans. -/
def outcomes (surveyor : Surveyor) (disk : Disk) :
    Phase → List Request → List (Except Failure Roster)
  | _, [] => []
  | phase, request :: rest =>
    let result := surveyor.answer disk phase request
    result.outcome :: outcomes surveyor disk result.phase rest

variable {surveyor : Surveyor} {disk : Disk} {phase : Phase} {stack : List Path}
  {restriction : Option NameSet} {file found : Path}

/-! ## Final results are kept -/

/-- All results of a phase are final, with nothing blocked. -/
def Settled (surveyor : Surveyor) (disk : Disk) (phase : Phase) : Prop :=
  phase.store.Final (surveyor.read disk phase.excluded [])

theorem settled_of_store_eq_nil (h : phase.store = []) : surveyor.Settled disk phase := by
  rw [Settled, h]
  trivial

/-- A scan starts with final results: those of its phase, which it shares only if nothing is
blocked, or none. -/
theorem Settled.final_storeFor (h : surveyor.Settled disk phase) (stack : List Path) :
    (phase.storeFor stack).Final (surveyor.read disk phase.excluded stack) := by
  cases hs : phase.shares stack with
  | false => simp [Phase.storeFor, hs, Store.Final]
  | true =>
    simp only [Phase.shares, Bool.and_eq_true, List.isEmpty_iff] at hs
    obtain ⟨hcaching, rfl⟩ := hs
    simpa [Settled, Phase.storeFor, Phase.shares, hcaching] using h

theorem Settled.after (h : surveyor.Settled disk phase) {s : Search}
    (hs : s.ledger.store.Final (surveyor.read disk phase.excluded stack)) :
    surveyor.Settled disk (phase.after stack s) := by
  cases hshares : phase.shares stack with
  | false => simpa [Settled, Phase.after, hshares] using h
  | true =>
    have hstack : stack = [] := by
      simp only [Phase.shares, Bool.and_eq_true, List.isEmpty_iff] at hshares
      exact hshares.2
    subst hstack
    simpa [Settled, Phase.after, hshares] using hs

theorem scan_phase_cases (h : surveyor.Settled disk phase) (stack : List Path)
    (restriction : Option NameSet) (file : Path) :
    (surveyor.scan disk phase stack restriction file).phase = phase ∨
      ∃ s : Search, (surveyor.scan disk phase stack restriction file).phase = phase.after stack s ∧
        s.ledger.store.Final (surveyor.read disk phase.excluded stack) := by
  rcases surveyor.scan_cases disk stack restriction file with
    ⟨found, hfind, hstack⟩ | ⟨-, _, _, -, hscan⟩
  · cases hstore : (phase.storeFor stack).find? (surveyor.node found restriction) with
    | some usage => exact .inl (by rw [scan_of_hit hfind hstack hstore])
    | none =>
      obtain ⟨s, hphase, hm⟩ := scan_of_miss hfind hstack hstore (h.final_storeFor stack)
      refine .inr ⟨s, hphase, ?_⟩
      cases hout : (surveyor.scan disk phase stack restriction file).outcome with
      | ok usage => exact (hout ▸ hm).of_ok.1.1
      | error failure => exact (hout ▸ hm).of_error.1
  · exact .inl (by rw [hscan])

/-- **A scan keeps a phase settled**, also if it fails, and keeps what the phase excludes. -/
theorem Settled.answer (h : surveyor.Settled disk phase) (request : Request) :
    surveyor.Settled disk (surveyor.answer disk phase request).phase ∧
      (surveyor.answer disk phase request).phase.excluded = phase.excluded := by
  unfold Surveyor.answer
  rcases scan_phase_cases h request.stack request.restriction request.file with he | ⟨s, he, hs⟩
  · rw [he]
    exact ⟨h, rfl⟩
  · rw [he]
    exact ⟨h.after hs, rfl⟩

theorem Settled.phaseAfter (h : surveyor.Settled disk phase) (requests : List Request) :
    surveyor.Settled disk (surveyor.phaseAfter disk phase requests) ∧
      (surveyor.phaseAfter disk phase requests).excluded = phase.excluded := by
  induction requests generalizing phase with
  | nil => exact ⟨h, rfl⟩
  | cons request rest ih =>
    obtain ⟨hsettled, hexcluded⟩ := h.answer request
    obtain ⟨hlast, heq⟩ := ih hsettled
    exact ⟨hlast, heq.trans hexcluded⟩

/-- **The store only ever holds final results.** After any sequence of scans in one phase, of any
files, restrictions and stacks, failed ones included: what the store has for a node answers a name
with a reducer exactly if that is the reducer of the name, the name is not excluded, and a core file
of the reducer can be reached from the node with nothing blocked. -/
theorem find?_phaseAfter_iff (surveyor : Surveyor)
    (distinct : (surveyor.reducers.map (·.name)).Nodup) (disk : Disk) (excluded : List String)
    (requests : List Request) (node : Node) (usage : Roster)
    (h : (surveyor.phaseAfter disk { excluded := excluded, caching := true } requests).store.find?
      node = some usage) (n : String) (r : Reducer) :
    usage.find? n = some r ↔ r ∈ surveyor.reducers ∧ r.name = n ∧ n ∉ excluded ∧
      surveyor.Needs disk [] node r := by
  have hfresh : surveyor.Settled disk { excluded := excluded, caching := true } :=
    settled_of_store_eq_nil rfl
  obtain ⟨hsettled, hexcluded⟩ := hfresh.phaseAfter requests
  rw [Settled, hexcluded] at hsettled
  exact find?_iff_of_gathers distinct (hsettled.gathers h) n r

/-- The circle, a file that imports it and then one that cannot be read, and that one. -/
def faultyDisk : Disk where
  root :=
    .file "broken.js" [] <|
    .file "entry.js" (Text.Utf8.encode "import './left'; import './broken';".toList) circleDisk.root
  faults := [(Path.parse "/broken.js", .denied)]

theorem store_after_failure :
    let requests : List Request := [{ file := Path.parse "/entry.js" }]
    let phase := circleSurveyor.phaseAfter faultyDisk { excluded := [], caching := true } requests
    let left := circleSurveyor.node (Path.parse "/left.js") none
    circleSurveyor.outcomes faultyDisk { excluded := [], caching := true } requests =
        [.error (.io ⟨.denied, Path.parse "/broken.js"⟩)] ∧
      phase.store.find? left = some (.ofList [circleReducer]) ∧
      circleSurveyor.Needs faultyDisk [] left circleReducer := by
  intro requests phase left
  have h : phase.store.find? left = some (.ofList [circleReducer]) := by decide +kernel
  have hfind := find?_phaseAfter_iff circleSurveyor (by decide) faultyDisk [] requests left _ h
    "user" circleReducer
  exact ⟨by decide +kernel, h, (hfind.mp (by decide +kernel)).2.2.2⟩

/-! ## Shared results change no outcome -/

theorem eq_of_gathers {excluded : List String} {blocked : List Path} {node : Node}
    {usage usage' : Roster} (distinct : (surveyor.reducers.map (·.name)).Nodup)
    (h : Gathers (surveyor.read disk excluded blocked) node usage)
    (h' : Gathers (surveyor.read disk excluded blocked) node usage') : usage = usage' := by
  refine Roster.ext_mem fun r => ?_
  rw [mem_toList_iff_of_gathers distinct h, mem_toList_iff_of_gathers distinct h']

/-- The finished nodes of a store of final results lead to no failure and not out of it. -/
theorem quiet_of_final {read : Node → Reading} {store : Store} (h : store.Final read) :
    Search.Quiet read fun n => (store.find? n).isSome = true where
  closed _ _ ha hab := h.isSome_of_leads ha hab
  healthy _ ha := h.healthy ha

theorem alike_finished (store : Store) :
    Search.Alike (fun n => (store.find? n).isSome = true) (Search.finished store) [] where
  full _ hn := Search.mem_finished.mpr hn
  mem_iff n hn := by simpa [Search.mem_finished] using hn

theorem unseen_nodes_le (disk : Disk) (start : Option (List String)) :
    Search.unseen (disk.nodes start) [] ≤ disk.nodeBound :=
  Nat.le_trans List.countP_le_length (disk.length_nodes_le start)

section Unshared

variable {excluded : List String} {store : Store}

/-- From a finished node, the search that knows no results ends. -/
theorem explore_of_finished (hfind : surveyor.lookup.find disk file = .ok (some found))
    (hfinal : store.Final (surveyor.read disk excluded stack))
    (hnode : (store.find? (surveyor.node found restriction)).isSome = true) :
    (Search.explore (surveyor.read disk excluded stack) disk.nodeBound
      (surveyor.node found restriction) []).2 = none := by
  have hall : surveyor.node found restriction ∈ disk.nodes (restriction.map NameSet.ofList) :=
    node_mem_nodes (Lookup.isFile_of_find hfind) List.mem_cons_self
  obtain ⟨seen, hseen, -⟩ := Search.explore_quiet (quiet_of_final hfinal) (mem_nodes_of_leads _)
    hnode hall List.not_mem_nil (unseen_nodes_le disk _) (alike_finished store)
  rw [hseen]

/-- From any other node, it stops where the search stops that knows these results. -/
theorem explore_of_unfinished (hfind : surveyor.lookup.find disk file = .ok (some found))
    (hfinal : store.Final (surveyor.read disk excluded stack))
    (hnode : store.find? (surveyor.node found restriction) = none) :
    (Search.explore (surveyor.read disk excluded stack) disk.nodeBound
      (surveyor.node found restriction) (Search.finished store)).2 =
    (Search.explore (surveyor.read disk excluded stack) disk.nodeBound
      (surveyor.node found restriction) []).2 := by
  have hall : surveyor.node found restriction ∈ disk.nodes (restriction.map NameSet.ofList) :=
    node_mem_nodes (Lookup.isFile_of_find hfind) List.mem_cons_self
  have hsame := Search.explore_absorb (quiet_of_final hfinal) (mem_nodes_of_leads _) disk.nodeBound
    (surveyor.node found restriction) (Search.finished store) [] (by simp [hnode]) hall
    List.not_mem_nil (unseen_nodes_le disk _) (alike_finished store)
  exact hsame.1

/-- What a scan is to give for a node: its roster if the search that knows no results ends, else the
failure at which that search stops. -/
def Reports (surveyor : Surveyor) (disk : Disk) (excluded : List String) (stack : List Path)
    (node : Node) : Except Failure Roster → Prop
  | .ok usage =>
    (Search.explore (surveyor.read disk excluded stack) disk.nodeBound node []).2 = none ∧
      Gathers (surveyor.read disk excluded stack) node usage
  | .error failure =>
    (Search.explore (surveyor.read disk excluded stack) disk.nodeBound node []).2 = some failure

theorem Reports.unique {node : Node} {outcome outcome' : Except Failure Roster}
    (distinct : (surveyor.reducers.map (·.name)).Nodup)
    (h : surveyor.Reports disk excluded stack node outcome)
    (h' : surveyor.Reports disk excluded stack node outcome') : outcome = outcome' := by
  cases outcome with
  | ok usage =>
    cases outcome' with
    | ok usage' => rw [eq_of_gathers distinct h.2 h'.2]
    | error failure' => cases h.1.symm.trans h'
  | error failure =>
    cases outcome' with
    | ok usage' => cases h.symm.trans h'.1
    | error failure' => rw [Option.some.inj (h.symm.trans h')]

/-- **A scan that starts with final results gives what its node is to give.** -/
theorem Settled.reports_scan (h : surveyor.Settled disk phase)
    (hfind : surveyor.lookup.find disk file = .ok (some found)) (hstack : found ∉ stack) :
    surveyor.Reports disk phase.excluded stack (surveyor.node found restriction)
      (surveyor.scan disk phase stack restriction file).outcome := by
  have hfinal := h.final_storeFor stack
  cases hstore : (phase.storeFor stack).find? (surveyor.node found restriction) with
  | some usage =>
    rw [scan_of_hit hfind hstack hstore]
    exact ⟨explore_of_finished hfind hfinal (by simp [hstore]), hfinal.gathers hstore⟩
  | none =>
    obtain ⟨s, -, hm⟩ := scan_of_miss hfind hstack hstore hfinal
    have hexplore := explore_of_unfinished hfind hfinal hstore
    cases hout : (surveyor.scan disk phase stack restriction file).outcome with
    | ok usage =>
      rw [hout] at hm
      exact ⟨hexplore.symm.trans hm.of_ok.2, hm.of_ok.1.1.gathers hm.of_ok.1.2⟩
    | error failure =>
      rw [hout] at hm
      exact hexplore.symm.trans hm.of_error.2

end Unshared

theorem Settled.scan_outcome (h : surveyor.Settled disk phase)
    (distinct : (surveyor.reducers.map (·.name)).Nodup) (stack : List Path)
    (restriction : Option NameSet) (file : Path) :
    (surveyor.scan disk phase stack restriction file).outcome =
      (surveyor.scan disk { excluded := phase.excluded, caching := false } stack restriction
        file).outcome := by
  rcases surveyor.scan_cases disk stack restriction file with
    ⟨found, hfind, hstack⟩ | ⟨-, _, _, -, hscan⟩
  · have halone : surveyor.Settled disk { excluded := phase.excluded, caching := false } :=
      settled_of_store_eq_nil rfl
    exact (h.reports_scan hfind hstack).unique distinct (halone.reports_scan hfind hstack)
  · rw [hscan, hscan]

/-- The outcomes of scans in a settled phase, by induction on the scans: each one keeps the phase
settled for those after it. -/
theorem Settled.outcomes (h : surveyor.Settled disk phase)
    (distinct : (surveyor.reducers.map (·.name)).Nodup) (requests : List Request) :
    surveyor.outcomes disk phase requests = requests.map fun request =>
      (surveyor.answer disk { excluded := phase.excluded, caching := false } request).outcome := by
  induction requests generalizing phase with
  | nil => rfl
  | cons request rest ih =>
    obtain ⟨hnext, hexcluded⟩ := h.answer request
    have hfirst := h.scan_outcome distinct request.stack request.restriction request.file
    simp only [Surveyor.outcomes, List.map_cons, ih hnext, hexcluded]
    exact congrArg (· :: _) hfirst

/-- **Shared results change no outcome.** Whatever the disk and its faults: the outcomes of a
sequence of scans in one phase that keeps its results are, one by one, what each scan gives alone in
a phase that keeps none, be it a result or a failure. -/
theorem outcomes_eq_map (surveyor : Surveyor) (distinct : (surveyor.reducers.map (·.name)).Nodup)
    (disk : Disk) (excluded : List String) (requests : List Request) :
    surveyor.outcomes disk { excluded := excluded, caching := true } requests =
      requests.map fun request =>
        (surveyor.answer disk { excluded := excluded, caching := false } request).outcome :=
  Settled.outcomes (settled_of_store_eq_nil rfl) distinct requests

theorem outcomes_faultyDisk :
    let requests : List Request :=
      [{ file := Path.parse "/entry.js" }, { file := Path.parse "/right.js" },
        { file := Path.parse "/broken.js" }]
    (circleSurveyor.reducers.map (·.name)).Nodup ∧
      circleSurveyor.outcomes faultyDisk { excluded := [], caching := true } requests =
        [.error (.io ⟨.denied, Path.parse "/broken.js"⟩), .ok (.ofList [circleReducer]),
          .error (.io ⟨.denied, Path.parse "/broken.js"⟩)] ∧
      requests.map (fun request => (circleSurveyor.answer faultyDisk
          { excluded := [], caching := false } request).outcome) =
        [.error (.io ⟨.denied, Path.parse "/broken.js"⟩), .ok (.ofList [circleReducer]),
          .error (.io ⟨.denied, Path.parse "/broken.js"⟩)] := by
  intro requests
  have distinct : (circleSurveyor.reducers.map (·.name)).Nodup := by decide
  have h : circleSurveyor.outcomes faultyDisk { excluded := [], caching := true } requests =
      [.error (.io ⟨.denied, Path.parse "/broken.js"⟩), .ok (.ofList [circleReducer]),
        .error (.io ⟨.denied, Path.parse "/broken.js"⟩)] := by
    decide +kernel
  exact ⟨distinct, h, (outcomes_eq_map circleSurveyor distinct faultyDisk [] requests).symm.trans h⟩

end Surveyor

end ReducerAtlas
