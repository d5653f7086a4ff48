import ReducerAtlas.Proofs.Listing
import ReducerAtlas.Proofs.Phase

/-!
# Where a scan fails

A scan comes to every node within reach of its start unless something stops it, so it ends normally
exactly if nothing fails at any of these nodes. What stops it is a refusal of the file system or a
name that cannot be looked up, never a condition that is reported to the user; the same holds of the
search for reducers.

* `Surveyor.Fails`: a failure at a node; `Surveyor.Safe`: nothing fails within reach of a file.
* **`Surveyor.Settled.scan_ok_iff`**: a scan ends normally exactly if nothing within reach fails;
  `Surveyor.Within`, `Surveyor.Settled.scan_error_iff`: the same of scans that fail.
* `Surveyor.Finds`: a reducer within reach of a file; `Surveyor.Settled.mem_scan_iff_finds`: the
  result of a scan.
* `FailsOnly`: the ways in which a computation fails; `FailsOnly.bind`: those of one after another.
* `Surveyor.Settled.failsOnly_scan`, `failsOnly_registry`: the ways in which a scan and the search
  for reducers fail; `Surveyor.Settled.unreported_scan`, `unreported_registry`: never with a report.
-/

namespace ReducerAtlas

open Relation

/-! ## Failures at a node -/

namespace Surveyor

variable {surveyor : Surveyor} {disk : Disk} {excluded : List String} {blocked : List Path}
  {failure : Failure}

/-- **A failure at a node**: the file is there and cannot be read, or its text has a reference that
is followed and one of whose module names cannot be looked up. -/
def Fails (surveyor : Surveyor) (disk : Disk) (node : Node) (failure : Failure) : Prop :=
  (∃ e, disk.readText node.file = .error e ∧ e.cause ≠ .missing ∧ e.cause ≠ .notFolder ∧
    failure = .io e) ∨
  ∃ content, disk.readText node.file = .ok content ∧
    ∃ reference ∈ (Source.Summary.of content).references, reference.admitted node.asked = true ∧
      ∃ specifier ∈ reference.specifiers,
        surveyor.lookup.targets disk node.file specifier surveyor.base = .error failure

theorem fail_mem_specifierSteps {file : Path} {restriction : Option NameSet} {specifier : String} :
    .fail failure ∈ surveyor.specifierSteps disk blocked file restriction specifier ↔
      surveyor.lookup.targets disk file specifier surveyor.base = .error failure := by
  unfold specifierSteps
  cases surveyor.lookup.targets disk file specifier surveyor.base with
  | error e => simp [eq_comm]
  | ok targets =>
    simp only [List.mem_map, reduceCtorEq, iff_false, not_exists, not_and]
    intro target _
    split_ifs <;> simp

theorem fail_mem_referenceSteps {node : Node} {reference : Source.Reference} :
    .fail failure ∈ surveyor.referenceSteps disk blocked node reference ↔
      reference.admitted node.asked = true ∧ ∃ specifier ∈ reference.specifiers,
        surveyor.lookup.targets disk node.file specifier surveyor.base = .error failure := by
  unfold referenceSteps
  split_ifs with h
  · simp [h, List.mem_flatMap, fail_mem_specifierSteps]
  · simp [h]

theorem raises_read_iff {node : Node} :
    (surveyor.read disk excluded blocked node).Raises failure ↔
      surveyor.Fails disk node failure := by
  unfold read Fails Reading.Raises
  cases h : disk.readText node.file with
  | error e =>
    dsimp only
    split_ifs with hcause
    · have hno : ¬ (e.cause ≠ .missing ∧ e.cause ≠ .notFolder) := by tauto
      simpa [Reading.steps] using fun hm hn => absurd ⟨hm, hn⟩ hno
    · rw [not_or] at hcause
      simp [Reading.steps, hcause.1, hcause.2, eq_comm (a := failure)]
  | ok content =>
    simp only [Reading.steps_source, List.mem_flatMap, fail_mem_referenceSteps, reduceCtorEq,
      false_or, false_and, exists_false, Except.ok.injEq, exists_eq_left']

/-! ## Scans that end normally -/

variable {phase : Phase} {stack : List Path} {restriction : Option NameSet} {file found : Path}

/-- All that can be reached from a finished node is finished as well, and nothing fails there. -/
theorem healthy_of_finished {read : Node → Reading} {store : Store} {node x : Node}
    (h : store.Final read) (hnode : (store.find? node).isSome = true) (hx : Reaches read node x) :
    (store.find? x).isSome = true ∧ (read x).Healthy := by
  have hquiet := quiet_of_final h
  have hfound := hquiet.of_reaches hnode hx
  exact ⟨hfound, hquiet.healthy x hfound⟩

/-- The failure that stops a scan is one at some node within reach. -/
theorem Reports.fails (hfind : surveyor.lookup.find disk file = .ok (some found))
    (h : surveyor.Reports disk excluded stack (surveyor.node found restriction)
      (.error failure)) :
    ∃ x, ReflTransGen (surveyor.Imports disk stack) (surveyor.node found restriction) x ∧
      surveyor.Fails disk x failure := by
  have hall : surveyor.node found restriction ∈ disk.nodes (restriction.map NameSet.ofList) :=
    node_mem_nodes (Lookup.isFile_of_find hfind) List.mem_cons_self
  have hleads : ∀ a b, Leads (surveyor.read disk excluded stack) a b →
      b ∈ disk.nodes (restriction.map NameSet.ofList) := mem_nodes_of_leads _
  have hraises := Search.explore_raises hleads disk.nodeBound _ [] hall List.not_mem_nil
    (unseen_nodes_le disk _)
  unfold Reports at h
  generalize Search.explore _ disk.nodeBound _ _ = explored at h hraises
  obtain ⟨x, hx, hraise⟩ := hraises explored.1 failure (Prod.ext rfl h)
  exact ⟨x, reaches_read_iff.mp hx, raises_read_iff.mp hraise⟩

/-- **A scan that has a file to start at ends normally exactly if nothing within reach fails.** -/
theorem Settled.scan_ok_iff (h : surveyor.Settled disk phase)
    (hfind : surveyor.lookup.find disk file = .ok (some found)) (hstack : found ∉ stack) :
    (∃ usage, (surveyor.scan disk phase stack restriction file).outcome = .ok usage) ↔
      ∀ x, ReflTransGen (surveyor.Imports disk stack) (surveyor.node found restriction) x →
        ∀ failure, ¬ surveyor.Fails disk x failure := by
  have hfinal := h.final_storeFor stack
  constructor
  · rintro ⟨usage, hscan⟩ x hx failure hfails
    have hreach : Reaches (surveyor.read disk phase.excluded stack)
      (surveyor.node found restriction) x := reaches_read_iff.mpr hx
    have hraises : (surveyor.read disk phase.excluded stack x).Raises failure :=
      raises_read_iff.mpr hfails
    cases hstore : (phase.storeFor stack).find? (surveyor.node found restriction) with
    | some u => exact (healthy_of_finished hfinal (by simp [hstore]) hreach).2 failure hraises
    | none =>
      obtain ⟨s, -, hm⟩ := scan_of_miss hfind hstack hstore hfinal
      rw [hscan] at hm
      obtain ⟨⟨hend, hnode⟩, -⟩ := hm.of_ok
      exact (healthy_of_finished hend (by simp [hnode]) hreach).2 failure hraises
  · intro hsafe
    have hreports : surveyor.Reports disk phase.excluded stack (surveyor.node found restriction)
        (surveyor.scan disk phase stack restriction file).outcome := h.reports_scan hfind hstack
    cases hout : (surveyor.scan disk phase stack restriction file).outcome with
    | ok usage => exact ⟨usage, rfl⟩
    | error failure =>
      rw [hout] at hreports
      obtain ⟨x, hx, hfails⟩ := hreports.fails hfind
      exact absurd hfails (hsafe x hx failure)

/-- **A node within reach of a scan**: the file stands for one outside the stack, and the node can
be reached from the node of that one. -/
def Within (surveyor : Surveyor) (disk : Disk) (stack : List Path) (restriction : Option NameSet)
    (file : Path) (x : Node) : Prop :=
  ∃ found, surveyor.lookup.find disk file = .ok (some found) ∧ found ∉ stack ∧
    ReflTransGen (surveyor.Imports disk stack) (surveyor.node found restriction) x

/-- **A scan fails exactly if its file cannot be looked up or something within reach fails.** -/
theorem Settled.scan_error_iff (h : surveyor.Settled disk phase) (stack : List Path)
    (restriction : Option NameSet) (file : Path) :
    (∃ failure, (surveyor.scan disk phase stack restriction file).outcome = .error failure) ↔
      (∃ failure, surveyor.lookup.find disk file = .error failure) ∨
        ∃ x, surveyor.Within disk stack restriction file x ∧
          ∃ failure, surveyor.Fails disk x failure := by
  have hnot : ∀ outcome : Except Failure Roster,
      (∃ failure, outcome = .error failure) ↔ ¬ ∃ usage, outcome = .ok usage := by
    intro outcome
    cases outcome <;> simp
  unfold Within
  cases hfind : surveyor.lookup.find disk file with
  | error failure => simp [scan, hfind]
  | ok target =>
    cases target with
    | none => simp [scan, hfind]
    | some found =>
      by_cases hstack : found ∈ stack
      · simp [scan, hfind, hstack]
      · rw [hnot, h.scan_ok_iff hfind hstack]
        simp [hstack]

/-- **Nothing fails within reach of a file**: the file can be looked up, and from the one that it
stands for no node can be reached at which something fails. -/
def Safe (surveyor : Surveyor) (disk : Disk) (file : Path) : Prop :=
  ∃ target, surveyor.lookup.find disk file = .ok target ∧
    ∀ found ∈ target, ∀ x, ReflTransGen (surveyor.Imports disk []) (surveyor.node found none) x →
      ∀ failure, ¬ surveyor.Fails disk x failure

theorem Settled.scan_ok_iff_safe (h : surveyor.Settled disk phase) (file : Path) :
    (∃ usage, (surveyor.scan disk phase [] none file).outcome = .ok usage) ↔
      surveyor.Safe disk file := by
  unfold Safe
  cases hfind : surveyor.lookup.find disk file with
  | error failure => simp [scan, hfind]
  | ok target =>
    cases target with
    | none => simp [scan, hfind]
    | some found =>
      rw [h.scan_ok_iff hfind List.not_mem_nil]
      simp

/-- **A file finds a reducer**: one of those looked for, with a core file within reach of the file
that this one stands for. -/
def Finds (surveyor : Surveyor) (disk : Disk) (file : Path) (r : Reducer) : Prop :=
  r ∈ surveyor.reducers ∧ ∃ found, surveyor.lookup.find disk file = .ok (some found) ∧
    surveyor.Needs disk [] (surveyor.node found none) r

theorem Settled.mem_scan_iff_finds (h : surveyor.Settled disk phase)
    (distinct : (surveyor.reducers.map (·.name)).Nodup) {usage : Roster}
    (hscan : (surveyor.scan disk phase [] none file).outcome = .ok usage) (r : Reducer) :
    r ∈ usage.toList ↔ surveyor.Finds disk file r ∧ r.name ∉ phase.excluded := by
  unfold Finds
  rcases surveyor.scan_cases disk [] none file with ⟨found, hfind, hstack⟩ | ⟨hno, _, _, hempty, hs⟩
  · rw [mem_toList_iff_of_gathers distinct
      (gathers_of_scan hfind hstack (h.final_storeFor []) hscan)]
    simp [hfind, and_assoc, and_comm (a := r.name ∉ _)]
  · rw [hs] at hscan
    rw [hempty usage hscan]
    simpa using fun _ found hfind _ => absurd ⟨found, hfind, List.not_mem_nil⟩ hno

end Surveyor

/-! ## Kinds of failures -/

/-- **A computation fails in no other ways than the given ones.** -/
def FailsOnly {α : Type} (kind : Failure → Prop) (x : Except Failure α) : Prop :=
  ∀ failure, x = .error failure → kind failure

/-- The failure is no report to the user. -/
def Failure.Unreported (failure : Failure) : Prop := ∀ report, failure ≠ .report report

section Kinds

variable {α β : Type} {kind : Failure → Prop} {x : Except Failure α} {disk : Disk}

theorem failsOnly_ok (a : α) : FailsOnly kind (.ok a) := by
  intro failure h
  cases h

theorem failsOnly_error {failure : Failure} (h : kind failure) :
    FailsOnly kind (.error failure : Except Failure α) := by
  intro failure' heq
  cases heq
  exact h

theorem FailsOnly.bind (h : FailsOnly kind x) {f : α → Except Failure β}
    (hf : ∀ a, x = .ok a → FailsOnly kind (f a)) : FailsOnly kind (x >>= f) := by
  cases x with
  | error e => exact failsOnly_error (h e rfl)
  | ok a => exact hf a rfl

theorem FailsOnly.map (h : FailsOnly kind x) (f : α → β) : FailsOnly kind (x.map f) := by
  cases x with
  | error e => exact failsOnly_error (h e rfl)
  | ok a => exact failsOnly_ok (f a)

theorem FailsOnly.bind_eq_report (h : FailsOnly Failure.Unreported x) {f : α → Except Failure β}
    {report : Report} :
    (x >>= f) = .error (.report report) ↔ ∃ a, x = .ok a ∧ f a = .error (.report report) := by
  cases x with
  | error e =>
    refine iff_of_false (fun hr => h e rfl report (Except.error.inj hr)) ?_
    rintro ⟨a, ha, -⟩
    cases ha
  | ok a =>
    constructor
    · exact fun hr => ⟨a, rfl, hr⟩
    · rintro ⟨b, hb, hr⟩
      cases hb
      exact hr

theorem Disk.failsOnly_resolve {p : Path} (hnull : p.hasNull = true → kind (.nullInPath p)) :
    FailsOnly kind (resolve p) := by
  unfold resolve Path.resolve?
  by_cases hp : p.hasNull = true
  · rw [if_pos hp]
    exact failsOnly_error (hnull hp)
  · rw [if_neg hp]
    exact failsOnly_ok _

variable (hio : ∀ e, kind (.io e))

include hio

theorem failsOnly_liftIo (x : Except IoError α) : FailsOnly kind (liftIo x) := by
  cases x with
  | error e => exact failsOnly_error (hio e)
  | ok a => exact failsOnly_ok a

namespace Lookup

variable {lookup : Lookup} {p : Path}

theorem failsOnly_findExtended {extensions : List String}
    (hname : ∀ extension ∈ extensions, p.extend? extension = none → kind (.badName p)) :
    FailsOnly kind (findExtended disk p extensions) := by
  induction extensions with
  | nil => exact failsOnly_ok _
  | cons extension rest ih =>
    obtain ⟨hfirst, hrest⟩ := List.forall_mem_cons.mp hname
    unfold findExtended
    split
    · next hextend => exact failsOnly_error (hfirst hextend)
    · refine (failsOnly_liftIo hio _).bind fun answer _ => ?_
      split
      · exact failsOnly_ok _
      · exact ih hrest

theorem failsOnly_find
    (hname : ∀ extension ∈ lookup.extensions, p.extend? extension = none → kind (.badName p)) :
    FailsOnly kind (lookup.find disk p) := by
  refine (failsOnly_liftIo hio _).bind fun isFile _ => ?_
  split
  · exact failsOnly_ok _
  refine (failsOnly_findExtended hio hname).bind fun extended _ => ?_
  split
  · exact failsOnly_ok _
  refine (failsOnly_liftIo hio _).bind fun isFolder _ => ?_
  split
  · refine (failsOnly_liftIo hio _).bind fun isIndex _ => ?_
    split <;> exact failsOnly_ok _
  · exact failsOnly_ok _

theorem failsOnly_targets {source base : Path} {specifier : String}
    (hname : ∀ p ∈ candidates source specifier base, ∀ extension ∈ lookup.extensions,
      p.extend? extension = none → kind (.badName p)) :
    FailsOnly kind (lookup.targets disk source specifier base) := by
  unfold targets
  generalize candidates source specifier base = paths at hname
  suffices h : ∀ found, FailsOnly kind (lookup.findAll disk found paths) from h []
  induction paths with
  | nil => exact fun found => failsOnly_ok found
  | cons p rest ih =>
    obtain ⟨hfirst, hrest⟩ := List.forall_mem_cons.mp hname
    intro found
    unfold findAll
    refine (failsOnly_find hio hfirst).bind fun target _ => ?_
    split
    · exact ih hrest _
    · exact ih hrest _

end Lookup

/-- What fails at a node is a refusal, or fails as the lookups there do. -/
theorem Surveyor.Fails.of_kind {surveyor : Surveyor} {node : Node} {failure : Failure}
    (h : surveyor.Fails disk node failure)
    (htargets : ∀ content, disk.readText node.file = .ok content →
      ∀ reference ∈ (Source.Summary.of content).references, reference.admitted node.asked = true →
        ∀ specifier ∈ reference.specifiers,
          FailsOnly kind (surveyor.lookup.targets disk node.file specifier surveyor.base)) :
    kind failure := by
  obtain ⟨e, -, -, -, rfl⟩ | ⟨content, hcontent, reference, href, hadmitted, specifier, hspecifier,
    herror⟩ := h
  · exact hio e
  · exact htargets content hcontent reference href hadmitted specifier hspecifier failure herror

theorem Disk.failsOnly_entriesBelow {refused : String → Bool} {base : Option Path} {folder : Path}
    (hfolder : FailsOnly kind (resolve folder)) (hbase : ∀ b ∈ base, FailsOnly kind (resolve b)) :
    FailsOnly kind (disk.entriesBelow refused base folder) := by
  refine hfolder.bind fun start _ => ?_
  cases disk.list start with
  | error e =>
    cases base with
    | none => exact failsOnly_error (hio e)
    | some c => exact (hbase c rfl).bind fun _ _ => failsOnly_error (hio e)
  | ok inner =>
    cases base with
    | none => exact failsOnly_ok _
    | some c => exact (hbase c rfl).bind fun _ _ => failsOnly_ok _

/-- What ends a listing early is a path without absolute form, a refusal or a failed test. -/
theorem Disk.failsOnly_listingBy {test : Path → Except Failure Unit} {refused : String → Bool}
    {base : Option Path} {folder : Path} (htest : ∀ p, FailsOnly kind (test p))
    (hfolder : FailsOnly kind (resolve folder)) (hbase : ∀ b ∈ base, FailsOnly kind (resolve b)) :
    FailsOnly kind (disk.listingBy test refused base folder).ending := by
  have hentries : FailsOnly kind (disk.entriesBelow refused base folder) :=
    failsOnly_entriesBelow hio hfolder hbase
  unfold listingBy
  cases hall : disk.entriesBelow refused base folder with
  | error failure => exact failsOnly_error (hentries failure hall)
  | ok entries =>
    intro failure hfailure
    obtain ⟨-, x, -, -, -, hx⟩ := Listing.ending_ofEntries_eq_error_iff.mp hfailure
    exact htest _ failure hx

theorem Area.failsOnly_listing {area : Area} {folder : Path}
    (hblind : area.blind = true → kind .patternNotText)
    (hfolder : FailsOnly kind (Disk.resolve folder))
    (hbase : ∀ b ∈ area.base, FailsOnly kind (Disk.resolve b)) :
    FailsOnly kind (area.listing disk folder).ending := by
  unfold listing
  split_ifs with h
  · exact Disk.failsOnly_listingBy hio (fun _ => failsOnly_error (hblind h)) hfolder hbase
  · refine Disk.failsOnly_listingBy hio (fun p failure hfailure => ?_) hfolder hbase
    obtain ⟨-, rfl⟩ := Disk.visit_eq_error_iff.mp hfailure
    exact hio _

theorem failsOnly_readSummary (file : Path) : FailsOnly kind (readSummary disk file) :=
  (failsOnly_liftIo hio _).bind fun _ _ => failsOnly_ok _

theorem failsOnly_sagaClaims (files : List Path) : FailsOnly kind (sagaClaims disk files) := by
  induction files with
  | nil => exact failsOnly_ok _
  | cons file rest ih =>
    refine (failsOnly_readSummary hio file).bind fun summary _ => ih.bind fun others _ => ?_
    split <;> exact failsOnly_ok _

theorem failsOnly_definedBy (rule : SagaRule) (file : Path) :
    FailsOnly kind (definedBy disk rule file) := by
  refine (failsOnly_readSummary hio file).bind fun summary _ => ?_
  split
  · exact failsOnly_ok _
  · refine FailsOnly.bind ?_ fun _ _ => failsOnly_ok _
    unfold sagaBeside
    split
    · exact failsOnly_ok _
    · refine (failsOnly_liftIo hio _).bind fun answer _ => ?_
      split <;> exact failsOnly_ok _

theorem failsOnly_definedIn (rule : SagaRule) (files : List Path) :
    FailsOnly kind (definedIn disk rule files) := by
  induction files with
  | nil => exact failsOnly_ok _
  | cons file rest ih =>
    exact (failsOnly_definedBy hio rule file).bind fun _ _ => ih.bind fun _ _ => failsOnly_ok _

theorem failsOnly_definitions {area : Area} (sagaName : Option String) {folder : Path}
    (hlisted : FailsOnly kind (area.listing disk folder).ending) :
    FailsOnly kind (definitions disk area sagaName folder) := by
  have hdefined : ∀ rule, FailsOnly kind (do
      let found ← definedIn disk rule (area.listing disk folder).files
      (area.listing disk folder).ending
      return found) := fun rule =>
    (failsOnly_definedIn hio rule _).bind fun _ _ => hlisted.bind fun _ _ => failsOnly_ok _
  cases sagaName with
  | some name => exact hdefined (.fixed name)
  | none =>
    have hclaims : FailsOnly kind (sagaNames disk area folder) :=
      (failsOnly_sagaClaims hio _).bind fun _ _ => hlisted.bind fun _ _ => failsOnly_ok _
    exact (hclaims.map SagaRule.claimed).bind fun rule _ => hdefined rule

/-- **The search for reducers** fails for a refusal, or as the listings of the folders do. -/
theorem failsOnly_registry {area : Area} (sagaName : Option String) {folders : List Path}
    (hlisted : ∀ folder ∈ folders, FailsOnly kind (area.listing disk folder).ending) :
    FailsOnly kind (registry disk area sagaName folders).2 := by
  unfold registry
  suffices h : ∀ roster, FailsOnly kind (registryFrom disk area sagaName roster folders).2 from h _
  induction folders with
  | nil => exact fun roster => failsOnly_ok roster
  | cons folder rest ih =>
    obtain ⟨hfirst, hrest⟩ := List.forall_mem_cons.mp hlisted
    intro roster
    have hfound := failsOnly_definitions hio sagaName hfirst
    unfold registryFrom
    cases hdefs : definitions disk area sagaName folder with
    | error e => exact failsOnly_error (hfound e hdefs)
    | ok found => exact ih hrest _

end Kinds

/-- **A scan** fails as the lookup of its file does, or as something within reach does. -/
theorem Surveyor.Settled.failsOnly_scan {surveyor : Surveyor} {disk : Disk} {phase : Phase}
    {stack : List Path} {restriction : Option NameSet} {file : Path} {kind : Failure → Prop}
    (h : surveyor.Settled disk phase) (hfind : FailsOnly kind (surveyor.lookup.find disk file))
    (hfails : ∀ x, surveyor.Within disk stack restriction file x →
      ∀ failure, surveyor.Fails disk x failure → kind failure) :
    FailsOnly kind (surveyor.scan disk phase stack restriction file).outcome := by
  intro failure hfailure
  cases hfound : surveyor.lookup.find disk file with
  | error e =>
    simp only [scan, hfound, Except.error.injEq] at hfailure
    exact hfind failure (hfailure ▸ hfound)
  | ok target =>
    cases target with
    | none => simp [scan, hfound] at hfailure
    | some found =>
      by_cases hstack : found ∈ stack
      · simp [scan, hfound, hstack] at hfailure
      · have hreports : surveyor.Reports disk phase.excluded stack
            (surveyor.node found restriction)
            (surveyor.scan disk phase stack restriction file).outcome :=
          h.reports_scan hfound hstack
        rw [hfailure] at hreports
        obtain ⟨x, hx, hfail⟩ := hreports.fails hfound
        exact hfails x ⟨found, hfound, hstack, hx⟩ failure hfail

/-! ## No reports -/

section Unreported

variable {disk : Disk}

theorem unreported_io (e : IoError) : (Failure.io e).Unreported := by
  simp [Failure.Unreported]

theorem Area.unreported_listing (area : Area) (folder : Path) :
    FailsOnly Failure.Unreported (area.listing disk folder).ending := by
  have hresolve : ∀ p, FailsOnly Failure.Unreported (Disk.resolve p) := fun p =>
    Disk.failsOnly_resolve fun _ => by simp [Failure.Unreported]
  exact failsOnly_listing unreported_io (fun _ => by simp [Failure.Unreported]) (hresolve folder)
    fun b _ => hresolve b

/-- **The search for reducers ends with no report.** -/
theorem unreported_registry (area : Area) (sagaName : Option String) (folders : List Path) :
    FailsOnly Failure.Unreported (registry disk area sagaName folders).2 :=
  failsOnly_registry unreported_io sagaName fun folder _ => area.unreported_listing folder

/-- **A scan ends with no report.** -/
theorem Surveyor.Settled.unreported_scan {surveyor : Surveyor} {phase : Phase}
    (h : surveyor.Settled disk phase) (file : Path) :
    FailsOnly Failure.Unreported (surveyor.scan disk phase [] none file).outcome := by
  have hname : ∀ p, (Failure.badName p).Unreported := by simp [Failure.Unreported]
  refine h.failsOnly_scan (Lookup.failsOnly_find unreported_io fun _ _ _ => hname file) ?_
  intro x _ failure hfails
  refine hfails.of_kind unreported_io fun _ _ _ _ _ _ _ => ?_
  exact Lookup.failsOnly_targets unreported_io fun p _ _ _ _ => hname p

end Unreported

end ReducerAtlas
