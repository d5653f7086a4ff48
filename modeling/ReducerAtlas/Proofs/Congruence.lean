import ReducerAtlas.Proofs.Count
import ReducerAtlas.Proofs.Phase
import ReducerAtlas.Proofs.Stages

/-!
# Surveys that see the same

What a survey does depends on what it looks at and on nothing else of the disk: the reducers of the
reducer folders, the containers, the files that stand for them, and the readings of the nodes within
reach. Two disks that agree on these give the same survey, although the number of levels of a visit
is taken from the whole disk.

* `Search.takeSteps_congr`: the same steps with two ways to visit a node.
* `Search.visit_of_le`: levels beyond the number of unopened nodes change nothing.
* `Search.visit_congr`: a visit depends on the readings within reach alone.
* `Settings.Visits`: the nodes that a survey comes to; `Settings.SeesAlike`: two disks that a survey
  cannot tell apart.
* **`survey_congr`**: it gives the same on both.
-/

namespace ReducerAtlas

open Relation

/-! ## Visits -/

namespace Search

open Ledger

variable {read read' : Node → Reading} {node start : Node} {s : Search} {all : List Node}
  {steps : List Step}

/-- Two ways to visit a node that agree on the states that come up are the same along all steps. -/
theorem takeSteps_congr {visit visit' : Node → Search → Outcome} {P : Search → Prop}
    (htell : ∀ s note, P s → P (s.tell note))
    (hlink : ∀ s k s', P s → s.link node k = .ok s' → P s')
    (hvisit : ∀ child, .follow child ∈ steps → ∀ s, P s → ¬ s.ledger.Known child →
      visit child s = visit' child s ∧ P (visit child s).1) (depth : Nat) (found : Roster)
    (h : P s) :
    takeSteps visit depth node steps found s = takeSteps visit' depth node steps found s := by
  induction steps generalizing found s with
  | nil => rfl
  | cons step rest ih =>
    have hrest := fun found {s} =>
      ih (s := s) (fun child hchild => hvisit child (List.mem_cons_of_mem _ hchild)) found
    cases step with
    | notAskedFor specifiers => exact hrest _ (htell _ _ h)
    | blocked target => exact hrest _ (htell _ _ h)
    | fail failure => rfl
    | follow child =>
      simp only [takeSteps]
      cases hstore : s.ledger.store.find? child with
      | some usage => exact hrest _ h
      | none =>
        cases hmark : s.ledger.marks.get? child with
        | some mark =>
          dsimp only
          cases hlinked : (s.tell (.cycle depth child.file)).link node mark.number with
          | error failure => rfl
          | ok s' => exact hrest _ (hlink _ _ _ (htell _ _ h) hlinked)
        | none =>
          obtain ⟨hsame, hkept⟩ := hvisit child List.mem_cons_self s h
            (by simp [Known, Marked, hmark, hstore])
          rw [← hsame]
          generalize visit child s = outcome at hkept
          obtain ⟨s', result⟩ := outcome
          cases result with
          | error failure => rfl
          | ok usage =>
            dsimp only
            cases s'.ledger.marks.get? child with
            | none => rfl
            | some mark =>
              dsimp only
              cases hlinked : s'.link node mark.low with
              | error failure => rfl
              | ok s'' => exact hrest _ (hlink _ _ _ hkept hlinked)

theorem opened_of_link {k : Int} {s' : Search} (h : s.link node k = .ok s') :
    s'.ledger.opened = s.ledger.opened := by
  obtain ⟨L, hledger, rfl⟩ := link_eq_ok h
  exact (link_ok hledger).1

theorem opened_subset_visit (read : Node → Reading) (fuel depth : Nat)
    (hnew : ¬ s.ledger.Known node) :
    s.ledger.opened ⊆ (visit read fuel depth node s).1.ledger.opened := by
  refine visit_keeps (P := fun s' => s.ledger.opened ⊆ s'.ledger.opened) (fun _ _ _ h => h)
    (fun _ _ _ _ h hlink => (opened_of_link hlink).symm ▸ h) (fun s' n found h => ?_)
    (fun s' n depth _ _ hnew h => ?_) fuel depth le_rfl .refl hnew (List.Subset.refl _)
  · rwa [close_fst, (Ledger.close_fst _ _ _).1]
  · rw [ledger_opening, opened_enter (mt .inl hnew)]
    exact List.Subset.trans h (List.subset_append_left _ _)

theorem unseen_visit_le (read : Node → Reading) (fuel depth : Nat) (all : List Node)
    (hnew : ¬ s.ledger.Known node) :
    unseen all (visit read fuel depth node s).1.ledger.opened ≤ unseen all s.ledger.opened :=
  unseen_le (opened_subset_visit read fuel depth hnew)

theorem unseen_enter_lt (hall : node ∈ all) (hnode : ¬ s.ledger.Marked node) :
    unseen all (s.ledger.enter node).opened < unseen all s.ledger.opened := by
  refine Nat.lt_of_le_of_lt (unseen_le ?_) (unseen_cons_lt hall (mt mem_opened_iff.mp hnode))
  rw [opened_enter hnode]
  exact fun n hn => by simpa [or_comm] using hn

/-- **Levels beyond the number of unopened nodes change nothing.** -/
theorem visit_of_le (closed : ∀ a ∈ all, ∀ b, Leads read a b → b ∈ all) {fuel fuel' : Nat}
    (hle : fuel ≤ fuel') (depth : Nat) (node : Node) (s : Search) (hall : node ∈ all)
    (hnode : ¬ s.ledger.Marked node) (hfuel : unseen all s.ledger.opened ≤ fuel) :
    visit read fuel depth node s = visit read fuel' depth node s := by
  induction fuel generalizing fuel' depth node s with
  | zero =>
    have hlt := unseen_enter_lt hall hnode
    omega
  | succ fuel ih =>
    obtain ⟨rest, rfl⟩ : ∃ rest, fuel' = rest + 1 := ⟨fuel' - 1, by omega⟩
    have hlt := unseen_enter_lt hall hnode
    simp only [visit]
    cases hread : read node with
    | absent => rfl
    | broken failure => rfl
    | source found steps =>
      dsimp only
      rw [takeSteps_congr (P := fun s' => unseen all s'.ledger.opened ≤ fuel) (fun _ _ h => h)
        (fun _ _ _ h hlink => (opened_of_link hlink).symm ▸ h) ?_ depth .empty ?_]
      · intro child hchild s' hs' hnew
        have hlead : Leads read node child := by
          rw [Leads, hread]
          exact hchild
        have hmem : child ∈ all := closed node hall child hlead
        refine ⟨ih (Nat.le_of_succ_le_succ hle) _ child s' hmem (mt .inl hnew) hs', ?_⟩
        exact Nat.le_trans (unseen_visit_le read fuel _ all hnew) hs'
      · change unseen all (s.ledger.enter node).opened ≤ fuel
        omega

/-- **A visit depends on the readings within reach alone.** -/
theorem visit_congr (h : ∀ x, Reaches read start x → read x = read' x) (fuel depth : Nat)
    (node : Node) (hnode : Reaches read start node) (s : Search) :
    visit read fuel depth node s = visit read' fuel depth node s := by
  induction fuel generalizing depth node s with
  | zero => rfl
  | succ fuel ih =>
    simp only [visit, ← h node hnode]
    cases hread : read node with
    | absent => rfl
    | broken failure => rfl
    | source found steps =>
      dsimp only
      rw [takeSteps_congr (P := fun _ => True) (fun _ _ h => h) (fun _ _ _ h _ => h) ?_ depth .empty
        trivial]
      intro child hchild s' _ _
      have hlead : Leads read node child := by
        rw [Leads, hread]
        exact hchild
      exact ⟨ih _ child (hnode.tail hlead) s', trivial⟩

end Search

/-! ## Scans -/

namespace Surveyor

variable {surveyor : Surveyor} {disk disk' : Disk} {file found : Path} {stack : List Path}
  {excluded : List String} {restriction : Option NameSet} {phase : Phase}

/-- The visit that a scan begins needs no more levels than the disk has nodes. -/
theorem visit_eq_of_nodeBound_le (hfind : surveyor.lookup.find disk file = .ok (some found))
    {fuel : Nat} (hfuel : disk.nodeBound ≤ fuel) (depth : Nat) :
    Search.visit (surveyor.read disk phase.excluded stack) disk.nodeBound depth
        (surveyor.node found restriction) (phase.begin stack) =
      Search.visit (surveyor.read disk phase.excluded stack) fuel depth
        (surveyor.node found restriction) (phase.begin stack) := by
  have hall : surveyor.node found restriction ∈ disk.nodes (restriction.map NameSet.ofList) :=
    node_mem_nodes (Lookup.isFile_of_find hfind) List.mem_cons_self
  refine Search.visit_of_le (fun a _ b => mem_nodes_of_leads _ a b) hfuel depth _ _ hall ?_
    (unseen_nodes_le disk _)
  simp [Phase.begin, Ledger.Marked, Table.get?]

/-- **A scan depends on the file it starts at and on the readings within reach alone.** -/
theorem scan_congr (hfind : surveyor.lookup.find disk file = surveyor.lookup.find disk' file)
    (hread : ∀ found, surveyor.lookup.find disk file = .ok (some found) →
      ∀ x, ReflTransGen (surveyor.Imports disk stack) (surveyor.node found restriction) x →
        surveyor.read disk phase.excluded stack x = surveyor.read disk' phase.excluded stack x) :
    surveyor.scan disk phase stack restriction file =
      surveyor.scan disk' phase stack restriction file := by
  unfold scan
  rw [← hfind]
  cases htarget : surveyor.lookup.find disk file with
  | error failure => rfl
  | ok target =>
    cases target with
    | none => rfl
    | some found =>
      have hreach : ∀ x, Reaches (surveyor.read disk phase.excluded stack)
          (surveyor.node found restriction) x →
          surveyor.read disk phase.excluded stack x = surveyor.read disk' phase.excluded stack x :=
        fun x hx => hread found htarget x (reaches_read_iff.mp hx)
      -- both visits are compared at a number of levels that is enough for either
      have hvisit : Search.visit (surveyor.read disk phase.excluded stack) disk.nodeBound
            stack.length (surveyor.node found restriction) (phase.begin stack) =
          Search.visit (surveyor.read disk' phase.excluded stack) disk'.nodeBound
            stack.length (surveyor.node found restriction) (phase.begin stack) := by
        rw [visit_eq_of_nodeBound_le htarget (Nat.le_max_left _ disk'.nodeBound),
          Search.visit_congr hreach _ _ _ .refl,
          ← visit_eq_of_nodeBound_le (hfind ▸ htarget) (Nat.le_max_right disk.nodeBound _)]
      dsimp only
      rw [hvisit]

/-- A scan of the file cannot tell two disks apart: it starts at the same file, and what stands at
the nodes within reach is the same. -/
structure SameFrom (surveyor : Surveyor) (disk disk' : Disk) (file : Path) : Prop where
  find_eq : surveyor.lookup.find disk file = surveyor.lookup.find disk' file
  read_eq : ∀ found, surveyor.lookup.find disk file = .ok (some found) →
    ∀ x, ReflTransGen (surveyor.Imports disk []) (surveyor.node found none) x →
      ∀ excluded, surveyor.read disk excluded [] x = surveyor.read disk' excluded [] x

theorem SameFrom.scan (h : surveyor.SameFrom disk disk' file) (phase : Phase) :
    surveyor.scan disk phase [] none file = surveyor.scan disk' phase [] none file :=
  scan_congr h.find_eq fun found hfound x hx => h.read_eq found hfound x hx _

end Surveyor

/-! ## Surveys -/

section Scans

variable {surveyor : Surveyor} {disk disk' : Disk} {area : Area}

theorem scanFiles_congr {files : List Path} (h : ∀ f ∈ files, surveyor.SameFrom disk disk' f)
    (state : SurveyState) :
    scanFiles surveyor disk state files = scanFiles surveyor disk' state files := by
  induction files generalizing state with
  | nil => rfl
  | cons file rest ih =>
    obtain ⟨hfile, hrest⟩ := List.forall_mem_cons.mp h
    simp only [scanFiles, hfile.scan state.phase, ih hrest]

/-- Two disks offer the same containers below a folder, and their listings end alike. -/
def Area.OffersAlike (area : Area) (disk disk' : Disk) (folder : Path) : Prop :=
  (area.listing disk folder).files.filter isContainer =
      (area.listing disk' folder).files.filter isContainer ∧
    (area.listing disk folder).ending = (area.listing disk' folder).ending

theorem scanFolders_congr {folders : List Path}
    (hoffered : ∀ folder ∈ folders, area.OffersAlike disk disk' folder)
    (h : ∀ f, area.Offers disk folders f → surveyor.SameFrom disk disk' f) (state : SurveyState) :
    scanFolders surveyor disk area state folders =
      scanFolders surveyor disk' area state folders := by
  induction folders generalizing state with
  | nil => rfl
  | cons folder rest ih =>
    obtain ⟨⟨hfiles, hending⟩, hothers⟩ := List.forall_mem_cons.mp hoffered
    simp only [Area.offers_cons, or_imp, forall_and] at h
    simp only [scanFolders, ← hfiles, ← hending, scanFiles_congr h.1, ih hothers h.2]

theorem registryFrom_congr {sagaName : Option String} {folders : List Path}
    (h : ∀ folder ∈ folders,
      definitions disk area sagaName folder = definitions disk' area sagaName folder)
    (roster : Roster) :
    registryFrom disk area sagaName roster folders =
      registryFrom disk' area sagaName roster folders := by
  induction folders generalizing roster with
  | nil => rfl
  | cons folder rest ih =>
    obtain ⟨hfolder, hrest⟩ := List.forall_mem_cons.mp h
    simp only [registryFrom, hfolder, ih hrest]

end Scans

/-- **The nodes that a survey comes to**: those within reach of the files that it scans. -/
def Settings.Visits (settings : Settings) (disk : Disk) (x : Node) : Prop :=
  ∃ file found, settings.Starts disk file ∧
    (settings.surveyor []).lookup.find disk file = .ok (some found) ∧
      ReflTransGen ((settings.surveyor []).Imports disk []) ((settings.surveyor []).node found none)
        x

/-- Nodes that hold all starts of a survey and lead to no others are all that it comes to. -/
theorem Settings.Visits.mem {settings : Settings} {disk : Disk} {x : Node} {nodes : List Node}
    (hx : settings.Visits disk x)
    (hstart : ∀ file found, settings.Starts disk file →
      (settings.surveyor []).lookup.find disk file = .ok (some found) →
        (settings.surveyor []).node found none ∈ nodes)
    (hstep : ∀ a ∈ nodes, ∀ step ∈ ((settings.surveyor []).read disk [] [] a).steps,
      ∀ b, step = .follow b → b ∈ nodes) : x ∈ nodes := by
  obtain ⟨file, found, hfile, hfound, hreach⟩ := hx
  induction hreach with
  | refl => exact hstart file found hfile hfound
  | tail _ hbc ih => exact hstep _ ih _ (Surveyor.leads_read_iff.mpr hbc) _ rfl

/-- **A survey cannot tell two disks apart**: the reducer folders define the same reducers, the same
containers are offered, the files to scan stand for the same files, and what stands at the nodes
that the survey comes to is the same. -/
structure Settings.SeesAlike (settings : Settings) (disk disk' : Disk) : Prop where
  definitions_eq : ∀ folder ∈ settings.reducerFolders,
    definitions disk settings.area settings.sagaName folder =
      definitions disk' settings.area settings.sagaName folder
  isFile_eq : disk.isFile settings.mainApp = disk'.isFile settings.mainApp
  offered_eq : ∀ folder ∈ settings.containerFolders, settings.area.OffersAlike disk disk' folder
  find_eq : ∀ file, settings.Starts disk file →
    (settings.surveyor []).lookup.find disk file = (settings.surveyor []).lookup.find disk' file
  read_eq : ∀ x, settings.Visits disk x → ∀ reducers excluded,
    (settings.surveyor reducers).read disk excluded [] x =
      (settings.surveyor reducers).read disk' excluded [] x

section Survey

variable {disk disk' : Disk} {settings : Settings}

theorem Settings.SeesAlike.sameFrom (h : settings.SeesAlike disk disk') (reducers : List Reducer)
    {file : Path} (hfile : settings.Starts disk file) :
    (settings.surveyor reducers).SameFrom disk disk' file where
  find_eq := h.find_eq file hfile
  read_eq found hfound x hx := h.read_eq x ⟨file, found, hfile, hfound, hx⟩ reducers

theorem surveyUses_congr (h : settings.SeesAlike disk disk') (reducers : List Reducer) :
    surveyUses disk settings reducers = surveyUses disk' settings reducers := by
  have hmain := (h.sameFrom reducers (.inl rfl)).scan { caching := !settings.cacheDisabled }
  have hfolders := scanFolders_congr h.offered_eq fun f hf => h.sameFrom reducers (.inr hf)
  simp only [surveyUses, hmain, hfolders]

/-- **A survey gives the same on two disks that it cannot tell apart**: the same notes, and the same
atlas or the same failure. -/
theorem survey_congr (h : settings.SeesAlike disk disk') :
    survey disk settings = survey disk' settings := by
  have hregistry : registry disk settings.area settings.sagaName settings.reducerFolders =
      registry disk' settings.area settings.sagaName settings.reducerFolders :=
    registryFrom_congr h.definitions_eq .empty
  simp only [survey, hregistry, h.isFile_eq, surveyUses_congr h]

end Survey

end ReducerAtlas
