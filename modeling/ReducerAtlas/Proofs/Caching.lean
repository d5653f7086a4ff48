import ReducerAtlas.Artifact.GlobalModule
import ReducerAtlas.Artifact.MapFile
import ReducerAtlas.Proofs.Count
import ReducerAtlas.Proofs.Failing
import ReducerAtlas.Proofs.Stages

/-!
# Surveys that keep no results

A survey that keeps the results of its scans reads fewer files than one that does not, and counts
fewer uses. It still counts one if there is any: what a scan takes from the store was counted when
it was stored. So both surveys chart the same, and both fail alike.

* `Surveyor.Counted`: what the results of a phase hold was counted;
  `Surveyor.Counted.scan`: a scan keeps it, and counts nothing exactly if it finds nothing.
* `SurveyState.Counts`: the same of the scans of a survey; `SurveyState.Counts.scanFolders`.
* `SurveyState.Alike`: two states with the same containers; `SurveyState.Alike.scanFolders`: scans
  keep them alike.
* `Settings.Unused`: a project none of whose reducers is used.
* **`survey_cacheDisabled`**: keeping results changes neither an atlas nor a failure.
-/

namespace ReducerAtlas

open Relation

/-! ## Counted results -/

namespace Surveyor

variable {surveyor : Surveyor} {disk : Disk} {phase : Phase} {file found : Path} {usage : Roster}

/-- Where the results of a phase hold a use, something was counted. -/
def Counted (surveyor : Surveyor) (disk : Disk) (phase : Phase) : Prop :=
  ∀ n, (phase.store.find? n).isSome = true → (surveyor.read disk phase.excluded [] n).uses ≠ [] →
    phase.usesFound ≠ 0

theorem counted_of_store_eq_nil (h : phase.store = []) : surveyor.Counted disk phase := by
  intro n hn
  simp [h, Store.find?] at hn

theorem isSome_of_storeFor {stack : List Path} {n : Node}
    (h : ((phase.storeFor stack).find? n).isSome = true) : (phase.store.find? n).isSome = true := by
  unfold Phase.storeFor at h
  split_ifs at h
  · exact h
  · cases h

theorem Counted.eq_nil_of_hit (hc : surveyor.Counted disk phase)
    (hsettled : surveyor.Settled disk phase) {node : Node}
    (hhit : (phase.storeFor []).find? node = some usage) (hzero : phase.usesFound = 0) :
    usage.toList = [] := by
  have hfinal := hsettled.final_storeFor []
  refine List.eq_nil_iff_forall_not_mem.mpr fun r hr => ?_
  obtain ⟨x, hx, hu⟩ := (hfinal.gathers hhit).sound r hr
  have hfinished := (healthy_of_finished hfinal (by simp [hhit]) hx).1
  exact hc x (isSome_of_storeFor hfinished) (List.ne_nil_of_mem hu) hzero

section Miss

variable {s : Search} {node : Node}

/-- A use at a node that a visit leaves finished was counted, by the visit or before it. -/
theorem Counted.of_finished (hc : surveyor.Counted disk phase)
    (ha : Search.Accounts (surveyor.read disk phase.excluded []) node (phase.storeFor [])
      phase.filesRead phase.usesFound s) {n : Node}
    (hn : (s.ledger.store.find? n).isSome = true)
    (huses : (surveyor.read disk phase.excluded [] n).uses ≠ []) : s.usesFound ≠ 0 := by
  rw [ha.usesFound_eq]
  rcases ha.finished n hn with hbefore | hopened
  · have := hc n (isSome_of_storeFor hbefore) huses
    omega
  · have htally : tally (surveyor.read disk phase.excluded []) s.ledger.opened ≠ 0 := fun hzero =>
      huses (tally_eq_zero_iff.mp hzero n hopened)
    omega

theorem Counted.after (hc : surveyor.Counted disk phase)
    (ha : Search.Accounts (surveyor.read disk phase.excluded []) node (phase.storeFor [])
      phase.filesRead phase.usesFound s) : surveyor.Counted disk (phase.after [] s) := by
  intro n hn huses
  unfold Phase.after at hn
  split_ifs at hn with hshares
  · exact hc.of_finished ha hn huses
  · have hbefore := hc n hn huses
    have hcount := ha.usesFound_eq
    simp only [Phase.after]
    omega

theorem Counted.usesFound_eq_zero_iff (hc : surveyor.Counted disk phase)
    (ha : Search.Accounts (surveyor.read disk phase.excluded []) node (phase.storeFor [])
      phase.filesRead phase.usesFound s)
    (hfinal : s.ledger.store.Final (surveyor.read disk phase.excluded []))
    (hnode : s.ledger.store.find? node = some usage) :
    s.usesFound = 0 ↔ phase.usesFound = 0 ∧ usage.toList = [] := by
  have hgathers := hfinal.gathers hnode
  constructor
  · intro hzero
    have hcount := ha.usesFound_eq
    refine ⟨by omega, List.eq_nil_iff_forall_not_mem.mpr fun r hr => ?_⟩
    obtain ⟨x, hx, hu⟩ := hgathers.sound r hr
    have hfinished := (healthy_of_finished hfinal (by simp [hnode]) hx).1
    exact hc.of_finished ha hfinished (List.ne_nil_of_mem hu) hzero
  · rintro ⟨hbefore, hempty⟩
    have htally : tally (surveyor.read disk phase.excluded []) s.ledger.opened = 0 := by
      refine tally_eq_zero_iff.mpr fun n hn => List.eq_nil_iff_forall_not_mem.mpr fun r hr => ?_
      have hname := hgathers.complete n (ha.reaches n hn) r hr
      simp [Roster.names, hempty] at hname
    rw [ha.usesFound_eq, hbefore, htally]

end Miss

/-- **A scan counts nothing exactly if it finds nothing**, and leaves its results counted. -/
theorem Counted.scan (hc : surveyor.Counted disk phase) (hsettled : surveyor.Settled disk phase)
    (hscan : (surveyor.scan disk phase [] none file).outcome = .ok usage) :
    surveyor.Counted disk (surveyor.scan disk phase [] none file).phase ∧
      ((surveyor.scan disk phase [] none file).phase.usesFound = 0 ↔
        phase.usesFound = 0 ∧ usage.toList = []) := by
  rcases surveyor.scan_cases disk [] none file with ⟨found, hfind, hstack⟩ | ⟨-, _, _, hempty, hs⟩
  · cases hstore : (phase.storeFor []).find? (surveyor.node found none) with
    | some u =>
      rw [scan_of_hit hfind hstack hstore] at hscan ⊢
      cases hscan
      exact ⟨hc, fun hzero => ⟨hzero, hc.eq_nil_of_hit hsettled hstore hzero⟩, fun h => h.1⟩
    | none =>
      have ha := Search.accounts_top hstore (surveyor.read disk phase.excluded []) disk.nodeBound 0
      have htop := Search.visit_top (s := phase.begin []) rfl (hsettled.final_storeFor []) hstore
        disk.nodeBound 0
      rw [scan_eq_visit hfind hstack hstore] at hscan ⊢
      dsimp only [List.length_nil] at hscan ⊢
      generalize Search.visit _ disk.nodeBound _ _ _ = visited at ha htop hscan ⊢
      obtain ⟨s, outcome⟩ := visited
      cases hscan
      obtain ⟨⟨hfinal, hnode⟩, -⟩ := htop.of_ok
      exact ⟨hc.after ha, hc.usesFound_eq_zero_iff ha hfinal hnode⟩
  · rw [hs] at hscan ⊢
    rw [hempty usage hscan]
    exact ⟨hc, by simp⟩

end Surveyor

/-! ## The scans of a survey -/

namespace SurveyState

variable {surveyor : Surveyor} {disk : Disk} {excluded : List String} {files : Path → Prop}
  {more folders : List Path} {state state' : SurveyState} {area : Area}

/-- **The counter of a survey is right for some files**: it is zero exactly if none of them finds
more than what is excluded. -/
structure Counts (surveyor : Surveyor) (disk : Disk) (excluded : List String) (files : Path → Prop)
    (state : SurveyState) : Prop where
  settled : surveyor.Settled disk state.phase
  counted : surveyor.Counted disk state.phase
  excluded_eq : state.phase.excluded = excluded
  usesFound_iff : state.phase.usesFound = 0 ↔
    ∀ f, files f → ∀ r, surveyor.Finds disk f r → r.name ∈ excluded

theorem counts_fresh (surveyor : Surveyor) (disk : Disk) (excluded : List String) (caching : Bool) :
    Counts surveyor disk excluded (fun _ => False)
      ⟨{ excluded := excluded, caching := caching }, []⟩ where
  settled := Surveyor.settled_of_store_eq_nil rfl
  counted := Surveyor.counted_of_store_eq_nil rfl
  excluded_eq := rfl
  usesFound_iff := by simp

theorem Counts.scan (h : Counts surveyor disk excluded files state)
    (distinct : (surveyor.reducers.map (·.name)).Nodup) {file : Path} {usage : Roster}
    (hscan : (surveyor.scan disk state.phase [] none file).outcome = .ok usage)
    (containers : List Container) :
    Counts surveyor disk excluded (fun f => files f ∨ f = file)
      ⟨(surveyor.scan disk state.phase [] none file).phase, containers⟩ := by
  obtain ⟨hsettled, hexcluded⟩ := h.settled.answer { file := file }
  obtain ⟨hcounted, hzero⟩ := h.counted.scan h.settled hscan
  have hmem := h.settled.mem_scan_iff_finds distinct hscan
  refine ⟨hsettled, hcounted, hexcluded.trans h.excluded_eq, ?_⟩
  rw [hzero, h.usesFound_iff, List.eq_nil_iff_forall_not_mem]
  simp only [hmem, h.excluded_eq, not_and, not_not, or_imp, forall_and, forall_eq]

section Steps

variable (distinct : (surveyor.reducers.map (·.name)).Nodup)
include distinct

theorem Counts.scanFiles (h : Counts surveyor disk excluded files state)
    (hok : (scanFiles surveyor disk state more).2 = .ok state') :
    Counts surveyor disk excluded (fun f => files f ∨ f ∈ more) state' := by
  induction more generalizing files state with
  | nil =>
    cases hok
    simpa using h
  | cons file rest ih =>
    obtain ⟨usage, hscan, hrest⟩ := bind_eq_ok (scanFiles_cons ▸ hok)
    simpa only [List.mem_cons, or_assoc] using ih (h.scan distinct hscan _) hrest

/-- The scans of some files end normally exactly if nothing fails within reach of them. -/
theorem Counts.scanFiles_ok_iff (h : Counts surveyor disk excluded files state) :
    (∃ state', (ReducerAtlas.scanFiles surveyor disk state more).2 = .ok state') ↔
      ∀ f ∈ more, surveyor.Safe disk f := by
  induction more generalizing files state with
  | nil => simp [ReducerAtlas.scanFiles]
  | cons file rest ih =>
    rw [scanFiles_cons, exists_bind_eq_ok, List.forall_mem_cons, ← h.settled.scan_ok_iff_safe]
    constructor
    · rintro ⟨usage, hscan, hrest⟩
      exact ⟨⟨usage, hscan⟩, (ih (h.scan distinct hscan _)).mp hrest⟩
    · rintro ⟨⟨usage, hscan⟩, hrest⟩
      exact ⟨usage, hscan, (ih (h.scan distinct hscan _)).mpr hrest⟩

theorem Counts.failsOnly_scanFiles {kind : Failure → Prop}
    (h : Counts surveyor disk excluded files state)
    (hscan : ∀ f ∈ more, ∀ phase, surveyor.Settled disk phase →
      FailsOnly kind (surveyor.scan disk phase [] none f).outcome) :
    FailsOnly kind (ReducerAtlas.scanFiles surveyor disk state more).2 := by
  induction more generalizing files state with
  | nil => exact failsOnly_ok _
  | cons file rest ih =>
    obtain ⟨hfirst, hrest⟩ := List.forall_mem_cons.mp hscan
    rw [scanFiles_cons]
    exact (hfirst _ h.settled).bind fun usage hok => ih (h.scan distinct hok _) hrest

/-- **The counter after the scans of all container folders.** -/
theorem Counts.scanFolders (h : Counts surveyor disk excluded files state)
    (hok : (scanFolders surveyor disk area state folders).2 = .ok state') :
    Counts surveyor disk excluded (fun f => files f ∨ area.Offers disk folders f) state' := by
  induction folders generalizing files state with
  | nil =>
    cases hok
    simpa [Area.Offers] using h
  | cons folder rest ih =>
    obtain ⟨middle, hmiddle, hok⟩ := bind_eq_ok (scanFolders_cons ▸ hok)
    obtain ⟨-, -, hrest⟩ := bind_eq_ok hok
    simpa only [Area.offers_cons, or_assoc] using ih (h.scanFiles distinct hmiddle) hrest

theorem Counts.scanFolders_ok_iff (h : Counts surveyor disk excluded files state) :
    (∃ state', (ReducerAtlas.scanFolders surveyor disk area state folders).2 = .ok state') ↔
      (∀ folder ∈ folders, (area.listing disk folder).ending = .ok ()) ∧
        ∀ f, area.Offers disk folders f → surveyor.Safe disk f := by
  induction folders generalizing files state with
  | nil => simp [ReducerAtlas.scanFolders, Area.Offers]
  | cons folder rest ih =>
    rw [scanFolders_cons, exists_bind_eq_ok, List.forall_mem_cons]
    constructor
    · rintro ⟨middle, hmiddle, hok⟩
      obtain ⟨⟨⟩, hlisted, hrest⟩ := exists_bind_eq_ok.mp hok
      obtain ⟨hlistings, hsafe⟩ := (ih (h.scanFiles distinct hmiddle)).mp hrest
      have hfiles := (h.scanFiles_ok_iff distinct).mp ⟨middle, hmiddle⟩
      refine ⟨⟨hlisted, hlistings⟩, fun f hf => ?_⟩
      exact (Area.offers_cons.mp hf).elim (hfiles f) (hsafe f)
    · rintro ⟨⟨hlisted, hlistings⟩, hsafe⟩
      simp only [Area.offers_cons, or_imp, forall_and] at hsafe
      obtain ⟨middle, hmiddle⟩ := (h.scanFiles_ok_iff distinct).mpr hsafe.1
      refine ⟨middle, hmiddle, exists_bind_eq_ok.mpr ⟨(), hlisted, ?_⟩⟩
      exact (ih (h.scanFiles distinct hmiddle)).mpr ⟨hlistings, hsafe.2⟩

theorem Counts.failsOnly_scanFolders {kind : Failure → Prop}
    (h : Counts surveyor disk excluded files state)
    (hlist : ∀ folder ∈ folders, FailsOnly kind (area.listing disk folder).ending)
    (hscan : ∀ f, area.Offers disk folders f → ∀ phase, surveyor.Settled disk phase →
      FailsOnly kind (surveyor.scan disk phase [] none f).outcome) :
    FailsOnly kind (ReducerAtlas.scanFolders surveyor disk area state folders).2 := by
  induction folders generalizing files state with
  | nil => exact failsOnly_ok _
  | cons folder rest ih =>
    obtain ⟨hfirst, hrest⟩ := List.forall_mem_cons.mp hlist
    rw [scanFolders_cons]
    simp only [Area.offers_cons, or_imp, forall_and] at hscan
    exact (h.failsOnly_scanFiles distinct hscan.1).bind fun middle hmiddle => hfirst.bind fun _ _ =>
      ih (h.scanFiles distinct hmiddle) hrest hscan.2

end Steps

/-! ## Two surveys side by side -/

/-- Two states of a survey that differ in what they keep and count, but not in their containers. -/
structure Alike (surveyor : Surveyor) (disk : Disk) (a b : SurveyState) : Prop where
  settled_left : surveyor.Settled disk a.phase
  settled_right : surveyor.Settled disk b.phase
  excluded_eq : a.phase.excluded = b.phase.excluded
  containers_eq : a.containers = b.containers

/-- Two computations fail alike, or both end in states that are alike. -/
def EndAlike (surveyor : Surveyor) (disk : Disk) : Except Failure SurveyState →
    Except Failure SurveyState → Prop
  | .ok a, .ok b => Alike surveyor disk a b
  | .error failure, .error failure' => failure = failure'
  | _, _ => False

variable {a b : SurveyState}

theorem EndAlike.bind {x y : Except Failure SurveyState}
    {f : SurveyState → Except Failure SurveyState} (h : EndAlike surveyor disk x y)
    (hf : ∀ a b, Alike surveyor disk a b → EndAlike surveyor disk (f a) (f b)) :
    EndAlike surveyor disk (x >>= f) (y >>= f) := by
  cases x <;> cases y
  · exact h
  · exact h.elim
  · exact h.elim
  · exact hf _ _ h

theorem Alike.scanFiles (h : Alike surveyor disk a b)
    (distinct : (surveyor.reducers.map (·.name)).Nodup) :
    EndAlike surveyor disk (scanFiles surveyor disk a more).2
      (ReducerAtlas.scanFiles surveyor disk b more).2 := by
  induction more generalizing a b with
  | nil => exact h
  | cons file rest ih =>
    -- each scan gives what it gives alone in a phase that keeps nothing
    have houtcome : (surveyor.scan disk a.phase [] none file).outcome =
        (surveyor.scan disk b.phase [] none file).outcome := by
      rw [h.settled_left.scan_outcome distinct, h.settled_right.scan_outcome distinct,
        h.excluded_eq]
    obtain ⟨hleft, hexleft⟩ := h.settled_left.answer { file := file }
    obtain ⟨hright, hexright⟩ := h.settled_right.answer { file := file }
    rw [scanFiles_cons, scanFiles_cons, houtcome]
    cases (surveyor.scan disk b.phase [] none file).outcome with
    | error failure => rfl
    | ok usage =>
      refine ih ⟨hleft, hright, ?_, ?_⟩
      · exact hexleft.trans (h.excluded_eq.trans hexright.symm)
      · rw [h.containers_eq]

theorem Alike.scanFolders (h : Alike surveyor disk a b)
    (distinct : (surveyor.reducers.map (·.name)).Nodup) :
    EndAlike surveyor disk (scanFolders surveyor disk area a folders).2
      (ReducerAtlas.scanFolders surveyor disk area b folders).2 := by
  induction folders generalizing a b with
  | nil => exact h
  | cons folder rest ih =>
    rw [scanFolders_cons, scanFolders_cons]
    refine (h.scanFiles distinct).bind fun a b hab => ?_
    cases (area.listing disk folder).ending with
    | error failure => rfl
    | ok => exact ih hab

end SurveyState

/-! ## Surveys -/

/-- What an atlas says, without what was counted on the way. -/
def Atlas.chart (atlas : Atlas) : List Reducer × List Reducer × List Container :=
  (atlas.reducers, atlas.globals, atlas.containers)

/-- **A project none of whose reducers is used**, in which nothing fails: there are reducers, the
main file is there, all container folders can be listed, and none of the files to scan has within
its reach something that fails, or a core file of a reducer. -/
def Settings.Unused (settings : Settings) (disk : Disk) : Prop :=
  ∃ roster, (registry disk settings.area settings.sagaName settings.reducerFolders).2 = .ok roster ∧
    roster.toList ≠ [] ∧ disk.isFile settings.mainApp = .ok true ∧
    (∀ folder ∈ settings.containerFolders, (settings.area.listing disk folder).ending = .ok ()) ∧
    ∀ file, settings.Starts disk file →
      (settings.surveyor roster.toList).Safe disk file ∧
        ∀ r, ¬ (settings.surveyor roster.toList).Finds disk file r

section Survey

variable {disk : Disk} {settings : Settings} {reducers : List Reducer}

section Report

variable (distinct : (reducers.map (·.name)).Nodup)
include distinct

/-- The counters of a survey are both zero exactly if no file that it scans finds a reducer. -/
theorem usesFound_eq_zero_iff {globals : Roster} {state : SurveyState}
    (hmain : ((settings.surveyor reducers).scan disk { caching := !settings.cacheDisabled } [] none
      settings.mainApp).outcome = .ok globals)
    (hfolders : (scanFolders (settings.surveyor reducers) disk settings.area
      ⟨{ excluded := globals.names, caching := !settings.cacheDisabled }, []⟩
      settings.containerFolders).2 = .ok state) :
    ((settings.surveyor reducers).scan disk { caching := !settings.cacheDisabled } [] none
        settings.mainApp).phase.usesFound + state.phase.usesFound = 0 ↔
      ∀ file, settings.Starts disk file →
        ∀ r, ¬ (settings.surveyor reducers).Finds disk file r := by
  have hfresh := SurveyState.counts_fresh (settings.surveyor reducers) disk []
    !settings.cacheDisabled
  have hglobals := hfresh.settled.mem_scan_iff_finds distinct hmain
  have hfirst := (hfresh.scan distinct hmain []).usesFound_iff
  have hsecond := ((SurveyState.counts_fresh (settings.surveyor reducers) disk globals.names
    !settings.cacheDisabled).scanFolders distinct hfolders).usesFound_iff
  simp only [false_or, forall_eq, List.not_mem_nil] at hfirst
  simp only [false_or] at hsecond
  rw [Nat.add_eq_zero_iff, hfirst, hsecond]
  constructor
  · rintro ⟨hnone, hrest⟩ file (rfl | hoffers) r hfinds
    · exact hnone r hfinds
    · -- what a container finds is global, and nothing is
      obtain ⟨g, hg, -⟩ := Roster.mem_names.mp (hrest file hoffers r hfinds)
      exact hnone g ((hglobals g).mp hg).1
  · intro hnone
    exact ⟨hnone _ (.inl rfl), fun f hf r hfinds => absurd hfinds (hnone f (.inr hf) r)⟩

/-- **The scans of a survey end with a report exactly if nothing fails and no reducer is used.** -/
theorem surveyUses_report_iff {report : Report} :
    (surveyUses disk settings reducers).2 = .error (.report report) ↔ report = nothingUsed ∧
      (∀ folder ∈ settings.containerFolders, (settings.area.listing disk folder).ending = .ok ()) ∧
      ∀ file, settings.Starts disk file → (settings.surveyor reducers).Safe disk file ∧
        ∀ r, ¬ (settings.surveyor reducers).Finds disk file r := by
  have hfresh := fun excluded => SurveyState.counts_fresh (settings.surveyor reducers) disk excluded
    !settings.cacheDisabled
  rw [surveyUses_snd, ((hfresh []).settled.unreported_scan settings.mainApp).bind_eq_report]
  constructor
  · rintro ⟨globals, hmain, hrest⟩
    obtain ⟨state, hfolders, hif⟩ :=
      ((hfresh globals.names).failsOnly_scanFolders distinct
        (fun folder _ => settings.area.unreported_listing folder)
        fun f _ _ hsettled => hsettled.unreported_scan f).bind_eq_report.mp hrest
    obtain ⟨hlistings, hoffered⟩ :=
      ((hfresh globals.names).scanFolders_ok_iff distinct).mp ⟨state, hfolders⟩
    have hsafe := ((hfresh []).settled.scan_ok_iff_safe settings.mainApp).mp ⟨globals, hmain⟩
    dsimp only at hif
    split_ifs at hif with hzero
    have hnone := (usesFound_eq_zero_iff distinct hmain hfolders).mp hzero
    refine ⟨by simpa using hif.symm, hlistings, fun file hfile => ⟨?_, hnone file hfile⟩⟩
    rcases hfile with rfl | hoffers
    · exact hsafe
    · exact hoffered file hoffers
  · rintro ⟨rfl, hlistings, hstarts⟩
    obtain ⟨globals, hmain⟩ := ((hfresh []).settled.scan_ok_iff_safe settings.mainApp).mpr
      (hstarts _ (.inl rfl)).1
    obtain ⟨state, hfolders⟩ := ((hfresh globals.names).scanFolders_ok_iff distinct).mpr
      ⟨hlistings, fun f hf => (hstarts f (.inr hf)).1⟩
    refine ⟨globals, hmain, ?_⟩
    rw [hfolders]
    exact if_pos ((usesFound_eq_zero_iff distinct hmain hfolders).mpr fun f hf => (hstarts f hf).2)

end Report

theorem survey_nothingUsed_iff :
    (∃ report, (survey disk settings).2 = .error (.report report) ∧
      report.condition = .noReferences) ↔ settings.Unused disk := by
  rw [survey_snd]
  simp only [(unreported_registry settings.area settings.sagaName
    settings.reducerFolders).bind_eq_report]
  unfold Settings.Unused
  constructor
  · rintro ⟨report, ⟨roster, hroster, hrest⟩, hcondition⟩
    refine ⟨roster, hroster, ?_⟩
    split_ifs at hrest with hempty
    · cases hrest
      cases hcondition
    · split at hrest
      · cases hrest
      · cases hrest
        cases hcondition
      · next hmain =>
        obtain ⟨-, hunused⟩ := (surveyUses_report_iff roster.nodup_names).mp hrest
        exact ⟨by simpa using hempty, hmain, hunused⟩
  · rintro ⟨roster, hroster, hempty, hmain, hunused⟩
    refine ⟨nothingUsed, ⟨roster, hroster, ?_⟩, rfl⟩
    rw [if_neg (by simpa using hempty), hmain]
    exact (surveyUses_report_iff roster.nodup_names).mpr ⟨rfl, hunused⟩

/-- What the scans of a survey chart if no results are kept, whatever is counted. -/
def Settings.charted (settings : Settings) (disk : Disk) (reducers : List Reducer) :
    Except Failure (List Reducer × List Reducer × List Container) := do
  let globals ← ((settings.surveyor reducers).scan disk { caching := false } [] none
    settings.mainApp).outcome
  let state ← (scanFolders (settings.surveyor reducers) disk settings.area
    ⟨{ excluded := globals.names, caching := false }, []⟩ settings.containerFolders).2
  return (reducers, globals.toList, state.containers)

/-- The scans of a survey chart that, whether they keep their results or not: each of them gives the
same, and the counters, which do differ, are only asked whether they are zero. -/
theorem chart_surveyUses (distinct : (reducers.map (·.name)).Nodup)
    (hused : (surveyUses disk settings reducers).2 ≠ .error (.report nothingUsed)) :
    (surveyUses disk settings reducers).2.map Atlas.chart = settings.charted disk reducers := by
  have hsettled : ∀ excluded caching, (settings.surveyor reducers).Settled disk
      { excluded := excluded, caching := caching } := fun _ _ =>
    Surveyor.settled_of_store_eq_nil rfl
  rw [surveyUses_snd, (hsettled [] _).scan_outcome distinct] at hused ⊢
  unfold Settings.charted
  cases hmain : ((settings.surveyor reducers).scan disk { caching := false } [] none
      settings.mainApp).outcome with
  | error failure => rfl
  | ok globals =>
    rw [hmain] at hused
    have hphase : SurveyState.EndAlike (settings.surveyor reducers) disk
        (scanFolders (settings.surveyor reducers) disk settings.area
          ⟨{ excluded := globals.names, caching := !settings.cacheDisabled }, []⟩
          settings.containerFolders).2
        (scanFolders (settings.surveyor reducers) disk settings.area
          ⟨{ excluded := globals.names, caching := false }, []⟩ settings.containerFolders).2 :=
      SurveyState.Alike.scanFolders ⟨hsettled _ _, hsettled _ _, rfl, rfl⟩ distinct
    dsimp only [bind, Except.bind] at hused ⊢
    generalize (scanFolders _ _ _ ⟨⟨_, !settings.cacheDisabled, _, _, _⟩, _⟩ _).2 = x
      at hphase hused ⊢
    generalize (scanFolders _ _ _ ⟨⟨_, false, _, _, _⟩, _⟩ _).2 = y at hphase ⊢
    cases x with
    | error failure =>
      cases y with
      | error failure' => exact congrArg Except.error hphase
      | ok b => exact hphase.elim
    | ok a =>
      cases y with
      | error failure' => exact hphase.elim
      | ok b =>
        dsimp only at hused ⊢
        rw [if_neg fun hzero => hused (if_pos hzero)]
        exact congrArg (fun c => Except.ok (reducers, globals.toList, c)) hphase.containers_eq

theorem Atlas.globals_of_chart {atlas atlas' : Atlas} (h : atlas.chart = atlas'.chart) :
    atlas.globals = atlas'.globals :=
  congrArg (fun c => c.2.1) h

theorem Atlas.containers_of_chart {atlas atlas' : Atlas} (h : atlas.chart = atlas'.chart) :
    atlas.containers = atlas'.containers :=
  congrArg (fun c => c.2.2) h

theorem map_eq_of_chart {α : Type} {f : Atlas → α} {x y : Except Failure Atlas}
    (hf : ∀ atlas atlas' : Atlas, atlas.chart = atlas'.chart → f atlas = f atlas')
    (h : x.map Atlas.chart = y.map Atlas.chart) : x.map f = y.map f := by
  cases x <;> cases y
  · exact congrArg Except.error (Except.error.inj h)
  · cases h
  · cases h
  · exact congrArg Except.ok (hf _ _ (Except.ok.inj h))

theorem chart_surveyUses_cacheDisabled (distinct : (reducers.map (·.name)).Nodup)
    (disabled : Bool) :
    (surveyUses disk { settings with cacheDisabled := disabled } reducers).2.map Atlas.chart =
      (surveyUses disk settings reducers).2.map Atlas.chart := by
  have hiff : (surveyUses disk { settings with cacheDisabled := disabled } reducers).2 =
      .error (.report nothingUsed) ↔
        (surveyUses disk settings reducers).2 = .error (.report nothingUsed) := by
    rw [surveyUses_report_iff distinct, surveyUses_report_iff distinct]
    rfl
  by_cases hunused : (surveyUses disk settings reducers).2 = .error (.report nothingUsed)
  · rw [hunused, hiff.mpr hunused]
  · rw [chart_surveyUses distinct hunused, chart_surveyUses distinct (mt hiff.mp hunused)]
    rfl

theorem chart_survey (disk : Disk) (settings : Settings) (disabled : Bool) :
    (survey disk { settings with cacheDisabled := disabled }).2.map Atlas.chart =
      (survey disk settings).2.map Atlas.chart := by
  rw [survey_snd, survey_snd]
  change Except.map _ ((registry disk settings.area settings.sagaName
    settings.reducerFolders).2 >>= _) = _
  cases (registry disk settings.area settings.sagaName settings.reducerFolders).2 with
  | error failure => rfl
  | ok roster =>
    dsimp only [bind, Except.bind]
    split_ifs
    · rfl
    · rcases disk.isFile settings.mainApp with _ | _ | _
      · rfl
      · rfl
      · exact chart_surveyUses_cacheDisabled roster.nodup_names disabled

/-- **Keeping results changes neither an atlas nor a failure.** Whatever the disk, its faults and
the settings: with results kept or not, a survey ends with the same reducers, global reducers and
containers, so both artifacts have the same text, or it ends with the same failure. It reports that
no reducer is used exactly if there are reducers and the main file, nothing fails, and no file that
is scanned has a core file of a reducer within its reach. -/
theorem survey_cacheDisabled (disk : Disk) (settings : Settings) (disabled : Bool) :
    (survey disk { settings with cacheDisabled := disabled }).2.map Atlas.chart =
        (survey disk settings).2.map Atlas.chart ∧
      (∀ output, (survey disk { settings with cacheDisabled := disabled }).2.map
          (fun atlas => Artifact.globalModule atlas.globals output) =
        (survey disk settings).2.map fun atlas => Artifact.globalModule atlas.globals output) ∧
      (∀ output layout, (survey disk { settings with cacheDisabled := disabled }).2.map
          (fun atlas => Artifact.mapFile atlas output layout) =
        (survey disk settings).2.map fun atlas => Artifact.mapFile atlas output layout) ∧
      ((∃ report, (survey disk { settings with cacheDisabled := disabled }).2 =
          .error (.report report) ∧ report.condition = .noReferences) ↔ settings.Unused disk) := by
  have hchart := chart_survey disk settings disabled
  refine ⟨hchart, fun output => map_eq_of_chart ?_ hchart,
    fun output layout => map_eq_of_chart ?_ hchart, survey_nothingUsed_iff⟩
  · intro atlas atlas' h
    rw [Atlas.globals_of_chart h]
  · intro atlas atlas' h
    simp only [Artifact.mapFile, Artifact.mapDocument, Atlas.globals_of_chart h,
      Atlas.containers_of_chart h]

end Survey

end ReducerAtlas
