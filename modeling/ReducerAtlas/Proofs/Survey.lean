import ReducerAtlas.Atlas.Survey
import ReducerAtlas.Proofs.Listing
import ReducerAtlas.Proofs.Phase
import ReducerAtlas.Proofs.Stages

/-!
# What an atlas says

The global reducers of an atlas are those that the main file uses. Its containers are the files of
the container folders that can be the target of a route, each of them once, and each with the
reducers that it uses and that are not global.

* `Surveyor.Uses`: a file uses a reducer.
* `SurveyState.Tells`: the containers so far are right for some files;
  `SurveyState.Tells.scanFiles`, `SurveyState.Tells.scanFolders`: scans of more files keep it.
* `Atlas.Partitions`: what an atlas says of a project; **`survey_partitions`**: the atlas of a
  survey says it.
-/

namespace ReducerAtlas

/-! ## Placing containers -/

namespace Container

variable {c d : Container} {l : List Container}

theorem map_key_place (c : Container) (l : List Container) :
    (c.place l).map (·.key) =
      if c.key ∈ l.map (·.key) then l.map (·.key) else l.map (·.key) ++ [c.key] := by
  induction l with
  | nil => simp [place]
  | cons a rest ih =>
    by_cases ha : a.key = c.key
    · simp [place, ha]
    · simp only [place, if_neg ha, List.map_cons, ih, List.mem_cons, Ne.symm ha, false_or]
      split_ifs <;> rfl

theorem nodup_place (h : (l.map (·.key)).Nodup) : ((c.place l).map (·.key)).Nodup := by
  rw [map_key_place]
  split_ifs with hc
  · exact h
  · refine List.nodup_append.mpr ⟨h, List.nodup_singleton _, fun k hk k' hk' => ?_⟩
    rw [List.mem_singleton.mp hk']
    rintro rfl
    exact hc hk

theorem mem_place_iff (h : (l.map (·.key)).Nodup) :
    d ∈ c.place l ↔ d = c ∨ d ∈ l ∧ d.key ≠ c.key := by
  induction l with
  | nil => simp [place]
  | cons a rest ih =>
    rw [List.map_cons, List.nodup_cons] at h
    by_cases ha : a.key = c.key
    · have hrest : ∀ b ∈ rest, b.key ≠ c.key := fun b hb e =>
        h.1 (List.mem_map.mpr ⟨b, hb, e.trans ha.symm⟩)
      rw [place, if_pos ha, List.mem_cons, List.mem_cons]
      refine or_congr_right ⟨fun hd => ⟨.inr hd, hrest d hd⟩, ?_⟩
      rintro ⟨rfl | hd, hne⟩
      · exact absurd ha hne
      · exact hd
    · rw [place, if_neg ha, List.mem_cons, ih h.2, List.mem_cons, or_and_right, or_left_comm]
      refine or_congr_right (or_congr_left ⟨?_, And.left⟩)
      rintro rfl
      exact ⟨rfl, ha⟩

end Container

/-! ## Files and their reducers -/

namespace Surveyor

variable {surveyor : Surveyor} {disk : Disk} {phase : Phase} {file : Path} {usage : Roster}

/-- **A file uses a reducer**: one of those looked for, with a core file within reach of it. -/
def Uses (surveyor : Surveyor) (disk : Disk) (file : Path) (r : Reducer) : Prop :=
  r ∈ surveyor.reducers ∧ surveyor.Needs disk [] (surveyor.node file none) r

theorem isFile_of_scan {stack : List Path} {restriction : Option NameSet}
    (h : (surveyor.scan disk phase stack restriction file).outcome = .ok usage) :
    ∃ answer, disk.isFile file = .ok answer := by
  cases hfind : surveyor.lookup.find disk file with
  | error failure => simp [scan, hfind] at h
  | ok target =>
    obtain ⟨answer, hanswer, -⟩ := bind_eq_ok hfind
    exact ⟨answer, liftIo_eq_ok.mp hanswer⟩

/-- **The scan of a file** that is there gives the reducers that it uses, without the excluded
ones. -/
theorem Settled.mem_scan_iff (h : surveyor.Settled disk phase)
    (distinct : (surveyor.reducers.map (·.name)).Nodup) (hfile : disk.isFile file = .ok true)
    (hscan : (surveyor.scan disk phase [] none file).outcome = .ok usage) (r : Reducer) :
    r ∈ usage.toList ↔ surveyor.Uses disk file r ∧ r.name ∉ phase.excluded := by
  have hfind : surveyor.lookup.find disk file = .ok (some file) := Lookup.find_of_isFile hfile
  have hgathers := gathers_of_scan hfind List.not_mem_nil (h.final_storeFor []) hscan
  rw [mem_toList_iff_of_gathers distinct hgathers, Uses, and_assoc, and_comm (a := r.name ∉ _)]

end Surveyor

/-! ## Containers so far -/

/-- **What a container says**: its key is the displayed path of its file, and its reducers, in the
order of their names, are those that the file uses without the excluded ones. -/
structure Container.Records (surveyor : Surveyor) (disk : Disk) (excluded : List String)
    (c : Container) : Prop where
  key_eq : c.key = Path.display surveyor.base c.path
  increasing : c.reducers.Pairwise fun a b => a.name < b.name
  mem_iff : ∀ r, r ∈ c.reducers ↔ surveyor.Uses disk c.path r ∧ r.name ∉ excluded

namespace SurveyState

/-- The state of a survey is right for some files: the results of its phase are final, and each of
the files has one container. -/
structure Tells (surveyor : Surveyor) (disk : Disk) (excluded : List String) (files : List Path)
    (state : SurveyState) : Prop where
  settled : surveyor.Settled disk state.phase
  excluded_eq : state.phase.excluded = excluded
  has : ∀ f ∈ files, disk.Has f
  nodup : (state.containers.map (·.key)).Nodup
  path_iff : ∀ f, (∃ c ∈ state.containers, c.path = f) ↔ f ∈ files
  records : ∀ c ∈ state.containers, c.Records surveyor disk excluded

variable {surveyor : Surveyor} {disk : Disk} {excluded : List String} {files more : List Path}
  {state state' : SurveyState} {area : Area}

theorem Tells.nodup_path (h : Tells surveyor disk excluded files state) :
    (state.containers.map (·.path)).Nodup := by
  have hkeys : state.containers.map (·.key) =
      (state.containers.map (·.path)).map (Path.display surveyor.base) := by
    rw [List.map_map]
    exact List.map_congr_left fun c hc => (h.records c hc).key_eq
  exact (hkeys ▸ h.nodup).of_map _

/-- One more container, also if its file had one before. -/
theorem Tells.place (h : Tells surveyor disk excluded files state) {c : Container} {phase : Phase}
    (hphase : surveyor.Settled disk phase ∧ phase.excluded = excluded) (hc : disk.Has c.path)
    (hrecords : c.Records surveyor disk excluded) :
    Tells surveyor disk excluded (files ++ [c.path]) ⟨phase, c.place state.containers⟩ := by
  have hmem := fun d => Container.mem_place_iff (c := c) (d := d) h.nodup
  refine ⟨hphase.1, hphase.2, ?_, Container.nodup_place h.nodup, fun f => ?_, fun d hd => ?_⟩
  · simpa [or_imp, forall_and] using ⟨h.has, hc⟩
  · rw [List.mem_append, List.mem_singleton, ← h.path_iff]
    constructor
    · rintro ⟨d, hd, rfl⟩
      rcases (hmem d).mp hd with rfl | ⟨hd, -⟩
      · exact .inr rfl
      · exact .inl ⟨d, hd, rfl⟩
    · rintro (⟨d, hd, rfl⟩ | rfl)
      · by_cases hkey : d.key = c.key
        · -- the container is replaced by one of the same key, which is one of the same file
          have hdhas : disk.Has d.path := h.has _ ((h.path_iff _).mp ⟨d, hd, rfl⟩)
          rw [(h.records d hd).key_eq, hrecords.key_eq] at hkey
          exact ⟨c, (hmem c).mpr (.inl rfl), (hdhas.eq_of_display_eq hc hkey).symm⟩
        · exact ⟨d, (hmem d).mpr (.inr ⟨hd, hkey⟩), rfl⟩
      · exact ⟨c, (hmem c).mpr (.inl rfl), rfl⟩
  · rcases (hmem d).mp hd with rfl | ⟨hd, -⟩
    · exact hrecords
    · exact h.records d hd

theorem Tells.scan (h : Tells surveyor disk excluded files state)
    (distinct : (surveyor.reducers.map (·.name)).Nodup) {file : Path} (hfile : disk.Has file)
    {usage : Roster} (hscan : (surveyor.scan disk state.phase [] none file).outcome = .ok usage) :
    Tells surveyor disk excluded (files ++ [file])
      ⟨(surveyor.scan disk state.phase [] none file).phase,
        Container.place ⟨Path.display surveyor.base file, file, usage.toList⟩
          state.containers⟩ := by
  obtain ⟨hsettled, hexcluded⟩ := h.settled.answer { file := file }
  obtain ⟨content, hat⟩ := hfile.file
  obtain ⟨answer, htest⟩ := Surveyor.isFile_of_scan hscan
  obtain rfl : answer = true := Disk.isFile_of_getAt? hfile.resolved hat htest
  have hrecords : Container.Records surveyor disk excluded
      ⟨Path.display surveyor.base file, file, usage.toList⟩ := by
    refine ⟨rfl, usage.increasing, fun r => ?_⟩
    rw [h.settled.mem_scan_iff distinct htest hscan, h.excluded_eq]
  exact h.place ⟨hsettled, hexcluded.trans h.excluded_eq⟩ hfile hrecords

theorem Tells.scanFiles (h : Tells surveyor disk excluded files state)
    (distinct : (surveyor.reducers.map (·.name)).Nodup) (hmore : ∀ f ∈ more, disk.Has f)
    (hok : (scanFiles surveyor disk state more).2 = .ok state') :
    Tells surveyor disk excluded (files ++ more) state' := by
  induction more generalizing files state with
  | nil =>
    cases hok
    simpa using h
  | cons file rest ih =>
    obtain ⟨hfile, hrest⟩ := List.forall_mem_cons.mp hmore
    simp only [ReducerAtlas.scanFiles] at hok
    cases hscan : (surveyor.scan disk state.phase [] none file).outcome with
    | error failure => simp [hscan] at hok
    | ok usage =>
      rw [hscan] at hok
      rw [List.append_cons]
      exact ih (h.scan distinct hfile hscan) hrest hok

/-- **The scans of all container folders**: the files with a container are, in the end, those of the
folders that can be the target of a route. -/
theorem Tells.scanFolders (h : Tells surveyor disk excluded files state)
    (distinct : (surveyor.reducers.map (·.name)).Nodup) (hdisk : disk.WellFormed)
    {folders : List Path} (hok : (scanFolders surveyor disk area state folders).2 = .ok state') :
    ∃ all, Tells surveyor disk excluded all state' ∧ ∀ f, f ∈ all ↔ f ∈ files ∨
      isContainer f = true ∧
        ∃ folder ∈ folders, disk.Lists area.refused (area.base.getD folder) folder f := by
  induction folders generalizing files state with
  | nil =>
    cases hok
    exact ⟨files, h, by simp⟩
  | cons folder rest ih =>
    obtain ⟨middle, hmiddle, hok⟩ := bind_eq_ok (scanFolders_cons ▸ hok)
    obtain ⟨⟨⟩, hending, hrest⟩ := bind_eq_ok hok
    obtain ⟨listed, hlisting⟩ := Area.exists_listing_eq hending
    rw [hlisting] at hmiddle
    have hlisted : ∀ f, f ∈ listed ↔
        disk.Lists area.refused (area.base.getD folder) folder f := fun f =>
      Disk.mem_filesBelow_iff hdisk.ordered (Area.filesBelow_of_listing hdisk.ordered hlisting)
    have hhas : ∀ f ∈ listed.filter isContainer, disk.Has f := fun f hf =>
      ((hlisted f).mp (List.mem_filter.mp hf).1).has hdisk
    obtain ⟨all, hall, hmem⟩ := ih (h.scanFiles distinct hhas hmiddle) hrest
    refine ⟨all, hall, fun f => ?_⟩
    rw [hmem, List.mem_append, List.mem_filter, hlisted]
    simp only [List.mem_cons, exists_eq_or_imp]
    tauto

end SurveyState

/-! ## Surveys -/

/-- **What an atlas says of a project** with the given reducers. -/
structure Atlas.Partitions (disk : Disk) (settings : Settings) (roster : Roster) (atlas : Atlas) :
    Prop where
  reducers_eq : atlas.reducers = roster.toList
  /-- The global reducers, in the order of their names, are those that the main file uses. -/
  globals_increasing : atlas.globals.Pairwise fun a b => a.name < b.name
  mem_globals_iff : ∀ r, r ∈ atlas.globals ↔
    (settings.surveyor roster.toList).Uses disk settings.mainApp r
  /-- Each file of a container folder that can be the target of a route has one container. -/
  keys_nodup : (atlas.containers.map (·.key)).Nodup
  paths_nodup : (atlas.containers.map (·.path)).Nodup
  path_iff : ∀ f, (∃ c ∈ atlas.containers, c.path = f) ↔ isContainer f = true ∧
    ∃ folder ∈ settings.containerFolders,
      disk.Lists (IgnoreRule.refuses settings.ignore) settings.base folder f
  key_eq : ∀ c ∈ atlas.containers, c.key = Path.display settings.base c.path
  /-- The reducers of a container, in the order of their names, are those that its file uses and
  that are not global. -/
  increasing : ∀ c ∈ atlas.containers, c.reducers.Pairwise fun a b => a.name < b.name
  mem_reducers_iff : ∀ c ∈ atlas.containers, ∀ r, r ∈ c.reducers ↔
    (settings.surveyor roster.toList).Uses disk c.path r ∧ r ∉ atlas.globals

section Survey

variable {disk : Disk} {settings : Settings} {atlas : Atlas}

theorem survey_ok (h : (survey disk settings).2 = .ok atlas) :
    ∃ roster,
      (registry disk settings.area settings.sagaName settings.reducerFolders).2 = .ok roster ∧
      disk.isFile settings.mainApp = .ok true ∧
      (surveyUses disk settings roster.toList).2 = .ok atlas := by
  unfold survey at h
  cases hreg : registry disk settings.area settings.sagaName settings.reducerFolders with
  | mk journal found =>
    rw [hreg] at h
    cases found with
    | error failure => cases h
    | ok roster =>
      refine ⟨roster, rfl, ?_⟩
      dsimp only at h
      split_ifs at h
      cases hmain : disk.isFile settings.mainApp with
      | error e => simp [hmain] at h
      | ok answer =>
        cases answer with
        | false => simp [hmain] at h
        | true =>
          rw [hmain] at h
          exact ⟨rfl, h⟩

theorem surveyUses_ok {reducers : List Reducer}
    (h : (surveyUses disk settings reducers).2 = .ok atlas) :
    ∃ globals phase,
      ((settings.surveyor reducers).scan disk { caching := !settings.cacheDisabled } [] none
        settings.mainApp).outcome = .ok globals ∧
      (scanFolders (settings.surveyor reducers) disk settings.area
        ⟨{ excluded := globals.names, caching := !settings.cacheDisabled }, []⟩
        settings.containerFolders).2 = .ok ⟨phase, atlas.containers⟩ ∧
      atlas.reducers = reducers ∧ atlas.globals = globals.toList := by
  unfold surveyUses at h
  dsimp only at h
  cases hmain : ((settings.surveyor reducers).scan disk { caching := !settings.cacheDisabled } []
      none settings.mainApp).outcome with
  | error failure => simp [hmain] at h
  | ok globals =>
    simp only [hmain] at h
    cases hfolders : (scanFolders (settings.surveyor reducers) disk settings.area
        ⟨{ excluded := globals.names, caching := !settings.cacheDisabled }, []⟩
        settings.containerFolders).2 with
    | error failure => simp [hfolders] at h
    | ok state =>
      simp only [hfolders] at h
      split_ifs at h
      cases h
      exact ⟨globals, state.phase, rfl, hfolders, rfl, rfl⟩

theorem name_mem_names_iff {roster globals : Roster}
    (hsub : ∀ r ∈ globals.toList, r ∈ roster.toList) {r : Reducer}
    (hr : r ∈ roster.toList) : r.name ∈ globals.names ↔ r ∈ globals.toList := by
  rw [Roster.mem_names]
  constructor
  · rintro ⟨g, hg, hname⟩
    rwa [← roster.eq_of_name_eq (hsub g hg) hr hname]
  · exact fun hg => ⟨r, hg, rfl⟩

theorem partitions_of_surveyUses (hdisk : disk.WellFormed) {roster : Roster}
    (hmain : disk.isFile settings.mainApp = .ok true)
    (h : (surveyUses disk settings roster.toList).2 = .ok atlas) :
    atlas.Partitions disk settings roster := by
  obtain ⟨globals, phase, hscan, hfolders, hreducers, hglobals⟩ := surveyUses_ok h
  have distinct : ((settings.surveyor roster.toList).reducers.map (·.name)).Nodup :=
    roster.nodup_names
  have hmem : ∀ r, r ∈ globals.toList ↔
      (settings.surveyor roster.toList).Uses disk settings.mainApp r := by
    intro r
    have hfresh : (settings.surveyor roster.toList).Settled disk
        { caching := !settings.cacheDisabled } := Surveyor.settled_of_store_eq_nil rfl
    rw [hfresh.mem_scan_iff distinct hmain hscan]
    simp
  have hexcluded : ∀ r ∈ roster.toList, r.name ∉ globals.names ↔ r ∉ globals.toList := fun r hr =>
    not_congr (name_mem_names_iff (fun g hg => ((hmem g).mp hg).1) hr)
  have hstart : SurveyState.Tells (settings.surveyor roster.toList) disk globals.names []
      ⟨{ excluded := globals.names, caching := !settings.cacheDisabled }, []⟩ :=
    ⟨Surveyor.settled_of_store_eq_nil rfl, rfl, by simp, by simp, by simp, by simp⟩
  obtain ⟨files, htells, hfiles⟩ := hstart.scanFolders distinct hdisk hfolders
  rw [← hglobals] at hmem hexcluded
  refine {
    reducers_eq := hreducers
    globals_increasing := hglobals ▸ globals.increasing
    mem_globals_iff := hmem
    keys_nodup := htells.nodup
    paths_nodup := htells.nodup_path
    path_iff := fun f => ?_
    key_eq := fun c hc => (htells.records c hc).key_eq
    increasing := fun c hc => (htells.records c hc).increasing
    mem_reducers_iff := fun c hc r => ?_ }
  · rw [htells.path_iff, hfiles]
    simp [Settings.area]
  · rw [(htells.records c hc).mem_iff]
    exact and_congr_right fun huses => hexcluded r huses.1

/-- **An atlas is the partition of a project by reach.** Whatever the settings, and on every tree on
which a survey ends normally: the atlas says which reducers the main file uses and which ones each
container uses on top. So no container holds a global reducer, and each reducer that the file of a
container uses is global or held by it. -/
theorem survey_partitions (disk : Disk) (hdisk : disk.WellFormed) (settings : Settings)
    (atlas : Atlas) (h : (survey disk settings).2 = .ok atlas) :
    ∃ roster,
      (registry disk settings.area settings.sagaName settings.reducerFolders).2 = .ok roster ∧
      atlas.Partitions disk settings roster ∧
      ∀ c ∈ atlas.containers, (∀ r ∈ c.reducers, r ∉ atlas.globals) ∧
        ∀ r, (settings.surveyor roster.toList).Uses disk c.path r →
          r ∈ atlas.globals ∨ r ∈ c.reducers := by
  obtain ⟨roster, hroster, hmain, huses⟩ := survey_ok h
  have hp := partitions_of_surveyUses hdisk hmain huses
  refine ⟨roster, hroster, hp, fun c hc => ⟨fun r hr => ((hp.mem_reducers_iff c hc r).mp hr).2, ?_⟩⟩
  intro r hr
  by_cases hg : r ∈ atlas.globals
  · exact .inl hg
  · exact .inr ((hp.mem_reducers_iff c hc r).mpr ⟨hr, hg⟩)

/-- A small project: its main file uses the user, its only page the cart as well. -/
def shopDisk : Disk where
  root :=
    .file "app.js" (Text.Utf8.encode "import './user/actions';".toList) <|
    .folder "cart"
      (.file "actions.js" [] <|
        .file "reducer.js" (Text.Utf8.encode "PRM_REDUCER_NAME = 'cart';".toList) .empty) <|
    .folder "pages"
      (.file "home.js"
          (Text.Utf8.encode "import '../cart/actions'; import '../user/actions';".toList) <|
        .file "home.test.js" [] .empty) <|
    .folder "user"
      (.file "actions.js" [] <|
        .file "reducer.js" (Text.Utf8.encode "PRM_REDUCER_NAME = 'user';".toList) .empty)
      .empty

/-- The settings of that project; its container folder is given twice. -/
def shopSettings : Settings where
  project := .root
  base := .root
  mainApp := Path.parse "/app.js"
  containerFolders := [Path.parse "/pages", Path.parse "/cart/../pages"]
  reducerFolders := [.root]
  globalsOutput := Path.parse "/globals.js"
  mapOutput := Path.parse "/map.js"
  actionNames := some ["actions.js"]
  sagaName := some ""

/-- Its atlas. -/
def shopAtlas : Atlas where
  reducers :=
    [⟨"cart", Path.parse "/cart/reducer.js", none⟩, ⟨"user", Path.parse "/user/reducer.js", none⟩]
  globals := [⟨"user", Path.parse "/user/reducer.js", none⟩]
  containers :=
    [⟨"./pages/home.js", Path.parse "/pages/home.js",
      [⟨"cart", Path.parse "/cart/reducer.js", none⟩]⟩]
  filesRead := 5
  usesFound := 2

theorem shopAtlas_partitions :
    shopDisk.WellFormed ∧ (survey shopDisk shopSettings).2 = .ok shopAtlas ∧
      ∃ roster, (registry shopDisk shopSettings.area shopSettings.sagaName
          shopSettings.reducerFolders).2 = .ok roster ∧
        shopAtlas.Partitions shopDisk shopSettings roster := by
  have hdisk : shopDisk.WellFormed := ⟨by decide +kernel, by decide +kernel⟩
  have h : (survey shopDisk shopSettings).2 = .ok shopAtlas := by decide +kernel
  obtain ⟨roster, hroster, hp, -⟩ := survey_partitions shopDisk hdisk shopSettings shopAtlas h
  exact ⟨hdisk, h, roster, hroster, hp⟩

end Survey

end ReducerAtlas
