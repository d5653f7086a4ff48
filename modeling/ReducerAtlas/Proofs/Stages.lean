import Mathlib.Tactic.SplitIfs
import Mathlib.Tactic.Tauto
import ReducerAtlas.Atlas.Survey
import ReducerAtlas.Proofs.Lookup

/-!
# The stages of a survey

A survey is one computation after another, up to the first that fails. Here the results of its
stages are written as such, apart from what is noted on the way.

* `Area.Offers`, `Settings.Starts`: the files that a survey scans.
* `scanFiles_cons`, `scanFolders_cons`: one more file, one more folder.
* `surveyUses_snd`, `survey_snd`: the stages of a whole survey.
-/

namespace ReducerAtlas

/-! ## The files to scan -/

/-- A file of one of the folders that can be the target of a route, and comes before any entry that
ends the listing. -/
def Area.Offers (area : Area) (disk : Disk) (folders : List Path) (file : Path) : Prop :=
  isContainer file = true ∧ ∃ folder ∈ folders, file ∈ (area.listing disk folder).files

theorem Area.offers_cons {area : Area} {disk : Disk} {folder file : Path} {rest : List Path} :
    area.Offers disk (folder :: rest) file ↔
      file ∈ (area.listing disk folder).files.filter isContainer ∨ area.Offers disk rest file := by
  simp only [Offers, List.mem_cons, exists_eq_or_imp, List.mem_filter]
  tauto

/-- **The files that a survey scans**: the main file and the containers. -/
def Settings.Starts (settings : Settings) (disk : Disk) (file : Path) : Prop :=
  file = settings.mainApp ∨ settings.area.Offers disk settings.containerFolders file

/-! ## One computation after another -/

theorem exists_bind_eq_ok {ε α β : Type} {x : Except ε α} {f : α → Except ε β} :
    (∃ b, (x >>= f) = .ok b) ↔ ∃ a, x = .ok a ∧ ∃ b, f a = .ok b := by
  simp only [bind_eq_ok_iff]
  constructor
  · rintro ⟨b, a, ha, hb⟩
    exact ⟨a, ha, b, hb⟩
  · rintro ⟨a, ha, b, hb⟩
    exact ⟨b, a, ha, hb⟩

section Scans

variable {surveyor : Surveyor} {disk : Disk} {state : SurveyState} {area : Area}
  {file folder : Path} {rest : List Path}

theorem scanFiles_cons : (scanFiles surveyor disk state (file :: rest)).2 = (do
    let usage ← (surveyor.scan disk state.phase [] none file).outcome
    (scanFiles surveyor disk ⟨(surveyor.scan disk state.phase [] none file).phase,
      Container.place ⟨Path.display surveyor.base file, file, usage.toList⟩ state.containers⟩
      rest).2) := by
  simp only [scanFiles]
  cases (surveyor.scan disk state.phase [] none file).outcome <;> rfl

/-- The scans of the containers of one folder, the end of its listing, then the other folders. -/
theorem scanFolders_cons : (scanFolders surveyor disk area state (folder :: rest)).2 = (do
    let middle ← (scanFiles surveyor disk state
      ((area.listing disk folder).files.filter isContainer)).2
    (area.listing disk folder).ending
    (scanFolders surveyor disk area middle rest).2) := by
  simp only [scanFolders]
  rcases scanFiles surveyor disk state ((area.listing disk folder).files.filter isContainer) with
    ⟨notes, _ | middle⟩
  · rfl
  · rcases (area.listing disk folder).ending with _ | _ <;> rfl

end Scans

section Survey

variable {disk : Disk} {settings : Settings} {reducers : List Reducer}

/-- The report that no reducer is used. -/
def nothingUsed : Report := ⟨.noReferences, "", []⟩

theorem surveyUses_snd : (surveyUses disk settings reducers).2 = (do
    let globals ← ((settings.surveyor reducers).scan disk { caching := !settings.cacheDisabled } []
      none settings.mainApp).outcome
    let state ← (scanFolders (settings.surveyor reducers) disk settings.area
      ⟨{ excluded := globals.names, caching := !settings.cacheDisabled }, []⟩
      settings.containerFolders).2
    let main := ((settings.surveyor reducers).scan disk { caching := !settings.cacheDisabled } []
      none settings.mainApp).phase
    if main.usesFound + state.phase.usesFound = 0 then .error (.report nothingUsed)
    else .ok {
      reducers := reducers
      globals := globals.toList
      containers := state.containers
      filesRead := main.filesRead + state.phase.filesRead
      usesFound := main.usesFound + state.phase.usesFound }) := by
  simp only [surveyUses]
  cases ((settings.surveyor reducers).scan disk { caching := !settings.cacheDisabled } [] none
      settings.mainApp).outcome with
  | error failure => rfl
  | ok globals =>
    dsimp only [bind, Except.bind]
    cases (scanFolders (settings.surveyor reducers) disk settings.area
      ⟨{ excluded := globals.names, caching := !settings.cacheDisabled }, []⟩
      settings.containerFolders).2 with
    | error failure => rfl
    | ok state =>
      dsimp only
      split_ifs <;> rfl

/-- The search for reducers, two tests, and then the scans. -/
theorem survey_snd : (survey disk settings).2 = (do
    let roster ← (registry disk settings.area settings.sagaName settings.reducerFolders).2
    if roster.toList.isEmpty then .error (.report ⟨.noReducers, "", []⟩)
    else
      match disk.isFile settings.mainApp with
      | .error e => .error (.io e)
      | .ok false => .error (.report ⟨.noMainApp, settings.mainApp.render, []⟩)
      | .ok true => (surveyUses disk settings roster.toList).2) := by
  simp only [survey]
  cases (registry disk settings.area settings.sagaName settings.reducerFolders).2 with
  | error failure => rfl
  | ok roster =>
    dsimp only [bind, Except.bind]
    split_ifs
    · rfl
    · rcases disk.isFile settings.mainApp with _ | _ | _ <;> rfl

end Survey

end ReducerAtlas
