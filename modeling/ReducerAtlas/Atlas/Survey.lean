import ReducerAtlas.Atlas.Basic
import ReducerAtlas.Options.Settings
import ReducerAtlas.Reducer.Registry
import ReducerAtlas.Usage.Scan

/-!
# Surveys

A survey finds the reducers of a project, then those that the main file uses, and then those that
each container uses on top.

* `isContainer`: the files of a container folder that can be the target of a route.
* `survey`: the atlas of a project, with the journal of how it was made.
-/

namespace ReducerAtlas

open ReducerAtlas.Text

/-! ## Containers -/

/-- The extensions of pictures. -/
def pictureSuffixes : List String := [".jpg", ".jpeg", ".png", ".gif"]

/-- A piece of text stands somewhere in another. -/
def occursIn (piece : List Char) : List Char → Bool
  | [] => piece.isEmpty
  | c :: cs => piece.isPrefixOf (c :: cs) || occursIn piece cs

/-- **A file that can be the target of a route**: no folder settings, test or picture. -/
def isContainer (file : Path) : Bool :=
  let name := file.name.toLower
  name != ".ds_store" && !occursIn ".test.".toList name.toList &&
    !pictureSuffixes.contains file.suffix.toLower

/-- The state of the second half of a survey: the phase of all container scans, and the containers
so far. -/
structure SurveyState where
  phase : Phase
  containers : List Container := []

/-- A new state with what was noted, or the failure that ended the survey. -/
abbrev Stage := Journal × Except Failure SurveyState

/-- Scans some files one after the other, each on its own. -/
def scanFiles (surveyor : Surveyor) (disk : Disk) : SurveyState → List Path → Stage
  | state, [] => ([], .ok state)
  | state, file :: rest =>
    let scanned := surveyor.scan disk state.phase [] none file
    match scanned.outcome with
    | .error failure => (scanned.journal, .error failure)
    | .ok usage =>
      let container : Container := ⟨Path.display surveyor.base file, file, usage.toList⟩
      let (journal, result) := scanFiles surveyor disk
        ⟨scanned.phase, container.place state.containers⟩ rest
      (scanned.journal ++ .containerUses container.key container.reducerNames :: journal, result)

/-- Scans the containers of some folders one after the other. What ends a listing early comes after
the files before it. -/
def scanFolders (surveyor : Surveyor) (disk : Disk) (area : Area) :
    SurveyState → List Path → Stage
  | state, [] => ([], .ok state)
  | state, folder :: rest =>
    let listing := area.listing disk folder
    match scanFiles surveyor disk state (listing.files.filter isContainer) with
    | (notes, .error failure) => (.scanningFolder folder :: notes, .error failure)
    | (notes, .ok state) =>
      match listing.ending with
      | .error failure => (.scanningFolder folder :: notes, .error failure)
      | .ok () =>
        let (journal, result) := scanFolders surveyor disk area state rest
        (.scanningFolder folder :: notes ++ journal, result)

/-! ## Surveys -/

/-- What the settings leave out, and where displayed paths start. -/
def Settings.area (settings : Settings) : Area :=
  { base := some settings.base
    refused := IgnoreRule.refuses settings.ignore
    blind := settings.ignore.any (·.onBytes) }

/-- The surveyor of some reducers under the settings. -/
def Settings.surveyor (settings : Settings) (reducers : List Reducer) : Surveyor :=
  { reducers := reducers, base := settings.base, actionNames := settings.actionNames }

/-- The uses of the main file, then those of the containers without the global ones. -/
def surveyUses (disk : Disk) (settings : Settings) (reducers : List Reducer) :
    Journal × Except Failure Atlas :=
  let surveyor := settings.surveyor reducers
  let caching := !settings.cacheDisabled
  let main := surveyor.scan disk { caching := caching } [] none settings.mainApp
  let opening := .findingGlobals settings.mainApp :: main.journal
  match main.outcome with
  | .error failure => (opening, .error failure)
  | .ok globals =>
    let phase : Phase := { excluded := globals.names, caching := caching }
    let (journal, result) := scanFolders surveyor disk settings.area ⟨phase, []⟩
      settings.containerFolders
    let journal := opening ++ .globals globals.names :: journal
    match result with
    | .error failure => (journal, .error failure)
    | .ok state =>
      let uses := main.phase.usesFound + state.phase.usesFound
      if uses = 0 then (journal, .error (.report ⟨.noReferences, "", []⟩))
      else
        (journal, .ok {
          reducers := reducers
          globals := globals.toList
          containers := state.containers
          filesRead := main.phase.filesRead + state.phase.filesRead
          usesFound := uses })

/-- **The atlas of a project**, with the journal up to its end or to the failure that ended it. -/
def survey (disk : Disk) (settings : Settings) : Journal × Except Failure Atlas :=
  let (journal, found) := registry disk settings.area settings.sagaName settings.reducerFolders
  match found with
  | .error failure => (journal, .error failure)
  | .ok roster =>
    let journal := journal ++ [.reducersFound roster.names]
    if roster.toList.isEmpty then (journal, .error (.report ⟨.noReducers, "", []⟩))
    else
      match disk.isFile settings.mainApp with
      | .error e => (journal, .error (.io e))
      | .ok false => (journal, .error (.report ⟨.noMainApp, settings.mainApp.render, []⟩))
      | .ok true =>
        let (more, result) := surveyUses disk settings roster.toList
        (journal ++ more, result)

end ReducerAtlas
