import ReducerAtlas.Disk.Basic
import ReducerAtlas.Journal
import ReducerAtlas.Module.Lookup
import ReducerAtlas.Reducer.Roster

/-!
# Finding reducers

Reducers are found by the marker in their definition file, in several folders one after the other;
the first definition of a name counts.

* `Area`: the folder that paths are displayed from, and the paths to leave out; `Area.listing`: the
  files of an area below a folder.
* `sagaNames`: the name of the saga file that each reducer is claimed by.
* `definitions`: the reducers of one folder; `registry`: those of several.
-/

namespace ReducerAtlas

/-- Where displayed paths start, and which of them are left out. -/
structure Area where
  base : Option Path := none
  refused : String → Bool := fun _ => false
  /-- What to leave out is given by a pattern of bytes, which fails on every path. -/
  blind : Bool := false

/-- The files of an area below a folder. Without a pattern that can be compared with a path, the
first entry ends the listing. -/
def Area.listing (area : Area) (disk : Disk) (folder : Path) : Disk.Listing :=
  if area.blind then
    disk.listingBy (fun _ => .error .patternNotText) (fun _ => false) area.base folder
  else disk.listing area.refused area.base folder

/-- The summary of a source. -/
def readSummary (disk : Disk) (file : Path) : Except Failure Source.Summary := do
  let content ← liftIo (disk.readText file)
  return Source.Summary.of content

/-- The claims on sagas in some files: the reducer and the name of the file. -/
def sagaClaims (disk : Disk) : List Path → Except Failure (List (String × String))
  | [] => .ok []
  | file :: rest => do
    let summary ← readSummary disk file
    let others ← sagaClaims disk rest
    match summary.value? Source.sagaMarker with
    | some reducer => return (reducer, file.name) :: others
    | none => return others

/-- The name of the saga file of each reducer; of several claims the last counts. -/
def lastClaim? (claims : List (String × String)) (reducer : String) : Option String :=
  claims.reverse.lookup reducer

/-- Which saga file belongs to a reducer: the same name for all, or the name that was claimed. -/
inductive SagaRule
  | fixed (name : String)
  | claimed (claims : List (String × String))
  deriving DecidableEq, Repr

/-- The name of a reducer's saga file, if any. -/
def SagaRule.fileName? (rule : SagaRule) (reducer : String) : Option String :=
  let name := match rule with
    | .fixed name => some name
    | .claimed claims => lastClaim? claims reducer
  name.filter (!·.isEmpty)

/-- The saga file beside a definition, if its name is known and the file exists. -/
def sagaBeside (disk : Disk) (rule : SagaRule) (reducer : String) (definition : Path) :
    Except Failure (Option Path) := do
  match rule.fileName? reducer with
  | none => return none
  | some name =>
    let candidate := definition.parent.joinText name
    if ← liftIo (disk.isFile candidate) then return some candidate else return none

/-- The reducer that a file defines, if any. -/
def definedBy (disk : Disk) (rule : SagaRule) (file : Path) : Except Failure (Option Reducer) := do
  let summary ← readSummary disk file
  match summary.value? Source.reducerMarker with
  | none => return none
  | some name =>
    let saga ← sagaBeside disk rule name file
    return some ⟨name, file, saga⟩

/-- The reducers that some files define, up to the first failure. -/
def definedIn (disk : Disk) (rule : SagaRule) : List Path → Except Failure (List Reducer)
  | [] => .ok []
  | file :: rest => do
    let found ← definedBy disk rule file
    let others ← definedIn disk rule rest
    return found.toList ++ others

/-- The claims on sagas below a folder, in the order of the files. What ends the listing early comes
after the files before it. -/
def sagaNames (disk : Disk) (area : Area) (folder : Path) :
    Except Failure (List (String × String)) := do
  let listing := area.listing disk folder
  let claims ← sagaClaims disk listing.files
  listing.ending
  return claims

/-- **The reducers below a folder**, in the order of the files. Without a fixed name for saga files
the claims below the same folder count; an empty name means that there are no sagas. -/
def definitions (disk : Disk) (area : Area) (sagaName : Option String) (folder : Path) :
    Except Failure (List Reducer) := do
  let rule ← match sagaName with
    | some name => .ok (.fixed name)
    | none => (sagaNames disk area folder).map .claimed
  let listing := area.listing disk folder
  let found ← definedIn disk rule listing.files
  listing.ending
  return found

/-- The roster with more reducers, and notes on those whose name is taken. -/
def register : Roster → List Reducer → Roster × Journal
  | roster, [] => (roster, [])
  | roster, r :: rest =>
    match roster.find? r.name with
    | some kept =>
      let (roster, journal) := register roster rest
      (roster, .duplicateReducer r.name r.definition kept.definition :: journal)
    | none => register (roster.insert r) rest

/-- The reducers of several folders after those already known. -/
def registryFrom (disk : Disk) (area : Area) (sagaName : Option String) :
    Roster → List Path → Journal × Except Failure Roster
  | roster, [] => ([], .ok roster)
  | roster, folder :: rest =>
    match definitions disk area sagaName folder with
    | .error e => ([.findingReducers folder], .error e)
    | .ok found =>
      let (roster, notes) := register roster found
      let (journal, result) := registryFrom disk area sagaName roster rest
      (.findingReducers folder :: notes ++ journal, result)

/-- **The reducers of several folders**: for each name the first definition, in the order of the
folders and then of the files. -/
def registry (disk : Disk) (area : Area) (sagaName : Option String) (folders : List Path) :
    Journal × Except Failure Roster :=
  registryFrom disk area sagaName .empty folders

end ReducerAtlas
