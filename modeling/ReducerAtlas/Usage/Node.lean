import ReducerAtlas.Module.Lookup
import ReducerAtlas.Reducer.Roster
import ReducerAtlas.Journal

/-!
# The import graph

A node of the import graph is a file and the names that are asked of it. What is read at a node is
worked out from the disk alone, so the graph is a function.

* `Node`: a file and the names asked of it.
* `Step`: one thing that a file's references lead to; `Reading`: all that stands at a node.
* `Surveyor`: the reducers and rules of a survey; `Surveyor.read`: the reading of a node.
-/

namespace ReducerAtlas

/-- A file and the names asked of it, or all. -/
structure Node where
  file : Path
  asked : Option (List String)
  deriving DecidableEq, Repr

/-- One thing that the references of a file lead to. -/
inductive Step
  /-- A reference that binds nothing of what is asked for. -/
  | notAskedFor (specifiers : List String)
  /-- A file that is being visited by the caller. -/
  | blocked (target : Path)
  /-- Another node. -/
  | follow (node : Node)
  /-- A module name whose lookup fails. -/
  | fail (failure : Failure)
  deriving DecidableEq, Repr

/-- What stands at a node. -/
inductive Reading
  /-- The file is not there. -/
  | absent
  /-- The file cannot be read. -/
  | broken (failure : Failure)
  /-- The reducers that the file belongs to, and what its references lead to. -/
  | source (uses : List Reducer) (steps : List Step)
  deriving DecidableEq, Repr

/-- The reducers to look for, the base folder, how modules are found, and the names of action files
if they are known by name. -/
structure Surveyor where
  reducers : List Reducer
  base : Path
  lookup : Lookup := {}
  actionNames : Option (List String) := none
  deriving DecidableEq, Repr

namespace Surveyor

/-- A file belongs to a reducer: it is an action file beside the definition or, where action files
are not known by name, it names the reducer. -/
def belongs (surveyor : Surveyor) (file : Path) (owner : Option String) (r : Reducer) : Bool :=
  match surveyor.actionNames with
  | some names => file.parent == r.folder && names.contains file.name
  | none => owner == some r.name

/-- The reducers that a file belongs to, without the excluded names. -/
def usesOf (surveyor : Surveyor) (excluded : List String) (file : Path) (owner : Option String) :
    List Reducer :=
  surveyor.reducers.filter fun r => !excluded.contains r.name && surveyor.belongs file owner r

/-- The node of a file and a restriction: only an index is read in part. -/
def node (surveyor : Surveyor) (file : Path) (restriction : Option NameSet) : Node :=
  ⟨file, (surveyor.lookup.incoming file restriction).map NameSet.ofList⟩

/-- What one module name of a reference leads to. -/
def specifierSteps (surveyor : Surveyor) (disk : Disk) (blocked : List Path) (file : Path)
    (restriction : Option NameSet) (specifier : String) : List Step :=
  match surveyor.lookup.targets disk file specifier surveyor.base with
  | .error failure => [.fail failure]
  | .ok targets => targets.map fun target =>
    if blocked.contains target then .blocked target else .follow (surveyor.node target restriction)

/-- What a reference leads to. -/
def referenceSteps (surveyor : Surveyor) (disk : Disk) (blocked : List Path) (node : Node)
    (reference : Source.Reference) : List Step :=
  if reference.admitted node.asked then
    reference.specifiers.flatMap
      (surveyor.specifierSteps disk blocked node.file reference.clause.restriction)
  else [.notAskedFor reference.specifiers]

/-- **What stands at a node.** A file that is missing, or that lies below a file, is absent. -/
def read (surveyor : Surveyor) (disk : Disk) (excluded : List String) (blocked : List Path)
    (node : Node) : Reading :=
  match disk.readText node.file with
  | .error e =>
    if e.cause = .missing ∨ e.cause = .notFolder then .absent else .broken (.io e)
  | .ok content =>
    let summary := Source.Summary.of content
    .source (surveyor.usesOf excluded node.file (summary.value? Source.actionMarker))
      (summary.references.flatMap (surveyor.referenceSteps disk blocked node))

end Surveyor

end ReducerAtlas
