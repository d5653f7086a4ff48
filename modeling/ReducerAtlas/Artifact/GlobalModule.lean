import ReducerAtlas.Artifact.Reference
import ReducerAtlas.Reducer.Basic

/-!
# The module of the global reducers

A source that imports every global reducer and exports them all under their names.

* `globalModule`: the text of the module.
-/

namespace ReducerAtlas.Artifact

open ReducerAtlas.Text

/-- The import of a reducer's definition. -/
def importLine (folder : Path) (r : Reducer) : String :=
  "import " ++ r.name ++ " from \"" ++ moduleReference r.definition folder ++ "\";"

/-- The field of a reducer in the export. -/
def exportLine (r : Reducer) : String :=
  "  " ++ r.name ++ ","

/-- **The module of the global reducers** at an output path, in the order of their names. -/
def globalModule (globals : List Reducer) (output : Path) : String :=
  let reducers := Reducer.sortByName globals
  joinWith "\n" (header ++ reducers.map (importLine output.parent) ++
    "" :: "export default \x7b" :: reducers.map exportLine ++ ["\x7d;", ""])

end ReducerAtlas.Artifact
