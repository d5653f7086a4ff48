import ReducerAtlas.Artifact.Reference
import ReducerAtlas.Atlas.Basic
import ReducerAtlas.Json.Layout

/-!
# The map file

A data file with a lazy loader for every reducer, global or of a container. Loaders are code
inside a JSON document: they are fenced as words, and the fences are taken out of the finished
text.

* `entry`, `entries`: what is written for reducers; `mapDocument`: the whole document.
* `mapFile`: the text of the file.
-/

namespace ReducerAtlas.Artifact

open ReducerAtlas.Text

/-- The fence around code. -/
def fence : String := "$$"

/-- Code with its fences. -/
def fenced (code : String) : String :=
  fence ++ code ++ fence

/-- The fenced loader of a file, as seen from a folder. -/
def fileLoader (folder target : Path) : String :=
  fenced (loader (moduleReference target folder))

/-- What is written for a reducer: its name, the loader of its definition, and that of its sagas if
there are any. -/
def entry (folder : Path) (r : Reducer) : List (String × String) :=
  [("reducerName", r.name), ("importFunc", fileLoader folder r.definition)] ++
    (r.saga.map fun saga => ("sagaImportFunc", fileLoader folder saga)).toList

/-- What is written for reducers, in the order of their names. -/
def entries (folder : Path) (reducers : List Reducer) : List (List (String × String)) :=
  (Reducer.sortByName reducers).map (entry folder)

/-- The document of reducers. -/
def reducersDocument (folder : Path) (reducers : List Reducer) : Json.Doc :=
  .list ((entries folder reducers).map fun fields =>
    .object (fields.map fun (name, text) => (name, .word text)))

/-- The document of a container. -/
def containerDocument (folder : Path) (c : Container) : Json.Doc :=
  .object [
    ("importFunc", .word (fileLoader folder c.path)),
    ("reducers", reducersDocument folder c.reducers)]

/-- The document of an atlas, the containers in the order of their keys. -/
def mapDocument (folder : Path) (atlas : Atlas) : Json.Doc :=
  .object [
    ("global", reducersDocument folder atlas.globals),
    ("containerSpecific", .object ((Container.sortByKey atlas.containers).map fun c =>
      (c.key, containerDocument folder c)))]

/-- The text without fences that stand next to a quote. -/
def dropFences (cs : List Char) : List Char :=
  let mark := fence.toList
  replaceAll (mark ++ ['\x22']) [] (replaceAll ('\x22' :: mark) [] cs)

/-- The layout of the map file that is written. -/
def standardLayout : Json.Layout := .spaces 2

/-- **The map file of an atlas** at an output path. -/
def mapFile (atlas : Atlas) (output : Path) (layout : Json.Layout) : String :=
  let body := ((mapDocument output.parent atlas).render layout).toList
  joinWith "\n" (header ++ ["module.exports = " ++ String.ofList (dropFences body) ++ ";", ""])

end ReducerAtlas.Artifact
