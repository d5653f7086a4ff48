import ReducerAtlas.Reducer.Basic

/-!
# Atlases

The result of a survey: the reducers of a project, which of them the whole application uses, and
which ones each container needs on top.

* `Container`: a file that can be the target of a route, with the reducers it uses.
* `Atlas`: the result of a survey; `Atlas.summary`: its size in one line.
-/

namespace ReducerAtlas

/-- A file that can be the target of a route, by its displayed path, and the reducers it uses. -/
structure Container where
  key : String
  path : Path
  reducers : List Reducer
  deriving DecidableEq, Repr

/-- The names of the reducers that a container uses. -/
def Container.reducerNames (c : Container) : List String :=
  c.reducers.map (·.name)

/-- The containers with one more: one of the same key is replaced in its place. -/
def Container.place (c : Container) : List Container → List Container
  | [] => [c]
  | d :: rest => if d.key = c.key then c :: rest else d :: place c rest

/-- The containers with more of them, one after the other. -/
def Container.placeAll (containers more : List Container) : List Container :=
  more.foldl (fun known c => c.place known) containers

/-- The container before the first one of a greater or equal key. -/
def Container.insertByKey (c : Container) : List Container → List Container
  | [] => [c]
  | d :: rest => if d.key < c.key then d :: insertByKey c rest else c :: d :: rest

/-- The containers in the order of their keys. -/
def Container.sortByKey (containers : List Container) : List Container :=
  containers.foldr insertByKey []

/-- The reducers of a project, the global ones, the containers in the order they were found, and
what was counted. -/
structure Atlas where
  reducers : List Reducer := []
  globals : List Reducer := []
  containers : List Container := []
  filesRead : Nat := 0
  usesFound : Nat := 0
  deriving DecidableEq, Repr

/-- The size of an atlas in one line. -/
def Atlas.summary (atlas : Atlas) : String :=
  "ReducerMap(reducers=" ++ toString atlas.reducers.length ++
    ", global=" ++ toString atlas.globals.length ++
    ", containers=" ++ toString atlas.containers.length ++
    ", usages=" ++ toString atlas.usesFound ++ ")"

end ReducerAtlas
