import ReducerAtlas.Path.Basic

/-!
# Reducers

A reducer is known by the name of its state member. Its definition file, and the file of its sagas
if there is one, are where it lives.

* `Reducer`: a definition; `Reducer.folder`: the folder that holds it and its actions.
* `Reducer.sortByName`: reducers in the order of their names, equal names in their given order.
-/

namespace ReducerAtlas

/-- A reducer found in a tree of files. -/
structure Reducer where
  name : String
  definition : Path
  saga : Option Path := none
  deriving DecidableEq, Repr

namespace Reducer

/-- The folder that holds the definition and the action files. -/
def folder (r : Reducer) : Path :=
  r.definition.parent

/-- The reducer before the first one of a greater or equal name. -/
def insertByName (r : Reducer) : List Reducer → List Reducer
  | [] => [r]
  | s :: rest => if s.name < r.name then s :: insertByName r rest else r :: s :: rest

/-- The reducers in the order of their names; equal names keep their order. -/
def sortByName (reducers : List Reducer) : List Reducer :=
  reducers.foldr insertByName []

end Reducer

end ReducerAtlas
