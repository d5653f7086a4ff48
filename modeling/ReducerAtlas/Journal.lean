import ReducerAtlas.Path.Basic

/-!
# Journals

What a run tells about itself while it goes on.

* `Note`: something worth telling; `Note.level`, `Note.message`: how loud, and in which words.
* `Journal`: the notes of a run, in order.
-/

namespace ReducerAtlas

open ReducerAtlas.Text

/-- How loud a note is: for everyone, or only for a verbose run. -/
inductive Level
  | info
  | debug
  deriving DecidableEq, Repr

/-- Something worth telling. -/
inductive Note
  | findingReducers (folder : Path)
  | duplicateReducer (name : String) (found kept : Path)
  | reducersFound (names : List String)
  | findingGlobals (app : Path)
  | globals (names : List String)
  | scanningFolder (folder : Path)
  | containerUses (key : String) (names : List String)
  | unresolved (depth : Nat) (file : Path)
  | scanning (depth : Nat) (file : Path)
  | noSuchFile (depth : Nat) (file : Path)
  | usageFound (depth : Nat) (name : String)
  | notAskedFor (depth : Nat) (specifiers : List String)
  | cycle (depth : Nat) (target : Path)
  deriving DecidableEq, Repr

/-- The notes of a run, in order. -/
abbrev Journal := List Note

/-- The steps of a run are for everyone, their results for a verbose run. -/
def Note.level : Note → Level
  | .findingReducers _ | .findingGlobals _ | .scanningFolder _ => .info
  | _ => .debug

/-- Three spaces for each level of depth. -/
def indent (depth : Nat) : String :=
  String.ofList (List.replicate (depth * 3) ' ')

/-- The names with commas between them. -/
def commaList (names : List String) : String :=
  joinWith ", " names

/-- The words of a note. -/
def Note.message : Note → String
  | .findingReducers folder => "Finding reducers in " ++ folder.render ++ " ..."
  | .duplicateReducer name found kept =>
    "duplicate reducer " ++ name ++ " in " ++ found.render ++ ", keeping " ++ kept.render
  | .reducersFound names => "reducers found: " ++ commaList names
  | .findingGlobals app => "Finding global reducers in " ++ app.render ++ " ..."
  | .globals names => "global reducers: " ++ commaList names
  | .scanningFolder folder => "Scanning reducer usage in " ++ folder.render ++ " ..."
  | .containerUses key names =>
    let listed := commaList names
    key ++ " uses: " ++ (if listed.isEmpty then "(none)" else listed)
  | .unresolved depth file => indent depth ++ "unresolved: " ++ file.render
  | .scanning depth file => indent depth ++ "scanning: " ++ file.render
  | .noSuchFile depth file => indent depth ++ "no such file: " ++ file.render
  | .usageFound depth name => indent depth ++ "  found reducer usage: " ++ name
  | .notAskedFor depth specifiers =>
    indent depth ++ "  ignoring import not in module list: " ++ commaList specifiers
  | .cycle depth target => indent depth ++ "  cycle back to: " ++ target.render

end ReducerAtlas
