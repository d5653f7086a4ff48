import ReducerAtlas.Disk.Basic
import ReducerAtlas.Source.Token

/-!
# Finding modules

A module name in a source leads to files: from the folder of the source and from the base folder. A
path without a file of its own stands for that path with an extension, or for the index of a folder.

* `Lookup`: the extensions and the name of index files.
* `Lookup.find`: the file a path stands for; `candidates`: the paths a module name stands for.
* `Lookup.targets`: the files a module name leads to.
* `Source.Reference.admitted`: the references of an index that a restriction asks for.
-/

namespace ReducerAtlas

open ReducerAtlas.Text

/-- How paths without a file of their own are completed. -/
structure Lookup where
  extensions : List String := [".jsx", ".js"]
  indexName : String := "index.js"
  deriving DecidableEq, Repr

/-- The failure of a test on the file system stops a scan. -/
def liftIo {α : Type} : Except IoError α → Except Failure α
  | .ok a => .ok a
  | .error e => .error (.io e)

namespace Lookup

/-- The first file among a path with each of some extensions. -/
def findExtended (disk : Disk) (p : Path) : List String → Except Failure (Option Path)
  | [] => .ok none
  | extension :: rest => do
    match p.extend? extension with
    | none => .error (.badName p)
    | some candidate =>
      if ← liftIo (disk.isFile candidate) then return some candidate
      findExtended disk p rest

/-- The index file of a folder. -/
def findIndex (lookup : Lookup) (disk : Disk) (p : Path) : Except Failure (Option Path) := do
  let index := p.joinText lookup.indexName
  if ← liftIo (disk.isFolder p) then
    if ← liftIo (disk.isFile index) then return some index
  return none

/-- **The file a path stands for**: itself, itself with an extension, or the index of its folder. -/
def find (lookup : Lookup) (disk : Disk) (p : Path) : Except Failure (Option Path) := do
  if ← liftIo (disk.isFile p) then return some p
  match ← findExtended disk p lookup.extensions with
  | some found => return some found
  | none => lookup.findIndex disk p

/-- The file is the index of its folder. -/
def isIndex (lookup : Lookup) (file : Path) : Bool :=
  file.name == lookup.indexName

end Lookup

/-- A module name without outer blanks and leading slashes, with slashes only. -/
def plainSpecifier (specifier : String) : List Char :=
  ((trim specifier.toList).map fun c => if c = '\\' then '/' else c).dropWhile (· == '/')

/-- **The paths a module name stands for**: as seen from the folder of the source, then from the
base folder. Without anything in the name there are none. -/
def candidates (source : Path) (specifier : String) (base : Path) : List Path :=
  let plain := plainSpecifier specifier
  if plain.isEmpty then []
  else
    let seenFrom (folder : Path) := (folder.joinText (String.ofList plain)).normalize
    let first := seenFrom source.parent
    let second := seenFrom base
    if second = first then [first] else [first, second]

namespace Lookup

/-- The files that paths stand for, each once. -/
def findAll (lookup : Lookup) (disk : Disk) (found : List Path) :
    List Path → Except Failure (List Path)
  | [] => .ok found
  | p :: rest => do
    match ← lookup.find disk p with
    | none => findAll lookup disk found rest
    | some target =>
      findAll lookup disk (if found.contains target then found else found ++ [target]) rest

/-- **The files a module name leads to.** -/
def targets (lookup : Lookup) (disk : Disk) (source : Path) (specifier : String) (base : Path) :
    Except Failure (List Path) :=
  lookup.findAll disk [] (candidates source specifier base)

/-! ## Restrictions -/

/-- What a restriction means inside a file: only an index is read in part. -/
def incoming (lookup : Lookup) (file : Path) (restriction : Option NameSet) : Option NameSet :=
  if lookup.isIndex file then restriction else none

end Lookup

/-- A reference is followed if nothing is restricted, if it forwards every name, or if it binds a
name that is asked for. -/
def Source.Reference.admitted (reference : Source.Reference) (restriction : Option NameSet) :
    Bool :=
  match restriction, reference.clause.bindings with
  | some asked, some bound => NameSet.meets bound asked
  | _, _ => true

end ReducerAtlas
