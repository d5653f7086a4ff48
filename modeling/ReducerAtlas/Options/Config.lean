import ReducerAtlas.Disk.Basic
import ReducerAtlas.Json.Reader
import ReducerAtlas.Module.Lookup
import ReducerAtlas.Options.Basic
import ReducerAtlas.Options.Library

/-!
# The project and its configuration file

A project is the nearest folder with a package file. Its configuration file holds options under one
key, in JSON or in YAML, which is read by a library.

* `projectRoot`: the project that a folder belongs to.
* `configFile?`: the configuration file of a project; `configOptions`: its options.
-/

namespace ReducerAtlas

/-- The file that marks a project. -/
def packageFile : String := "package.json"

/-- The names of configuration files, the first one that exists counting. -/
def configNames : List String :=
  ["redux-mapper.json", "redux-mapper.yaml", "redux-mapper.yml"]

/-- The first of some folders that holds a package file. -/
def firstProject (disk : Disk) : List Path → Except Failure Path
  | [] => .error (.report ⟨.outsideProject, "", []⟩)
  | folder :: rest => do
    if ← liftIo (disk.isFile (folder.joinText packageFile)) then return folder
    firstProject disk rest

/-- **The project that a folder belongs to**: the nearest folder with a package file, from the
folder itself upwards. -/
def projectRoot (disk : Disk) (start : Path) : Except Failure Path := do
  firstProject disk (← Disk.resolve start).ancestors

/-- The first file of some names in a folder. -/
def firstFile (disk : Disk) (folder : Path) : List String → Except Failure (Option Path)
  | [] => .ok none
  | name :: rest => do
    let candidate := folder.joinText name
    if ← liftIo (disk.isFile candidate) then return some candidate
    firstFile disk folder rest

/-- **The configuration file of a project.** -/
def configFile? (disk : Disk) (project : Path) : Except Failure (Option Path) :=
  firstFile disk project configNames

/-- A configuration file that cannot be read: the detail ends with the reason in brackets. -/
def unreadable (file : Path) : Failure :=
  .report ⟨.badConfig, file.name ++ " (...)", []⟩

/-- A configuration file that has another shape. -/
def misshapen (file : Path) : Failure :=
  .report ⟨.badConfig, file.name, []⟩

/-- The value of a configuration file's text. -/
def configValue (library : Library) (file : Path) (content : List Char) : Except Failure Value :=
  if file.suffix.toLower == ".json" then
    match Json.read content with
    | .ok v => .ok v
    | .error .malformed => .error (unreadable file)
    | .error .longNumeral => .error .longNumeral
  else
    match library.readYaml content with
    | .ok v => .ok v
    | .error .malformed => .error (unreadable file)
    | .error (.broken failure) => .error failure

/-- The key that the options stand under. -/
def configKey : String := "config"

/-- The known options among the fields of a mapping. -/
def knownOptions (fields : List (Value × Value)) : Options :=
  fields.filterMap fun (key, v) =>
    match key with
    | .text name => if Options.known.contains name then some (name, v) else none
    | _ => none

/-- The options in the value of a configuration file. -/
def optionsIn (file : Path) : Value → Except Failure Options
  | .null => .ok []
  | .map fields =>
    match Value.field? configKey fields with
    | none | some .null => .ok []
    | some (.map options) => .ok (knownOptions options)
    | some _ => .error (misshapen file)
  | _ => .error (misshapen file)

/-- **The options of a configuration file**, none if there is no file. -/
def configOptions (library : Library) (disk : Disk) : Option Path → Except Failure Options
  | none => .ok []
  | some file =>
    match disk.readStrict file with
    | .error _ | .ok none => .error (unreadable file)
    | .ok (some content) => do optionsIn file (← configValue library file content)

end ReducerAtlas
