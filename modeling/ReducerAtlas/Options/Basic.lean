import ReducerAtlas.Failure
import ReducerAtlas.Text.Blank
import ReducerAtlas.Value

/-!
# Options

The options of a run by name, and how their values are read as lists and switches.

* `Options`: values by name; `Options.fill`: options completed from others.
* `Options.required`, `Options.known`: the names of options.
* `Value.items`: a value read as a list of texts; `Value.isOn`: a value read as a switch.
* `Value.optionText`, `Value.optionItems`: the text and the items of a value that has one.
-/

namespace ReducerAtlas

open ReducerAtlas.Text

/-- The text of an option's value. -/
def Value.optionText (v : Value) : Except Failure (List Letter) :=
  if v.hasText then .ok v.asText else .error .longNumeral

/-- **A value as a list of texts**: its items, or the parts of its text between commas, without
outer blanks and without empty ones. -/
def Value.items (v : Value) : List (List Letter) :=
  let parts := match v with
    | .null => []
    | .list items => items.map Value.asText
    | v => splitBy (· == Letter.char ',') v.asText
  (parts.map trimLetters).filter (!·.isEmpty)

/-- The texts that an option's value lists. -/
def Value.optionItems (v : Value) : Except Failure (List (List Letter)) :=
  if v.hasText then .ok v.items else .error .longNumeral

/-- The words that turn a switch on. -/
def onWords : List String := ["1", "true", "yes", "on"]

/-- **A value as a switch**: a text by its word, whatever its case, and any other value by its
truth. -/
def Value.isOn : Value → Bool
  | .text s => onWords.contains (trimmed s).toLower
  | .broken _ => false
  | v => v.isTrue

/-- Values by the names of options, in the order they were given. -/
abbrev Options := List (String × Value)

namespace Options

/-- The options that have to be given, in the order they are asked for. -/
def required : List String :=
  ["mainAppPath", "basePath", "containerPaths", "globalReducersOutputPath",
    "reducerMapOutputPath", "reduxPaths"]

/-- All options. -/
def known : List String :=
  required ++ ["actionFilenames", "disableCache", "ignorePaths", "sagaFilename", "verboseLogging"]

/-- The value of an option; null if it was not given. -/
def value (options : Options) (name : String) : Value :=
  (options.lookup name).getD .null

/-- The options with a value for a name, in place of one it may have had. -/
def put (name : String) (v : Value) : Options → Options
  | [] => [(name, v)]
  | (n, w) :: rest => if n = name then (n, v) :: rest else (n, w) :: put name v rest

/-- An option that was not given. -/
def lacks (options : Options) (name : String) : Bool :=
  match options.value name with
  | .null => true
  | _ => false

/-- **Options completed from others**: what is given stays, the rest is filled in. -/
def fill (options others : Options) : Options :=
  others.foldl (fun known (name, v) => if known.lacks name then known.put name v else known) options

/-- The first required option that is missing or blank. -/
def missing? (options : Options) : Option String :=
  required.find? fun name =>
    match options.value name with
    | .null => true
    | .text s => (trimmed s).isEmpty
    | _ => false

end Options

end ReducerAtlas
