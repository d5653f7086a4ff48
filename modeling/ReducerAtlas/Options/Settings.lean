import ReducerAtlas.Disk.Basic
import ReducerAtlas.Options.Basic
import ReducerAtlas.Pattern.Reader
import ReducerAtlas.Pattern.Search

/-!
# Settings

Options that were checked and made absolute: everything a survey needs to know.

* `IgnoreRule`: a pattern of paths to leave out; `IgnoreRule.ofValue`: the rule of an option.
* `Settings`: all that a survey needs; `Settings.ofOptions`: the settings of some options.
-/

namespace ReducerAtlas

open ReducerAtlas.Text

/-- A pattern of paths to leave out, with its text. -/
structure IgnoreRule where
  text : String
  pattern : Pattern
  /-- The pattern is one of bytes, and no path can be compared with it. -/
  onBytes : Bool := false
  deriving DecidableEq

/-- The failure of a pattern that is refused: only a malformed one is reported. -/
def Pattern.Fault.failure (text : String) : Pattern.Fault → Failure
  | .malformed => .report ⟨.badPattern, text ++ " (...)", []⟩
  | .flagClash => .flagClash
  | .tooLarge => .numberTooLarge
  | .longNumeral => .longNumeral

/-- The reading of an option as a pattern, with its text and the word whether it is one of bytes. An
option of another kind has none. -/
def Value.patternReading? (characters : CharacterNames) :
    Value → Option (String × Bool × Except Pattern.Fault Pattern)
  | .text s => some (s, false, Pattern.read characters s)
  | .broken ls =>
    let s := String.ofList (spelledOut ls)
    some (s, false, Pattern.read characters s)
  | .bytes content => some (quotedBytes content, true, Pattern.readBytes content)
  | _ => none

/-- **The rule of an option**: none for an empty value, and otherwise the pattern that it writes. -/
def IgnoreRule.ofValue (characters : CharacterNames) (v : Value) :
    Except Failure (Option IgnoreRule) :=
  if !v.isTrue then .ok none
  else
    match v.patternReading? characters with
    | none => .error .patternNotText
    | some (text, _, .error fault) => .error (fault.failure text)
    | some (text, onBytes, .ok pattern) => .ok (some ⟨text, pattern, onBytes⟩)

/-- A displayed path is left out. -/
def IgnoreRule.refuses (rule : Option IgnoreRule) (shown : String) : Bool :=
  rule.any fun r => r.pattern.found shown

/-- All that a survey needs to know. Paths are absolute. -/
structure Settings where
  project : Path
  base : Path
  mainApp : Path
  containerFolders : List Path
  reducerFolders : List Path
  globalsOutput : Path
  mapOutput : Path
  /-- The names of action files, if they are known by name. -/
  actionNames : Option (List String) := none
  ignore : Option IgnoreRule := none
  /-- The name of all saga files, empty if there are none; otherwise files claim their reducer. -/
  sagaName : Option String := none
  cacheDisabled : Bool := false
  verbose : Bool := false
  deriving DecidableEq

/-- The report of a required option that is missing. -/
def missingReport (name : String) : Report :=
  { condition := .missingOption
    detail := "-" ++ name
    moreTips := [
      "Specify a value for argument -" ++ name ++
        " either on the command line or in redux-mapper.json"] }

/-- The text as part of a path. Of the pieces between slashes, the first that can be no name decides
how it fails: half of a character has no bytes, and the null character is refused later. -/
def pathText (ls : List Letter) : Except Failure String :=
  let refused := (splitBy (· == Letter.char '/') ls).find? (·.any Letter.isUnnamed)
  if refused.any (·.any Letter.isNameless) then .error .halfInPath
  else .ok (nameText ls)

/-- A text as a path seen from a folder, in absolute form. -/
def pathFrom (folder : Path) (ls : List Letter) : Except Failure Path := do
  Disk.resolve (folder.joinText (← pathText ls))

/-- A text as a path below a folder; leading slashes are left out. -/
def pathBelow (base : Path) (ls : List Letter) : Except Failure Path :=
  pathFrom base ((trimLetters ls).dropWhile fun l => l == Letter.char '/' || l == Letter.char '\\')

/-- Some texts as paths below a folder. -/
def pathsBelow (base : Path) : List (List Letter) → Except Failure (List Path)
  | [] => .ok []
  | ls :: rest => do
    let p ← pathBelow base ls
    return p :: (← pathsBelow base rest)

/-- **The settings of some options** in a project: the base folder is seen from the project, all
other paths from the base folder. -/
def Settings.ofOptions (characters : CharacterNames) (options : Options) (project : Path) :
    Except Failure Settings := do
  if let some name := options.missing? then throw (.report (missingReport name))
  let ignore ← IgnoreRule.ofValue characters (options.value "ignorePaths")
  let text (name : String) := (options.value name).optionText
  let items (name : String) := (options.value name).optionItems
  let base ← pathFrom project (trimLetters (← text "basePath"))
  let actionNames ← items "actionFilenames"
  return {
    project := project
    base := base
    mainApp := ← pathBelow base (← text "mainAppPath")
    containerFolders := ← pathsBelow base (← items "containerPaths")
    reducerFolders := ← pathsBelow base (← items "reduxPaths")
    globalsOutput := ← pathBelow base (← text "globalReducersOutputPath")
    mapOutput := ← pathBelow base (← text "reducerMapOutputPath")
    actionNames := if actionNames.isEmpty then none else some (actionNames.map nameText)
    ignore := ignore
    sagaName := ← if options.lacks "sagaFilename" then pure none
      else do pure (some (nameText (trimLetters (← text "sagaFilename"))))
    cacheDisabled := (options.value "disableCache").isOn
    verbose := (options.value "verboseLogging").isOn }

end ReducerAtlas
