import ReducerAtlas.Path.Basic
import ReducerAtlas.Text.Quoted

/-!
# Failures

Everything that can stop a run, as causes; the wording stands in one place for each kind.

* `Condition`, `Report`: the fatal conditions a user is told how to mend.
* `IoCause`, `IoError`: the failures of the file system.
* `Failure`: these, and the inputs that no rule covers.
-/

namespace ReducerAtlas

open ReducerAtlas.Text

/-! ## Reports -/

/-- A fatal condition that the user can mend. -/
inductive Condition
  | noReducers
  | noReferences
  | noMainApp
  | badConfig
  | missingOption
  | outsideProject
  | badPattern
  deriving DecidableEq, Repr

/-- All conditions, in the order of their codes. -/
def Condition.all : List Condition :=
  [.noReducers, .noReferences, .noMainApp, .badConfig, .missingOption, .outsideProject, .badPattern]

/-- The number of a condition. -/
def Condition.code : Condition → Int
  | .noReducers => -1
  | .noReferences => -2
  | .noMainApp => -3
  | .badConfig => -4
  | .missingOption => -5
  | .outsideProject => -6
  | .badPattern => -7

/-- The condition with a given number. -/
def Condition.ofCode? (code : Int) : Option Condition :=
  Condition.all.find? (·.code == code)

/-- The headline of a condition. -/
def Condition.title : Condition → String
  | .noReducers => "NO REDUCERS FOUND"
  | .noReferences => "NO REDUCER REFERENCES FOUND"
  | .noMainApp => "NO MAIN APPLICATION CONTAINER FOUND"
  | .badConfig => "INVALID CONFIGURATION FILE"
  | .missingOption => "REQUIRED PARAMETER NOT SPECIFIED"
  | .outsideProject => "NOT EXECUTED UNDER NODE PATH"
  | .badPattern => "BAD REGULAR EXPRESSION"

/-- What to try, for each condition. -/
def Condition.tips : Condition → List String
  | .noReducers => [
      "Make sure the base path parameter (-b) is set to the subfolder where your " ++
      "application script files begin (from where package.json is found)",
      "If you place all your reducers in a folder tree separate from your UI " ++
      "components, be sure to specify that folder path with the -r parameter",
      "Be sure all reducer definition files export a PRM_REDUCER_NAME constant " ++
      "which specifies the name of the reducer state member " ++
      "(e.g., export const PRM_REDUCER_NAME = \"myReducer\"; if you reference " ++
      "the store using state.myReducer)"]
  | .noReferences => [
      "Make sure you specify the subfolder(s) (from base path) holding the UI " ++
      "container script files (files which handle a route URL) using the -c parameter",
      "Make sure you specify all filenames in a folder containing a reducer that, " ++
      "if imported, mean that your container uses the reducer (e.g., actions.js," ++
      "fetcher.js as the -f parameter)"]
  | .noMainApp => [
      "Make sure you specify the subpath (from base path) to the main UI file " ++
      "for your single-page application using the -a parameter"]
  | .badConfig => [
      "The configuration file could not be parsed. Please check that it is " ++
      "formatted correctly and keeps its options under a 'config' mapping"]
  | .missingOption => []
  | .outsideProject => [
      "The redux mapper must be executed inside a node project (a package.json " ++
      "file must be found in the execution folder or one of its ancestors)"]
  | .badPattern => [
      "The regular expression provided as the -ignorePaths parameter is invalid."]

/-- A condition with what it was found at, and further tips. -/
structure Report where
  condition : Condition
  detail : String := ""
  moreTips : List String := []
  deriving DecidableEq, Repr

/-- The title, with the detail if there is one. -/
def Report.headline (r : Report) : String :=
  if r.detail.isEmpty then r.condition.title else r.condition.title ++ ": " ++ r.detail

/-- The tips of the condition, then the further ones that are not among them yet. -/
def Report.tips (r : Report) : List String :=
  r.moreTips.foldl (fun tips tip => if tips.contains tip then tips else tips ++ [tip])
    r.condition.tips

/-- The lines with their numbers before them, from a given number on. -/
def numberLines : Nat → List String → List String
  | _, [] => []
  | n, line :: rest => (toString n ++ ". " ++ line) :: numberLines (n + 1) rest

/-- The report as shown to the user. -/
def Report.render (r : Report) : String :=
  let tips := r.tips
  let advice := if tips.isEmpty then [] else "Troubleshooting tips:" :: numberLines 1 tips
  joinWith "\n" (("*** ERROR: " ++ r.headline ++ " ***") :: "" :: advice)

/-! ## The file system -/

/-- Why the file system refuses. -/
inductive IoCause
  | missing
  | device
  | denied
  | taken
  | notFolder
  | isFolder
  | nameTooLong
  deriving DecidableEq, Repr

/-- The system's number for a cause. -/
def IoCause.number : IoCause → Nat
  | .missing => 2
  | .device => 5
  | .denied => 13
  | .taken => 17
  | .notFolder => 20
  | .isFolder => 21
  | .nameTooLong => 36

/-- The system's words for a cause. -/
def IoCause.words : IoCause → String
  | .missing => "No such file or directory"
  | .device => "Input/output error"
  | .denied => "Permission denied"
  | .taken => "File exists"
  | .notFolder => "Not a directory"
  | .isFolder => "Is a directory"
  | .nameTooLong => "File name too long"

/-- A cause and the path it concerns. -/
structure IoError where
  cause : IoCause
  path : Path
  deriving DecidableEq, Repr

/-- The message of a file system failure. -/
def IoError.message (e : IoError) : String :=
  "[Errno " ++ toString e.cause.number ++ "] " ++ e.cause.words ++ ": " ++ quoted e.path.render

/-! ## Failures -/

/-- A use of the scan ledger that no nested scan makes. -/
inductive LedgerFault
  /-- The node was never opened, or its findings were collected already. -/
  | unknownNode
  /-- The node to finish is not among the open ones. -/
  | notOpen
  deriving DecidableEq, Repr

/-- Everything that can stop a run. -/
inductive Failure
  /-- A condition that the user can mend. -/
  | report (r : Report)
  /-- The file system refused. -/
  | io (e : IoError)
  /-- The last name of a path could not be extended. -/
  | badName (path : Path)
  /-- A path holds the null character. -/
  | nullInPath (path : Path)
  /-- A path holds half of a character, which has no bytes. -/
  | halfInPath
  /-- A number has too many digits, or none. -/
  | longNumeral
  /-- The ignore pattern is not a text, or one of bytes that a path was compared with. -/
  | patternNotText
  /-- Two flags of the ignore pattern exclude each other. -/
  | flagClash
  /-- A number is out of all bounds. -/
  | numberTooLarge
  /-- A reader from outside broke off in a way of its own, which has a name. -/
  | outside (name : String)
  /-- The scan ledger was misused. -/
  | ledger (fault : LedgerFault)
  /-- The scan went deeper than the number of its nodes. -/
  | tooDeep
  deriving DecidableEq, Repr

end ReducerAtlas
