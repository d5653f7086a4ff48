import ReducerAtlas.Options.Basic
import ReducerAtlas.Text.Digit

/-!
# Arguments

The options of a run as they are written on the command line. Each argument is first told to be an
option or not by its form; then options take their values from left to right. The rules are those of
the argument parser before its version 3.11.10: a value `--` that is attached to an option is an
empty list, not a text, and `-d=v` is read as the letters of several options.

* `Switch`: an option of the command line; `switches`: all of them.
* `ArgumentFault`: why arguments are refused, and `ArgumentFault.message`.
* `Arguments`: what was asked for; `Arguments.read`: the arguments of a run.
-/

namespace ReducerAtlas.Command

open ReducerAtlas.Text

/-! ## The options of the command line -/

/-- An option: its letter, its name, and whether it takes a value. -/
structure Switch where
  letter : Char
  name : String
  takesValue : Bool := true
  deriving DecidableEq, Repr

/-- The name of the option that asks for help. -/
def helpName : String := "showHelp"

/-- All options, in the order they are listed. -/
def switches : List Switch := [
  ⟨'a', "mainAppPath", true⟩,
  ⟨'b', "basePath", true⟩,
  ⟨'c', "containerPaths", true⟩,
  ⟨'f', "actionFilenames", true⟩,
  ⟨'d', "disableCache", false⟩,
  ⟨'g', "globalReducersOutputPath", true⟩,
  ⟨'h', helpName, false⟩,
  ⟨'i', "ignorePaths", true⟩,
  ⟨'m', "reducerMapOutputPath", true⟩,
  ⟨'r', "reduxPaths", true⟩,
  ⟨'s', "sagaFilename", true⟩,
  ⟨'v', "verboseLogging", false⟩]

/-- The short form of an option. -/
def Switch.short (s : Switch) : List Char := ['-', s.letter]

/-- The long form of an option. -/
def Switch.long (s : Switch) : List Char := '-' :: '-' :: s.name.toList

/-- Both forms of an option, as messages write them. -/
def Switch.shown (s : Switch) : String :=
  String.ofList (s.short ++ '/' :: s.long)

/-- The option of a form. -/
def switch? (form : List Letter) : Option Switch :=
  switches.find? fun s => s.short.map .char == form || s.long.map .char == form

/-! ## Faults -/

/-- Why arguments are refused. -/
inductive ArgumentFault
  /-- A shortened name fits several options. -/
  | ambiguous (given : List Letter) (fits : List Switch)
  /-- An option has no value after it. -/
  | noValue (option : Switch)
  /-- An option without a value has one attached. -/
  | attachedValue (option : Switch) (text : List Letter)
  /-- Arguments that belong to no option. -/
  | unrecognized (arguments : List (List Letter))
  deriving DecidableEq, Repr

/-- The words of a fault. -/
def ArgumentFault.message : ArgumentFault → String
  | .ambiguous given fits =>
    "ambiguous option: " ++ printed given ++ " could match " ++
      joinWith ", " (fits.map fun s => String.ofList s.long)
  | .noValue option => "argument " ++ option.shown ++ ": expected one argument"
  | .attachedValue option text =>
    "argument " ++ option.shown ++ ": ignored explicit argument " ++ quotedLetters text
  | .unrecognized arguments => "unrecognized arguments: " ++ joinWith " " (arguments.map printed)

/-! ## Telling arguments apart -/

/-- What an argument is by its form. -/
inductive Form
  /-- A value, or an argument that belongs to no option. -/
  | plain
  /-- The mark after which everything is plain. -/
  | mark
  /-- An option, in its short form or not, with a value that may be attached. -/
  | option (option : Switch) (short : Bool) (attached : Option (List Letter))
  /-- An option that is not known. -/
  | unknown
  deriving DecidableEq, Repr

/-- A text cut at its first equals sign. -/
def cutAtEquals? (ls : List Letter) : Option (List Letter × List Letter) :=
  let left := ls.takeWhile (· != Letter.char '=')
  if left.length = ls.length then none else some (left, ls.drop (left.length + 1))

/-- A negative number: a minus sign and digits, perhaps with a point among them. -/
def isNegativeNumber : List Char → Bool
  | '-' :: cs =>
    let rest := cs.dropWhile isDigit
    let ended := fun ds : List Char => ds.isEmpty || ds == ['\n']
    (!(cs.takeWhile isDigit).isEmpty && ended rest) ||
      match rest with
      | '.' :: places => !(places.takeWhile isDigit).isEmpty && ended (places.dropWhile isDigit)
      | _ => false
  | _ => false

/-- The options that an argument can shorten, with the value attached to it. -/
def fitting (ls : List Letter) : List Form :=
  match ls with
  | .char '-' :: .char '-' :: _ =>
    let (form, attached) := match cutAtEquals? ls with
      | some (left, right) => (left, some right)
      | none => (ls, none)
    let fits := switches.filter fun s => form.isPrefixOf (s.long.map .char)
    fits.map fun s => .option s false attached
  | .char '-' :: letter :: rest =>
    (switches.filter (Letter.char ·.letter == letter)).map fun s => .option s true (some rest)
  | _ => []

/-- The option of a form, if it is one. -/
def Form.switch? : Form → Option Switch
  | .option s _ _ => some s
  | _ => none

/-- The form of an argument that is the whole name of an option, perhaps with a value attached. -/
def wholeName? (ls : List Letter) : Option Form :=
  let isShort (s : Switch) (form : List Letter) := s.short.map .char == form
  match switch? ls with
  | some s => some (.option s (isShort s ls) none)
  | none => do
    let (left, right) ← cutAtEquals? ls
    let s ← switch? left
    return .option s (isShort s left) (some right)

/-- **What an argument is by its form.** -/
def formOf (argument : List Letter) : Except ArgumentFault Form :=
  if argument.head? != some (.char '-') || argument.length = 1 then .ok .plain
  else
    match wholeName? argument with
    | some form => .ok form
    | none =>
      match fitting argument with
      | [form] => .ok form
      | [] =>
        let isNumber := (stringOf? argument).any (isNegativeNumber ·.toList)
        .ok (if isNumber || argument.contains (.char ' ') then .plain else .unknown)
      | several => .error (.ambiguous argument (several.filterMap Form.switch?))

/-- The mark after which everything is plain. -/
def markText : List Letter := letters "--"

/-- The forms of arguments; after the mark all are plain. -/
def formsOf : List (List Letter) → Except ArgumentFault (List (List Letter × Form))
  | [] => .ok []
  | argument :: rest =>
    if argument = markText then .ok ((argument, .mark) :: rest.map fun a => (a, .plain))
    else do
      let form ← formOf argument
      return (argument, form) :: (← formsOf rest)

/-! ## Taking values -/

/-- What was asked for: the options, and the arguments that belong to none. -/
structure Arguments where
  options : Options := []
  help : Bool := false
  extras : List (List Letter) := []

/-- The arguments with an option set; the last value counts. -/
def Arguments.set (arguments : Arguments) (option : Switch) (v : Value) : Arguments :=
  if option.name = helpName then { arguments with help := true }
  else { arguments with options := arguments.options.put option.name v }

/-- The arguments with one more that belongs to no option. -/
def Arguments.addExtra (arguments : Arguments) (extra : List Letter) : Arguments :=
  { arguments with extras := arguments.extras ++ [extra] }

/-- The value of an attached text. The mark is no text, and leaves an empty list. -/
def attachedValue (ls : List Letter) : Value :=
  if ls = markText then .list [] else .ofLetters ls

/-- An option and the letters after it in one argument. Options without a value may be followed by
further letters; the first one with a value takes the rest, or none if nothing is left. -/
def takeLetters (arguments : Arguments) (option : Switch) :
    List Letter → Except ArgumentFault (Arguments × Option Switch)
  | [] =>
    if option.takesValue then .ok (arguments, some option)
    else .ok (arguments.set option (.bool true), none)
  | l :: ls =>
    if option.takesValue then .ok (arguments.set option (attachedValue (l :: ls)), none)
    else
      match switch? [.char '-', l] with
      | some next => takeLetters (arguments.set option (.bool true)) next ls
      | none => .error (.attachedValue option (l :: ls))

/-- An option with what is attached to it; the option comes back if it still needs a value. -/
def takeOption (arguments : Arguments) (option : Switch) (short : Bool) :
    Option (List Letter) → Except ArgumentFault (Arguments × Option Switch)
  | none => takeLetters arguments option []
  | some attached =>
    if option.takesValue then .ok (arguments.set option (attachedValue attached), none)
    else if short && !attached.isEmpty then takeLetters arguments option attached
    else .error (.attachedValue option attached)

/-- Takes the options from left to right. -/
def takeAll : Arguments → List (List Letter × Form) → Except ArgumentFault Arguments
  | arguments, [] => .ok arguments
  | arguments, (argument, form) :: rest =>
    match form with
    | .plain | .mark | .unknown => takeAll (arguments.addExtra argument) rest
    | .option option short attached => do
      match ← takeOption arguments option short attached with
      | (arguments, none) => takeAll arguments rest
      | (arguments, some waiting) =>
        match rest with
        | (v, .plain) :: rest => takeAll (arguments.set waiting (.ofLetters v)) rest
        | _ => .error (.noValue waiting)

/-- **The arguments of a run.** Arguments that belong to no option are refused in the end. -/
def Arguments.read (arguments : List (List Letter)) : Except ArgumentFault Arguments := do
  let forms ← formsOf arguments
  let found ← takeAll {} forms
  if found.extras.isEmpty then return found else .error (.unrecognized found.extras)

end ReducerAtlas.Command
