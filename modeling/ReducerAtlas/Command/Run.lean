import ReducerAtlas.Artifact.GlobalModule
import ReducerAtlas.Artifact.MapFile
import ReducerAtlas.Atlas.Survey
import ReducerAtlas.Command.Arguments
import ReducerAtlas.Command.Help
import ReducerAtlas.Options.Config

/-!
# Runs of the command line

A run reads its arguments and the configuration of the project, surveys it, and writes the two
generated files.

* `Run`: what a run leaves: the disk, what it printed, and how it ended.
* `Begun`: a run up to its survey; `run`: the whole run of some arguments in a folder.
-/

namespace ReducerAtlas.Command

open ReducerAtlas.Text

/-- What a run leaves: the disk, the two streams of printed text, and an exit code or the failure
that broke it off. -/
structure Run where
  disk : Disk
  out : String := ""
  err : String := ""
  ending : Except Failure Nat := .ok 0

/-- The run with one more line on the error stream. -/
def Run.say (r : Run) (line : String) : Run :=
  { r with err := r.err ++ line ++ "\n" }

/-- The run with an exit code. -/
def Run.exit (r : Run) (code : Nat) : Run :=
  { r with ending := .ok code }

/-- The run with the notes of a journal; only a verbose run tells all. -/
def Run.tell (verbose : Bool) (r : Run) (journal : Journal) : Run :=
  let told := journal.filter fun note => verbose || note.level = .info
  told.foldl (fun r note => r.say note.message) r

/-- The end of a run that failed before anything was written: what the user can mend is shown, and
so is a refusal of the file system. -/
def Run.fail (r : Run) : Failure → Run
  | .report report => ((r.say "").say report.render).exit 1
  | .io e => (r.say ("Error scanning project: " ++ e.message)).exit 1
  | failure => { r with ending := .error failure }

/-- Writes a generated file, with the folders above it. What was made before a failure stays. -/
def Run.write (r : Run) (output : Path) (text : String) : Run × Bool :=
  let refuse (r : Run) (e : IoError) : Run × Bool :=
    ((r.say ("Error writing output: " ++ e.message)).exit 1, false)
  match r.disk.makeFolders output.parent with
  | (disk, .error e) => refuse { r with disk := disk } e
  | (disk, .ok ()) =>
    match disk.writeFile output text with
    | .error e => refuse { r with disk := disk } e
    | .ok disk => ({ r with disk := disk }.say ("Output written to: " ++ output.render), true)

/-- Writes the two generated files and ends the run. -/
def Run.finish (r : Run) (settings : Settings) (atlas : Atlas) (elapsed : String) : Run :=
  match r.write settings.globalsOutput
      (Artifact.globalModule atlas.globals settings.globalsOutput) with
  | (r, false) => r
  | (r, true) =>
    match r.write settings.mapOutput
        (Artifact.mapFile atlas settings.mapOutput Artifact.standardLayout) with
    | (r, false) => r
    | (r, true) =>
      ((r.say "").say ("SUCCESS! Found " ++ toString atlas.usesFound ++ " reducers used in " ++
        toString atlas.filesRead ++ " files. Elapsed time: " ++ elapsed ++ "ms")).exit 0

/-- The settings of a run: the arguments, completed from the configuration of the project. -/
def settingsOf (library : Library) (disk : Disk) (arguments : Arguments) (folder : Path) :
    Except Failure Settings := do
  let project ← projectRoot disk folder
  let options ← configOptions library disk (← configFile? disk project)
  Settings.ofOptions library.characters (arguments.options.fill options) project

/-- The first lines of every run. -/
def greeting : List String :=
  [programName, "Use -h argument for a full list of command line options"]

/-- A run before anything is written: over already, or with the atlas of its survey. -/
inductive Begun
  | ended (r : Run)
  | surveyed (r : Run) (settings : Settings) (atlas : Atlas)

/-- The survey of a run whose arguments were read. -/
def beginWith (library : Library) (disk : Disk) (arguments : Arguments) (folder : Path) : Begun :=
  let r := greeting.foldl Run.say { disk := disk }
  match settingsOf library disk arguments folder with
  | .error failure => .ended (r.fail failure)
  | .ok settings =>
    let (journal, result) := survey disk settings
    let r := r.tell settings.verbose journal
    match result with
    | .error failure => .ended (r.fail failure)
    | .ok atlas => .surveyed r settings atlas

/-- The run of some arguments in a folder, up to its survey. -/
def Begun.of (library : Library) (disk : Disk) (arguments : List (List Letter)) (folder : Path) :
    Begun :=
  match Arguments.read arguments with
  | .error fault =>
    .ended {
      disk := disk
      err := usageText ++ programName ++ ": error: " ++ fault.message ++ "\n"
      ending := .ok 2 }
  | .ok found =>
    if found.help then .ended { disk := disk, out := helpText }
    else beginWith library disk found folder

/-- The whole run, with the text of the time it took. -/
def Begun.finish (elapsed : String) : Begun → Run
  | .ended r => r
  | .surveyed r settings atlas => r.finish settings atlas elapsed

/-- **The run of some arguments in a folder.** What it takes from a library and the text of the
elapsed time are given from outside. -/
def run (library : Library) (disk : Disk) (arguments : List (List Letter)) (folder : Path)
    (elapsed : String) : Run :=
  (Begun.of library disk arguments folder).finish elapsed

end ReducerAtlas.Command
