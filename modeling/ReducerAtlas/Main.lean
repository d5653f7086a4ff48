import ReducerAtlas.Command.Run
import ReducerAtlas.Command.Standard

/-!
# The program

Reads the files that a run can see, runs it, and writes the files that it has changed. A run sees
the project of its folder, and the base folder if that lies elsewhere.
-/

namespace ReducerAtlas.Main

/-- The deepest nesting of folders that is read. -/
def deepest : Nat := 256

/-- A path as the file system knows it. -/
def entryAt (p : Path) : IO.FS.DirEntry :=
  { root := p.parent.render, fileName := p.name }

/-- The folder at an entry, and the files in it that cannot be read. -/
def readFolder : Nat → Path → IO.FS.DirEntry → IO (Folder × List (Path × Fault))
  | 0, _, _ => return (.empty, [])
  | depth + 1, here, entry => do
    let mut folder := Folder.empty
    let mut faults := []
    for inner in ← entry.path.readDir do
      let place := here.joinText inner.fileName
      if ← inner.path.isDir then
        let (content, more) ← readFolder depth place inner
        folder := folder.set inner.fileName (.folder content)
        faults := more ++ faults
      else
        try
          let bytes ← IO.FS.readBinFile inner.path
          folder := folder.set inner.fileName (.file bytes.toList)
        catch _ =>
          folder := folder.set inner.fileName (.file [])
          faults := (place, .denied) :: faults
    return (folder, faults)

/-- The disk with the folder at a path, if there is one. -/
def load (disk : Disk) (p : Path) : IO Disk := do
  if ← (entryAt p).path.isDir then
    let (folder, faults) ← readFolder deepest p (entryAt p)
    return {
      root := disk.root.setAt p.parts (.folder folder)
      faults := faults ++ disk.faults }
  return disk

/-- The nearest of some folders that holds a package file. -/
def nearest? : List Path → IO (Option Path)
  | [] => return none
  | folder :: rest => do
    if ← (entryAt (folder.joinText packageFile)).path.pathExists then return some folder
    nearest? rest

/-- The part of the disk that a run can see. -/
def visibleDisk (arguments : List (List Text.Letter)) (folder : Path) : IO Disk := do
  match ← nearest? folder.ancestors with
  | none => return { root := Folder.empty.setAt folder.parts (.folder .empty) }
  | some project =>
    let disk ← load { root := .empty } project
    match Command.Arguments.read arguments with
    | .error _ => return disk
    | .ok found =>
      match Command.settingsOf Command.standard disk found folder with
      | .error _ => return disk
      | .ok settings =>
        if (Path.below? project settings.base).isSome then return disk else load disk settings.base

/-- Writes the files that a run has changed. -/
def store (earlier now : Disk) : IO Unit := do
  for (names, content) in Folder.changedSince earlier.root now.root do
    let file : Path := ⟨.root, names⟩
    IO.FS.createDirAll file.parent.render
    IO.FS.writeBinFile file.render ⟨content.toArray⟩

/-- Runs the arguments in the current folder. -/
def runHere (arguments : List String) : IO UInt32 := do
  let started ← IO.monoMsNow
  let folder := Path.parse (← IO.currentDir).toString
  let arguments := arguments.map Text.letters
  let disk ← visibleDisk arguments folder
  let begun := Command.Begun.of Command.standard disk arguments folder
  let elapsed := (← IO.monoMsNow) - started
  let r := begun.finish (toString elapsed)
  store disk r.disk
  (← IO.getStdout).putStr r.out
  (← IO.getStderr).putStr r.err
  match r.ending with
  | .ok code => return code.toUInt32
  | .error _ => return 1

end ReducerAtlas.Main

/-- The program. -/
def main (arguments : List String) : IO UInt32 :=
  ReducerAtlas.Main.runHere arguments
