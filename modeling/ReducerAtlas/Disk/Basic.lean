import ReducerAtlas.Disk.Folder
import ReducerAtlas.Failure
import ReducerAtlas.Text.Utf8

/-!
# Disks

A tree of files as a program sees it: paths are followed name by name, names and paths have a
greatest length, and reading a file may fail by a fault that is part of the disk.

* `Disk.locate`: what a path leads to; `Disk.isFile`, `Disk.isFolder`: the tests.
* `Disk.readText`, `Disk.readStrict`: the text of a file; `Disk.list`: the content of a folder.
* `Disk.listing`: the files below a folder that no pattern refuses, up to the first entry whose path
  is too long; `Disk.filesBelow`: all of them.
* `Disk.makeFolders`, `Disk.writeFile`: changing the tree.
-/

namespace ReducerAtlas

open ReducerAtlas.Text

/-- A way in which reading a file fails. -/
inductive Fault
  | missing
  | notFolder
  | denied
  | device
  deriving DecidableEq, Repr

/-- The cause of a failed read. -/
def Fault.cause : Fault → IoCause
  | .missing => .missing
  | .notFolder => .notFolder
  | .denied => .denied
  | .device => .device

/-- A tree of files, and the paths whose reading fails. -/
structure Disk where
  root : Folder
  faults : List (Path × Fault) := []
  deriving DecidableEq, Repr

namespace Disk

/-! ## Following a path -/

/-- The greatest number of bytes in a name. -/
def maxName : Nat := 255

/-- The number of bytes that a whole path has to stay below. -/
def maxPath : Nat := 4096

/-- What the names lead to from a folder, with the folders above it, the nearest first. -/
def follow : List Folder → Folder → List String → Except IoCause Entry
  | _, here, [] => .ok (.folder here)
  | above, here, name :: names =>
    if name = Path.up then
      match above with
      | [] => follow [] here names
      | top :: rest => follow rest top names
    else if maxName < name.utf8ByteSize then .error .nameTooLong
    else
      match here.get? name with
      | none => .error .missing
      | some (.folder inner) => follow (here :: above) inner names
      | some (.file content) => if names.isEmpty then .ok (.file content) else .error .notFolder

/-- What a path leads to. A path that holds the null character leads nowhere. -/
def locate (disk : Disk) (p : Path) : Except IoCause Entry :=
  if p.hasNull then .error .missing
  else if maxPath ≤ p.render.utf8ByteSize then .error .nameTooLong
  else follow [] disk.root p.parts

/-- A test of what a path leads to. A path that leads nowhere fails the test; only a name that is
too long makes the test itself fail. -/
def test (disk : Disk) (p : Path) (good : Entry → Bool) : Except IoError Bool :=
  match disk.locate p with
  | .ok entry => .ok (good entry)
  | .error .nameTooLong => .error ⟨.nameTooLong, p⟩
  | .error _ => .ok false

/-- The path leads to a file. -/
def isFile (disk : Disk) (p : Path) : Except IoError Bool :=
  disk.test p fun entry => match entry with
    | .file _ => true
    | .folder _ => false

/-- The path leads to a folder. -/
def isFolder (disk : Disk) (p : Path) : Except IoError Bool :=
  disk.test p fun entry => match entry with
    | .file _ => false
    | .folder _ => true

/-! ## Reading -/

/-- The bytes of a file, unless a fault stands in the way. -/
def readBytes (disk : Disk) (p : Path) : Except IoError (List UInt8) :=
  match disk.faults.lookup p with
  | some fault => .error ⟨fault.cause, p⟩
  | none =>
    match disk.locate p with
    | .ok (.file content) => .ok content
    | .ok (.folder _) => .error ⟨.isFolder, p⟩
    | .error cause => .error ⟨cause, p⟩

/-- The text of a file: malformed bytes are replaced and line ends unified. -/
def readText (disk : Disk) (p : Path) : Except IoError (List Char) :=
  (disk.readBytes p).map fun bytes => Utf8.unifyNewlines (Utf8.decodeLossy bytes)

/-- The text of a file with line ends unified, or none if its bytes are malformed. -/
def readStrict (disk : Disk) (p : Path) : Except IoError (Option (List Char)) :=
  (disk.readBytes p).map fun bytes => (Utf8.decodeStrict? bytes).map Utf8.unifyNewlines

/-- The content of a folder. -/
def list (disk : Disk) (p : Path) : Except IoError Folder :=
  match disk.locate p with
  | .ok (.folder inner) => .ok inner
  | .ok (.file _) => .error ⟨.notFolder, p⟩
  | .error cause => .error ⟨cause, p⟩

/-- The absolute form of a path. -/
def resolve (p : Path) : Except Failure Path :=
  match p.resolve? with
  | some q => .ok q
  | none => .error (.nullInPath p)

/-! ## Walks -/

/-- What a walk has listed, up to its end or to the failure that ends it. -/
structure Listing where
  files : List Path := []
  ending : Except Failure Unit := .ok ()

/-- All that a walk lists, if it comes to its end. -/
def Listing.all (listing : Listing) : Except Failure (List Path) :=
  listing.ending.map fun _ => listing.files

/-- The files among the entries of a walk. Each entry is tested in its turn, and the first test that
fails ends the listing. -/
def Listing.ofEntries (test : Path → Except Failure Unit) : List (List String × Bool) → Listing
  | [] => {}
  | (names, isFile) :: rest =>
    let here : Path := ⟨.root, names⟩
    match test here with
    | .error failure => { ending := .error failure }
    | .ok () =>
      let listing := ofEntries test rest
      if isFile then { listing with files := here :: listing.files } else listing

/-- The entries below a folder, in the order of their names, without those whose displayed path is
refused. Paths are displayed from the base, which is the folder itself if none is given. -/
def entriesBelow (disk : Disk) (refused : String → Bool) (base : Option Path) (start : Path) :
    Except Failure (List (List String × Bool)) := do
  let start ← resolve start
  let base ← match base with
    | some b => resolve b
    | none => .ok start
  match disk.list start with
  | .error e => .error (.io e)
  | .ok folder =>
    let shown (parts : List String) := Path.display base ⟨.root, parts⟩
    return folder.walk (refused ∘ shown) start.parts

/-- The listing of the entries below a folder, with a test for each of them. -/
def listingBy (disk : Disk) (test : Path → Except Failure Unit) (refused : String → Bool)
    (base : Option Path) (start : Path) : Listing :=
  match disk.entriesBelow refused base start with
  | .error failure => { ending := .error failure }
  | .ok entries => .ofEntries test entries

/-- The test of an entry: it fails if the path is too long to be tested. -/
def visit (disk : Disk) (p : Path) : Except Failure Unit :=
  match disk.isFolder p with
  | .error e => .error (.io e)
  | .ok _ => .ok ()

/-- **The files below a folder**, in the order of their names, without the entries whose displayed
path is refused. An entry is tested for being a folder when its turn comes, so a path that is too
long ends the listing after the files before it. -/
def listing (disk : Disk) (refused : String → Bool) (base : Option Path) (start : Path) : Listing :=
  disk.listingBy disk.visit refused base start

/-- The files below a folder, if all of them can be listed. -/
def filesBelow (disk : Disk) (refused : String → Bool) (base : Option Path) (start : Path) :
    Except Failure (List Path) :=
  (disk.listing refused base start).all

/-! ## Writing -/

/-- The disk with a folder made inside an existing one. -/
def makeFolder (disk : Disk) (p : Path) : Except IoError Disk :=
  match disk.locate p with
  | .ok _ => .error ⟨.taken, p⟩
  | .error .missing =>
    match disk.locate p.parent with
    | .ok (.folder _) => .ok { disk with root := disk.root.setAt p.parts (.folder .empty) }
    | .ok (.file _) => .error ⟨.notFolder, p⟩
    | .error cause => .error ⟨cause, p⟩
  | .error cause => .error ⟨cause, p⟩

/-- A failure to make a folder is none if the folder is there. -/
def unlessFolder (disk : Disk) (e : IoError) : Except IoError Unit :=
  match disk.isFolder e.path with
  | .ok true => .ok ()
  | .ok false => .error e
  | .error e => .error e

/-- Makes a folder and the missing ones above it, at most the given number of them. What was made
before a failure stays. -/
def makeFoldersUpTo : Nat → Disk → Path → Disk × Except IoError Unit
  | 0, disk, p => (disk, .error ⟨.missing, p⟩)
  | n + 1, disk, p =>
    match disk.makeFolder p with
    | .ok disk => (disk, .ok ())
    | .error e =>
      if e.cause = .missing ∧ p.parts ≠ [] then
        match makeFoldersUpTo n disk p.parent with
        | (disk, .error e) => (disk, .error e)
        | (disk, .ok ()) =>
          match disk.makeFolder p with
          | .ok disk => (disk, .ok ())
          | .error e => (disk, if e.cause = .missing then .error e else disk.unlessFolder e)
      else (disk, disk.unlessFolder e)

/-- Makes a folder and all missing ones above it; an existing folder is left alone. -/
def makeFolders (disk : Disk) (p : Path) : Disk × Except IoError Unit :=
  makeFoldersUpTo (p.parts.length + 1) disk p

/-- The disk with the text of a file in an existing folder. -/
def writeFile (disk : Disk) (p : Path) (text : String) : Except IoError Disk :=
  let written := { disk with root := disk.root.setAt p.parts (.file (Utf8.encode text.toList)) }
  match disk.locate p with
  | .ok (.folder _) => .error ⟨.isFolder, p⟩
  | .ok (.file _) => .ok written
  | .error .missing =>
    match disk.locate p.parent with
    | .ok (.folder _) => .ok written
    | .ok (.file _) => .error ⟨.notFolder, p⟩
    | .error cause => .error ⟨cause, p⟩
  | .error cause => .error ⟨cause, p⟩

end Disk

end ReducerAtlas
