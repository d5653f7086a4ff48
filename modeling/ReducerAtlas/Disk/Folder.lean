/-!
# Folders

The content of a folder: its entries in increasing order of their names. A folder inside it has its
own content, so a whole tree of files is one value.

* `Folder`, `Entry`: the tree and what stands at a name.
* `Folder.get?`, `Folder.set`, `Folder.erase`: one entry; `Folder.setAt`, `Folder.eraseAt`: one
  further down.
* `Folder.walk`: the entries below a folder, without the refused ones.
* `Folder.Ordered`: the order of names that every tree built here keeps.
-/

namespace ReducerAtlas

/-- The entries of a folder. -/
inductive Folder
  | empty
  | file (name : String) (content : List UInt8) (rest : Folder)
  | folder (name : String) (inner : Folder) (rest : Folder)
  deriving DecidableEq, Repr

/-- What stands at a name: a file or a folder. -/
inductive Entry
  | file (content : List UInt8)
  | folder (inner : Folder)
  deriving DecidableEq, Repr

namespace Folder

/-- The entry with a given name. -/
def get? (name : String) : Folder → Option Entry
  | .empty => none
  | .file n content rest => if n = name then some (.file content) else get? name rest
  | .folder n inner rest => if n = name then some (.folder inner) else get? name rest

/-- An entry before others. -/
def cons (name : String) : Entry → Folder → Folder
  | .file content, rest => .file name content rest
  | .folder inner, rest => .folder name inner rest

/-- The folder with an entry of the given name, in place of one it may have had. -/
def set (name : String) (entry : Entry) : Folder → Folder
  | .empty => cons name entry .empty
  | .file n content rest =>
    if name < n then cons name entry (.file n content rest)
    else if name = n then cons name entry rest
    else .file n content (set name entry rest)
  | .folder n inner rest =>
    if name < n then cons name entry (.folder n inner rest)
    else if name = n then cons name entry rest
    else .folder n inner (set name entry rest)

/-- The folder without the entry of the given name. -/
def erase (name : String) : Folder → Folder
  | .empty => .empty
  | .file n content rest => if n = name then rest else .file n content (erase name rest)
  | .folder n inner rest => if n = name then rest else .folder n inner (erase name rest)

/-- The folder inside at a name; a missing one is empty. -/
def inside (name : String) (f : Folder) : Folder :=
  match f.get? name with
  | some (.folder inner) => inner
  | _ => .empty

/-- The tree with an entry at the end of some names; folders on the way are made. -/
def setAt : List String → Entry → Folder → Folder
  | [], _, f => f
  | [name], entry, f => f.set name entry
  | name :: names, entry, f => f.set name (.folder (setAt names entry (f.inside name)))

/-- The tree without the entry at the end of some names. -/
def eraseAt : List String → Folder → Folder
  | [], f => f
  | [name], f => f.erase name
  | name :: names, f =>
    match f.get? name with
    | some (.folder inner) => f.set name (.folder (eraseAt names inner))
    | _ => f

/-- The entry at the end of some names. -/
def getAt? : List String → Folder → Option Entry
  | [], f => some (.folder f)
  | [name], f => f.get? name
  | name :: names, f =>
    match f.get? name with
    | some (.folder inner) => getAt? names inner
    | _ => none

/-- The names of the entries, in order. -/
def names : Folder → List String
  | .empty => []
  | .file n _ rest => n :: names rest
  | .folder n _ rest => n :: names rest

/-- **The entries of a tree**, each by the names that lead to it from above, and with the word
whether it is a file. A folder stands before what is inside it. A refused entry is left out, and so
is everything inside it. -/
def walk (refused : List String → Bool) (above : List String) : Folder → List (List String × Bool)
  | .empty => []
  | .file n _ rest =>
    let here := above ++ [n]
    (if refused here then [] else [(here, true)]) ++ walk refused above rest
  | .folder n inner rest =>
    let here := above ++ [n]
    (if refused here then [] else (here, false) :: walk refused here inner) ++
      walk refused above rest

/-- The files of a tree with their contents, each by the names that lead to it from above. -/
def files (above : List String) : Folder → List (List String × List UInt8)
  | .empty => []
  | .file n content rest => (above ++ [n], content) :: files above rest
  | .folder n inner rest => files (above ++ [n]) inner ++ files above rest

/-- The files of a tree that are new or have another content than in an earlier one. -/
def changedSince (earlier now : Folder) : List (List String × List UInt8) :=
  (now.files []).filter fun (names, content) =>
    decide (earlier.getAt? names ≠ some (.file content))

/-- The number of entries of a tree, at all depths. -/
def entryCount : Folder → Nat
  | .empty => 0
  | .file _ _ rest => entryCount rest + 1
  | .folder _ inner rest => entryCount inner + entryCount rest + 1

/-- The number of bytes in the files of a tree. -/
def byteCount : Folder → Nat
  | .empty => 0
  | .file _ content rest => content.length + byteCount rest
  | .folder _ inner rest => byteCount inner + byteCount rest

/-- In every folder of the tree the names increase. -/
def Ordered : Folder → Prop
  | .empty => True
  | .file n _ rest => (∀ m ∈ rest.names, n < m) ∧ Ordered rest
  | .folder n inner rest => (∀ m ∈ rest.names, n < m) ∧ Ordered inner ∧ Ordered rest

end Folder

end ReducerAtlas
