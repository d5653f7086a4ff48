import ReducerAtlas.Text.Split

/-!
# Paths

A path is an anchor and the names that lead on from it. Empty and `.` segments vanish when a path is
read; `..` stays until the path is normalized.

* `Path.parse`, `Path.render`: from and to text; `Path.join`: one path after another.
* `Path.parent`, `Path.name`, `Path.suffix`: the parts of a path.
* `Path.normalize`: `..` taken back lexically; `Path.resolve?`: the absolute form.
-/

namespace ReducerAtlas

open ReducerAtlas.Text

/-- Where a path starts: at the place it is used from, at the root, or at the root written with
exactly two slashes. -/
inductive Anchor
  | relative
  | root
  | doubleRoot
  deriving DecidableEq, Repr

/-- An anchor and the names that lead on from it. -/
structure Path where
  anchor : Anchor
  parts : List String
  deriving DecidableEq, Repr

namespace Path

/-- The name that leads one level up. -/
def up : String := ".."

/-- The root. -/
def root : Path := ⟨.root, []⟩

/-- The anchor that a text starts with. -/
def anchorOf (cs : List Char) : Anchor :=
  match (cs.takeWhile (· == '/')).length with
  | 0 => .relative
  | 2 => .doubleRoot
  | _ => .root

/-- The names in a text between slashes, without empty ones and single dots. -/
def partsOf (cs : List Char) : List String :=
  ((splitBy (· == '/') cs).filter fun piece => !piece.isEmpty && piece != ['.']).map String.ofList

/-- The path that a text writes. -/
def parse (s : String) : Path :=
  ⟨anchorOf s.toList, partsOf s.toList⟩

/-- The text before the names of a path. -/
def Anchor.render : Anchor → String
  | .relative => ""
  | .root => "/"
  | .doubleRoot => "//"

/-- The text of a path; the empty relative path is a dot. -/
def render (p : Path) : String :=
  if p.anchor = .relative ∧ p.parts = [] then "." else
    Anchor.render p.anchor ++ joinWith "/" p.parts

/-- The path does not depend on where it is used from. -/
def isAbsolute (p : Path) : Bool :=
  p.anchor != .relative

/-- The second path as seen from the first; an absolute one stays as it is. -/
def join (p q : Path) : Path :=
  if q.isAbsolute then q else ⟨p.anchor, p.parts ++ q.parts⟩

/-- The path with a text read as a path after it. -/
def joinText (p : Path) (s : String) : Path :=
  p.join (parse s)

/-- The path one name shorter; a path without names is its own parent. -/
def parent (p : Path) : Path :=
  ⟨p.anchor, p.parts.dropLast⟩

/-- The path and all shorter ones, longest first. -/
def ancestors (p : Path) : List Path :=
  (List.range (p.parts.length + 1)).reverse.map fun n => ⟨p.anchor, p.parts.take n⟩

/-- The last name of a path, or the empty string. -/
def name (p : Path) : String :=
  p.parts.getLastD ""

/-- The last dot of a name and what follows it, unless the dot is at either end. -/
def suffixOf (cs : List Char) : List Char :=
  let tail := (cs.reverse.takeWhile (· != '.')).reverse
  let dot := cs.length - tail.length
  if tail.isEmpty ∨ dot ≤ 1 then [] else '.' :: tail

/-- The extension of the last name, with its dot. -/
def suffix (p : Path) : String :=
  String.ofList (suffixOf p.name.toList)

/-- One name after others, the last of them first: `..` takes the last one back if it can. -/
def push (anchored : Bool) (stack : List String) (part : String) : List String :=
  if part = up then
    match stack with
    | [] => if anchored then [] else [up]
    | top :: rest => if top = up then up :: top :: rest else rest
  else part :: stack

/-- The path with each `..` taken back lexically. At the root there is nothing to take back; a
relative path keeps what leads out of it. -/
def normalize (p : Path) : Path :=
  ⟨p.anchor, (p.parts.foldl (push p.isAbsolute) []).reverse⟩

/-- A name holds the null character, which no file name does. -/
def hasNull (p : Path) : Bool :=
  p.parts.any (·.toList.contains '\x00')

/-- The absolute form of a path, seen from the root; none if a name holds the null character. -/
def resolve? (p : Path) : Option Path :=
  if p.hasNull then none else some (normalize ⟨.root, p.parts⟩)

/-- The names that lead from one path on to a longer one. -/
def below? (base p : Path) : Option (List String) :=
  if base.anchor = p.anchor ∧ base.parts.isPrefixOf p.parts then
    some (p.parts.drop base.parts.length)
  else none

/-- The path with something appended to its last name. The root has no name to append to, and the
new name must be a single one. -/
def extend? (p : Path) (tail : String) : Option Path :=
  let name := p.name ++ tail
  let read := parse name
  if p.parts = [] ∨ read.isAbsolute ∨ read.parts.length ≠ 1 ∨ name.toList.getLast? = some '/' then
    none
  else some ⟨p.anchor, p.parts.dropLast ++ [name]⟩

/-- How artifacts and ignore patterns name a file: from the base if it lies there, else in full. -/
def display (base file : Path) : String :=
  let relative := do
    let file ← file.resolve?
    let base ← base.resolve?
    base.below? file
  match relative with
  | some parts => "./" ++ render ⟨.relative, parts⟩
  | none => if file.isAbsolute then file.render else "./" ++ file.render

end Path

end ReducerAtlas
