import ReducerAtlas.Path.Basic

/-!
# Relative references

How one path is written from a folder, and a text without its extension.

* `Path.relativeFrom`: the text that leads from a folder to a path.
* `withoutExtension`: a text without the extension of its last name.
-/

namespace ReducerAtlas

namespace Path

/-- The length of the common beginning of two lists of names. -/
def commonLength : List String → List String → Nat
  | a :: as, b :: bs => if a = b then commonLength as bs + 1 else 0
  | _, _ => 0

/-- The names that lead from one list of names to another: up to what they share, then down. -/
def stepsBetween (start target : List String) : List String :=
  let shared := commonLength start target
  List.replicate (start.length - shared) up ++ target.drop shared

/-- The text that leads from a folder to a path, both seen from the root; a dot if they are the
same. -/
def relativeFrom (target start : Path) : String :=
  let seen (p : Path) := (normalize ⟨.root, p.parts⟩).parts
  let steps := stepsBetween (seen start) (seen target)
  if steps.isEmpty then "." else Text.joinWith "/" steps

end Path

/-- The last name of a text without its extension: leading dots start none. -/
def nameWithoutExtension (cs : List Char) : List Char :=
  let dots := cs.takeWhile (· == '.')
  let body := cs.drop dots.length
  let tail := (body.reverse.takeWhile (· != '.')).reverse
  if tail.length = body.length then cs else dots ++ body.take (body.length - tail.length - 1)

/-- A text without the extension of its last name between slashes. -/
def withoutExtension (cs : List Char) : List Char :=
  let last := (cs.reverse.takeWhile (· != '/')).reverse
  cs.take (cs.length - last.length) ++ nameWithoutExtension last

end ReducerAtlas
