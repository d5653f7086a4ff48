import ReducerAtlas.Text.Blank

/-!
# Cutting and replacing

* `splitBy`: the pieces between the characters of a class, the empty ones included.
* `words`: the pieces between blanks, the empty ones left out.
* `after?`: what follows a given beginning.
* `replaceAll`: every occurrence of a piece replaced, from the left and without overlap.
-/

namespace ReducerAtlas.Text

/-- The pieces between the characters of a class, the empty ones included. -/
def splitBy {α : Type} (p : α → Bool) : List α → List (List α)
  | [] => [[]]
  | c :: cs =>
    if p c then [] :: splitBy p cs
    else
      match splitBy p cs with
      | [] => [[c]]
      | piece :: pieces => (c :: piece) :: pieces

/-- The words of a text: its non-empty pieces between blanks. -/
def words (cs : List Char) : List (List Char) :=
  (splitBy isBlank cs).filter (!·.isEmpty)

/-- What follows the given beginning, if the text starts with it. -/
def after? : List Char → List Char → Option (List Char)
  | [], cs => some cs
  | _ :: _, [] => none
  | p :: ps, c :: cs => if p = c then after? ps cs else none

theorem after?_eq_some_iff {start cs rest : List Char} :
    after? start cs = some rest ↔ cs = start ++ rest := by
  induction start generalizing cs with
  | nil => simp [after?, eq_comm]
  | cons p ps ih =>
    cases cs with
    | nil => simp [after?]
    | cons c cs =>
      by_cases h : p = c
      · simp [after?, h, ih]
      · simp [after?, h, Ne.symm h]

/-- Replaces every occurrence of a piece, after leaving out the first `skip` characters. -/
def replaceFrom (piece new : List Char) : Nat → List Char → List Char
  | _, [] => []
  | skip + 1, _ :: cs => replaceFrom piece new skip cs
  | 0, c :: cs =>
    if piece.isPrefixOf (c :: cs) then new ++ replaceFrom piece new (piece.length - 1) cs
    else c :: replaceFrom piece new 0 cs

/-- Every occurrence of a non-empty piece replaced, from the left and without overlap. -/
def replaceAll (piece new cs : List Char) : List Char :=
  replaceFrom piece new 0 cs

/-- The strings with a separator between each two of them. -/
def joinWith (separator : String) : List String → String
  | [] => ""
  | [s] => s
  | s :: rest => s ++ separator ++ joinWith separator rest

end ReducerAtlas.Text
