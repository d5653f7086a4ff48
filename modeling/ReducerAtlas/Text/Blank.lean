/-!
# Blank characters

The characters that separate words, in every script, and trimming them away.

* `isBlank`: the class; `trimWith`, `trim`: a text without such characters at either end.
-/

namespace ReducerAtlas.Text

/-- A space, tab or line end of some kind, or one of the four information separators. -/
def isBlank (c : Char) : Bool :=
  let n := c.toNat
  (9 ≤ n && n ≤ 13) || (28 ≤ n && n ≤ 32) || n == 0x85 || n == 0xA0 || n == 0x1680 ||
    (0x2000 ≤ n && n ≤ 0x200A) || n == 0x2028 || n == 0x2029 || n == 0x202F || n == 0x205F ||
    n == 0x3000

/-- The text without the characters of a class at its front and at its end. -/
def trimWith {α : Type} (p : α → Bool) (cs : List α) : List α :=
  ((cs.dropWhile p).reverse.dropWhile p).reverse

/-- The text without blanks at its front and at its end. -/
def trim (cs : List Char) : List Char :=
  trimWith isBlank cs

/-- The string without blanks at its front and at its end. -/
def trimmed (s : String) : String :=
  String.ofList (trim s.toList)

@[simp]
theorem trim_nil : trim [] = [] := rfl

end ReducerAtlas.Text
