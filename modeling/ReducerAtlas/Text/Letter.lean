import ReducerAtlas.Text.Blank
import ReducerAtlas.Text.Quoted

/-!
# Letters

The texts of a configuration file are written with escapes, and an escape may name half of a
character: a surrogate without its partner. A letter is a character or such a half. Halves can be
compared and shown, but no character stands for them, and most of them can stand in no name.

* `Letter`: a character, or a half that stands alone; `letters`: the letters of a string.
* `Letter.isNameless`, `Letter.isUnnamed`, `nameText`: a letter and a text in the names of files.
* `quotedLetters`, `printed`: a text between quotes and as it is printed; `spelledOut`: a pattern
  with escapes for halves.
-/

namespace ReducerAtlas.Text

/-- A character, or half of one that stands alone. -/
inductive Letter
  | char (c : Char)
  /-- The surrogate whose code point is this number above the first one. -/
  | half (n : Fin 2048)
  deriving DecidableEq, Repr

/-- The code point of the first surrogate. -/
def firstSurrogate : Nat := 0xD800

/-- The character of a letter, if it is one. -/
def Letter.char? : Letter → Option Char
  | .char c => some c
  | .half _ => none

theorem sub_firstSurrogate_lt {code : Nat}
    (h : firstSurrogate ≤ code ∧ code < firstSurrogate + 2048) : code - firstSurrogate < 2048 :=
  Nat.sub_lt_left_of_lt_add h.1 h.2

/-- The letter of a code point. -/
def Letter.ofCode (code : Nat) : Letter :=
  if h : firstSurrogate ≤ code ∧ code < firstSurrogate + 2048 then
    .half ⟨code - firstSurrogate, sub_firstSurrogate_lt h⟩
  else .char (Char.ofNat code)

/-- The letters of a string. -/
def letters (s : String) : List Letter :=
  s.toList.map .char

/-- The string of some letters, if all of them are characters. -/
def stringOf? (ls : List Letter) : Option String :=
  (ls.mapM Letter.char?).map String.ofList

/-- The text without blanks at its front and at its end. -/
def trimLetters (ls : List Letter) : List Letter :=
  trimWith (fun l => l.char?.any isBlank) ls

/-! ## Names of files -/

/-- The half stands for a byte of a name that is not UTF-8. -/
def isRawByte (n : Fin 2048) : Bool :=
  0x480 ≤ n.val && n.val < 0x500

/-- The letter can stand in no name: the half has no bytes. -/
def Letter.isNameless : Letter → Bool
  | .char _ => false
  | .half n => !isRawByte n

/-- The letter can stand in no path: a half without bytes, or the null character. -/
def Letter.isUnnamed (l : Letter) : Bool :=
  l.isNameless || l == .char '\x00'

/-- The character that stands for a letter in a name. A raw byte is written as one of the last
private characters. What can stand in no name is written as the null character, which leads nowhere
either. -/
def Letter.inName : Letter → Char
  | .char c => c
  | .half n => if isRawByte n then Char.ofNat (0x10FF00 + (n.val - 0x400)) else '\x00'

/-- The text as it stands in the name of a file. -/
def nameText (ls : List Letter) : String :=
  String.ofList (ls.map Letter.inName)

/-! ## Writing halves -/

/-- The escape of a half. -/
def halfEscape (n : Fin 2048) : List Char :=
  '\\' :: 'u' :: hexPadded 4 (firstSurrogate + n.val)

/-- The text between quotes, with a half as its escape. -/
def quotedLetters (ls : List Letter) : String :=
  let q := quoteFor (ls.filterMap Letter.char?)
  let shown (l : Letter) := match l with
    | .char c => escapeChar q c
    | .half n => halfEscape n
  String.ofList (q :: ls.flatMap shown ++ [q])

/-- The text as it is printed, with the escape of every half in its place. -/
def printed (ls : List Letter) : String :=
  let shown (l : Letter) := match l with
    | .char c => [c]
    | .half n => halfEscape n
  String.ofList (ls.flatMap shown)

/-- The text with the escape of every half in its place. A backslash before a half is part of the
escape. -/
def spelledOut : List Letter → List Char
  | [] => []
  | .half n :: rest => halfEscape n ++ spelledOut rest
  | .char '\\' :: .half n :: rest => halfEscape n ++ spelledOut rest
  | .char '\\' :: .char c :: rest => '\\' :: c :: spelledOut rest
  | .char c :: rest => c :: spelledOut rest

end ReducerAtlas.Text
