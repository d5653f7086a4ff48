import ReducerAtlas.Text.Case
import ReducerAtlas.Text.Word
import ReducerAtlas.Text.Digit
import ReducerAtlas.Text.Blank

/-!
# Patterns

Regular expressions with groups, back-references, look-around, and greedy, lazy and possessive
repeats.

* `CharClass`: a set of characters; `CharClass.holds`: its members, upper and lower case apart or
  not.
* `Pattern`: the expressions; `Pattern.width`: how many characters one matches; `Pattern.repeats`:
  whether one has a repeat.
-/

namespace ReducerAtlas

open ReducerAtlas.Text

/-! ## Characters -/

/-- The classes of characters that have a name. -/
inductive NamedClass
  | digit
  | space
  | word
  deriving DecidableEq, Repr

/-- The members of a named class, in all scripts or in ASCII only. -/
def NamedClass.holds (ascii : Bool) : NamedClass → Char → Bool
  | .digit, c => if ascii then c.isDigit else isDigit c
  | .space, c => if ascii then c == ' ' || (9 ≤ c.toNat && c.toNat ≤ 13) else isBlank c
  | .word, c => if ascii then c.isAlphanum || c == '_' else isWord c

/-- One item of a character class. -/
inductive ClassItem
  | code (n : Nat)
  | range (low high : Nat)
  | named (cls : NamedClass) (negated : Bool)
  deriving DecidableEq, Repr

/-- How upper and lower case are told apart: fully, not at all in ASCII, or not at all. -/
inductive Folding
  | exact
  | ascii
  | full
  deriving DecidableEq, Repr

/-- The small letter of a code point under a folding. -/
def Folding.lower : Folding → Nat → Nat
  | .exact, n => n
  | .ascii, n => if 65 ≤ n ∧ n ≤ 90 then n + 32 else n
  | .full, n => Text.lower n

/-- The capital of a small letter under a folding. -/
def Folding.upper : Folding → Nat → Nat
  | .exact, n => n
  | _, n => Text.upper n

/-- The code points that a small letter stands for under a folding, itself included. -/
def Folding.variants : Folding → Nat → List Nat
  | .exact, n => [n]
  | .ascii, n => if 97 ≤ n ∧ n ≤ 122 then [n, n - 32] else [n]
  | .full, n => (n :: twins n).flatMap fun m => m :: capitals m

/-- A set of characters. -/
structure CharClass where
  items : List ClassItem
  negated : Bool := false
  folding : Folding := .exact
  asciiNames : Bool := false
  deriving DecidableEq, Repr

/-- The class names one character and nothing else. -/
def CharClass.isLone (cls : CharClass) : Bool :=
  match cls.items with
  | [.code _] => true
  | _ => false

/-- The last code point of the basic plane. -/
def basicPlane : Nat := 0xFFFF

/-- The code point lies between two others, the ends included. -/
def within (low high n : Nat) : Bool :=
  low ≤ n && n ≤ high

/-- A character belongs to an item of a class. In the basic plane a letter brings in all its
variants, and so does the character of a class that names no other. Beyond it a letter stands for
the small letter of that code point only, and a range for its members and their small letters. -/
def ClassItem.holds (cls : CharClass) (c : Char) : ClassItem → Bool
  | .code n =>
    let small := cls.folding.lower c.toNat
    if n ≤ basicPlane || cls.isLone then (cls.folding.variants small).contains n else small == n
  | .range low high =>
    let small := cls.folding.lower c.toNat
    (cls.folding.variants small).any (within low (min high basicPlane)) ||
      (basicPlane < high &&
        (within low high small || within low high (cls.folding.upper small)))
  | .named name negated => name.holds cls.asciiNames c != negated

/-- The members of a class. -/
def CharClass.holds (cls : CharClass) (c : Char) : Bool :=
  cls.items.any (·.holds cls c) != cls.negated

/-! ## Expressions -/

/-- A condition on the place between two characters. -/
inductive Place
  | textStart
  | lineStart
  | textEnd
  | lineEnd
  | beforeFinalNewline
  | wordEdge (ascii : Bool)
  | noWordEdge (ascii : Bool)
  deriving DecidableEq, Repr

/-- How often a repeat tries: as often as it can, as seldom as it can, or as often as it can without
going back. -/
inductive Greed
  | greedy
  | lazy
  | possessive
  deriving DecidableEq, Repr

/-- A regular expression. -/
inductive Pattern
  | empty
  | char (cls : CharClass)
  | any (newline : Bool)
  | place (place : Place)
  | seq (first second : Pattern)
  | alt (first second : Pattern)
  | loop (greed : Greed) (least : Nat) (most : Option Nat) (body : Pattern)
  | group (index : Nat) (body : Pattern)
  | backref (index : Nat) (folding : Folding)
  | ahead (negated : Bool) (body : Pattern)
  | behind (negated : Bool) (width : Nat) (body : Pattern)
  | atomic (body : Pattern)
  | ifGroup (index : Nat) (yes no : Pattern)
  deriving DecidableEq, Repr

/-- A repeat stands somewhere in the expression. -/
def Pattern.repeats : Pattern → Bool
  | .loop .. => true
  | .empty | .char _ | .any _ | .place _ | .backref .. => false
  | .seq a b | .alt a b | .ifGroup _ a b => a.repeats || b.repeats
  | .group _ body | .ahead _ body | .behind _ _ body | .atomic body => body.repeats

/-- The least and the greatest number of characters; the latter may be without bound. -/
abbrev Width := Nat × Option Nat

/-- The width of one thing after another. -/
def Width.add (a b : Width) : Width :=
  (a.1 + b.1, a.2.bind fun x => b.2.map (x + ·))

/-- The width of either of two things. -/
def Width.either (a b : Width) : Width :=
  (min a.1 b.1, a.2.bind fun x => b.2.map (max x))

/-- The width of a repeat. -/
def Width.times (a : Width) (least : Nat) (most : Option Nat) : Width :=
  let high := match a.2, most with
    | some 0, _ => some 0
    | some n, some m => some (n * m)
    | _, some 0 => some 0
    | _, _ => none
  (a.1 * least, high)

/-- How many characters an expression matches, given the widths of its groups. -/
def Pattern.width (groups : Nat → Width) : Pattern → Width
  | .empty | .place _ | .ahead .. | .behind .. => (0, some 0)
  | .char _ | .any _ => (1, some 1)
  | .seq a b => (a.width groups).add (b.width groups)
  | .alt a b => (a.width groups).either (b.width groups)
  | .loop _ least most body => (body.width groups).times least most
  | .group _ body | .atomic body => body.width groups
  | .backref index _ => groups index
  | .ifGroup _ yes no => (yes.width groups).either (no.width groups)

end ReducerAtlas
