import ReducerAtlas.Pattern.Syntax

/-!
# Searching for a pattern

A matcher that tries alternatives in order and goes back when what follows does not fit.

* `Cursor`: a place in a text and the texts of the groups so far.
* `Pattern.run`: matching at a place, with what has to follow as a continuation.
* `Pattern.found`: a match somewhere in a text.
-/

namespace ReducerAtlas

open ReducerAtlas.Text

/-- A place in a text: what is before it, nearest first, and what is after it. The texts of the
groups so far are kept, the latest first. -/
structure Cursor where
  before : List Char
  rest : List Char
  groups : List (Nat × List Char) := []
  deriving DecidableEq, Repr

namespace Cursor

/-- The place one character further. -/
def step? (cur : Cursor) (good : Char → Bool) : Option Cursor :=
  match cur.rest with
  | [] => none
  | c :: rest => if good c then some { cur with before := c :: cur.before, rest := rest } else none

/-- The place some characters further, if they are the given ones up to folding. -/
def stepOver? (folding : Folding) : List Char → Cursor → Option Cursor
  | [], cur => some cur
  | c :: cs, cur =>
    (cur.step? fun d => folding.lower d.toNat == folding.lower c.toNat).bind (stepOver? folding cs)

/-- The place some characters back. -/
def back? (cur : Cursor) (n : Nat) : Option Cursor :=
  if n ≤ cur.before.length then
    some { cur with
      before := cur.before.drop n
      rest := (cur.before.take n).reverse ++ cur.rest }
  else none

/-- A word starts or ends at the place. In an empty text none does. -/
def atEdge (ascii : Bool) (cur : Cursor) : Bool :=
  let isWord := NamedClass.word.holds ascii
  cur.before.head?.any isWord != cur.rest.head?.any isWord

end Cursor

/-- The condition holds at the place. In an empty text there is no place inside a word. -/
def Place.holds (cur : Cursor) : Place → Bool
  | .textStart => cur.before.isEmpty
  | .lineStart => cur.before.head?.all (· == '\n')
  | .textEnd => cur.rest.isEmpty
  | .lineEnd => cur.rest.head?.all (· == '\n')
  | .beforeFinalNewline => cur.rest.isEmpty || cur.rest == ['\n']
  | .wordEdge ascii => cur.atEdge ascii
  | .noWordEdge ascii => !(cur.before.isEmpty && cur.rest.isEmpty) && !cur.atEdge ascii

/-- What has to match after an expression. -/
abbrev Continuation := Cursor → Option Cursor

/-- A matcher: it finds the first way to match that its continuation accepts. -/
abbrev Matcher := Cursor → Continuation → Option Cursor

/-- One more repeat is allowed. -/
def below (count : Nat) : Option Nat → Bool
  | none => true
  | some most => count < most

/-- A repeat that goes back. Past the least count a round is only tried where the one before it has
moved on. -/
def repeatMatch (body : Matcher) (lazy : Bool) (least : Nat) (most : Option Nat) :
    Nat → Nat → Option Nat → Matcher
  | 0, _, _, _, _ => none
  | fuel + 1, count, last, cur, k =>
    if count < least then
      body cur fun next => repeatMatch body lazy least most fuel (count + 1) last next k
    else
      let here := cur.rest.length
      let again (_ : Unit) :=
        if below count most && last != some here then
          body cur fun next => repeatMatch body lazy least most fuel (count + 1) (some here) next k
        else none
      if lazy then
        match k cur with
        | some done => some done
        | none => again ()
      else
        match again () with
        | some done => some done
        | none => k cur

/-- A repeat that does not go back. -/
def possess (body : Matcher) (least : Nat) (most : Option Nat) : Nat → Nat → Cursor → Option Cursor
  | 0, _, _ => none
  | fuel + 1, count, cur =>
    if count < least then
      (body cur some).bind (possess body least most fuel (count + 1))
    else if below count most then
      match body cur some with
      | none => some cur
      | some next =>
        if next.rest.length = cur.rest.length then some next
        else possess body least most fuel (count + 1) next
    else some cur

/-- The rounds that a repeat can take: the least count, one for each character, and the last. -/
def rounds (least : Nat) (cur : Cursor) : Nat :=
  least + cur.rest.length + 2

/-- **Matching at a place.** -/
def Pattern.run : Pattern → Matcher
  | .empty, cur, k => k cur
  | .char cls, cur, k => (cur.step? cls.holds).bind k
  | .any newline, cur, k => (cur.step? fun c => newline || c != '\n').bind k
  | .place spot, cur, k => if spot.holds cur then k cur else none
  | .seq a b, cur, k => a.run cur fun next => b.run next k
  | .alt a b, cur, k =>
    match a.run cur k with
    | some done => some done
    | none => b.run cur k
  | .loop .greedy least most body, cur, k =>
    repeatMatch body.run false least most (rounds least cur) 0 none cur k
  | .loop .lazy least most body, cur, k =>
    repeatMatch body.run true least most (rounds least cur) 0 none cur k
  | .loop .possessive least most body, cur, k =>
    (possess body.run least most (rounds least cur) 0 cur).bind k
  | .group index body, cur, k =>
    body.run cur fun next =>
      let text := cur.rest.take (cur.rest.length - next.rest.length)
      k { next with groups := (index, text) :: next.groups }
  | .backref index folding, cur, k =>
    match cur.groups.lookup index with
    | none => none
    | some text => (Cursor.stepOver? folding text cur).bind k
  | .ahead negated body, cur, k =>
    match body.run cur some with
    | some found => if negated then none else k { cur with groups := found.groups }
    | none => if negated then k cur else none
  | .behind negated width body, cur, k =>
    match (cur.back? width).bind fun start => body.run start some with
    | some found => if negated then none else k { cur with groups := found.groups }
    | none => if negated then k cur else none
  | .atomic body, cur, k => (body.run cur some).bind k
  | .ifGroup index yes no, cur, k =>
    if (cur.groups.lookup index).isSome then yes.run cur k else no.run cur k

/-- A match at the place or further on. -/
def Pattern.foundFrom (pattern : Pattern) (before : List Char) : List Char → Bool
  | [] => (pattern.run ⟨before, [], []⟩ some).isSome
  | c :: rest =>
    (pattern.run ⟨before, c :: rest, []⟩ some).isSome || foundFrom pattern (c :: before) rest

/-- **The pattern matches somewhere in the text.** -/
def Pattern.found (pattern : Pattern) (text : String) : Bool :=
  pattern.foundFrom [] text.toList

end ReducerAtlas
