import ReducerAtlas.Text.Word
import ReducerAtlas.Text.Split

/-!
# Lexemes of a JavaScript source

A source text is cut from left to right into lexemes. At each place the first reading that fits
wins: a comment, an import, a re-export, a require call, a constant with an upper-case name and a
quoted value, a string or template literal, a word, and any other text.

* `Kind`: what a lexeme is, with the texts that matter in it; `Lexeme`: a kind and its whole text.
* `next`: the lexeme at a place; `lexemes`: all of them.
-/

namespace ReducerAtlas.Source

open ReducerAtlas.Text

/-- What a lexeme is, with the texts inside it that the analysis looks at. -/
inductive Kind
  /-- A comment up to the end of its line. -/
  | lineComment
  /-- A comment up to its closing mark, or to the end of the text. -/
  | blockComment
  /-- An import, with the clause between its two keywords if there is one. -/
  | importing (clause source : List Char)
  /-- A re-export, with its star or its brace list. -/
  | reexporting (clause source : List Char)
  /-- A require call up to its first argument: a quoted text or a bracketed list. -/
  | requiring (argument : List Char)
  /-- A quoted value given to an upper-case name. -/
  | constant (name value : List Char)
  /-- A string or template literal. -/
  | literal
  /-- An identifier, a keyword or a number. -/
  | word
  /-- Anything else. -/
  | other
  deriving DecidableEq, Repr

/-- A stretch of source text and what it is. -/
structure Lexeme where
  kind : Kind
  text : List Char
  deriving DecidableEq, Repr

/-! ## Pieces of a statement -/

/-- The quote that starts and ends a quoted text, and its content. The content is on one line and
does not hold the quote. -/
def quotedText? : List Char → Option (Char × List Char)
  | [] => none
  | q :: cs =>
    if q = '\x27' ∨ q = '\x22' then
      let content := cs.takeWhile fun c => c != q && c != '\n'
      if (cs.drop content.length).head? = some q then some (q, content) else none
    else none

/-- The quoted text that a text starts with: its content, and all of it. -/
def quotation? (cs : List Char) : Option (List Char × List Char) :=
  (quotedText? cs).map fun (q, content) => (content, q :: content ++ [q])

/-- The keyword before a module name. -/
def fromWord : List Char := ['f', 'r', 'o', 'm']

/-- Optional blanks, the keyword `from`, optional blanks and a quoted module name: the name, and all
of the text. -/
def fromSource? (cs : List Char) : Option (List Char × List Char) := do
  let gap := cs.takeWhile isBlank
  let rest ← after? fromWord (cs.dropWhile isBlank)
  let (source, quote) ← quotation? (rest.dropWhile isBlank)
  return (source, gap ++ fromWord ++ rest.takeWhile isBlank ++ quote)

/-- The place after a given character is not inside a word, so a keyword may begin there. -/
def outsideWord (before : Option Char) : Bool :=
  !before.any isWord

/-- A character that an import clause may hold. -/
def isClauseChar (c : Char) : Bool :=
  isNameChar c || isBlank c || c == '*' || c == '\x7b' || c == '\x7d' || c == ','

/-! ## Statements -/

/-- The shortest import clause, read on from what is taken already, that a module name follows: the
clause, the module name, and the text of both. -/
def importClause? (taken : List Char) : List Char → Option (List Char × List Char × List Char)
  | [] => none
  | c :: cs =>
    if isClauseChar c then
      let follows := if outsideWord (some c) || cs.head?.any isBlank then fromSource? cs else none
      match follows with
      | some (source, text) =>
        let clause := (c :: taken).reverse
        some (clause, source, clause ++ text)
      | none => importClause? (c :: taken) cs
    else none

/-- What follows the keyword of an import: a clause and a module name, or a module name alone, or
the keyword `from` with nothing to bind. -/
def importTail? (gap body : List Char) : Option (List Char × List Char × List Char) :=
  match importClause? [] body with
  | some found => some found
  | none =>
    match quotation? body with
    | some (source, text) => some ([], source, text)
    | none => if gap.isEmpty then none else (fromSource? body).map fun (s, t) => ([], s, t)

/-- The keyword of an import. -/
def importWord : List Char := ['i', 'm', 'p', 'o', 'r', 't']

/-- An import at the front of a text. -/
def import? (cs : List Char) : Option Lexeme := do
  let rest ← after? importWord cs
  if rest.head?.any isWord then none
  let gap := rest.takeWhile isBlank
  let (clause, source, text) ← importTail? gap (rest.dropWhile isBlank)
  return ⟨.importing clause source, importWord ++ gap ++ text⟩

/-- The longest part of a name, at most the given number of its characters, that a module name
follows: that part, the module name, and the text of the latter. -/
def aliasSource? (name rest : List Char) : Nat → Option (List Char × List Char × List Char)
  | 0 => none
  | n + 1 =>
    match fromSource? (name.drop (n + 1) ++ rest) with
    | some (source, text) => some (name.take (n + 1), source, text)
    | none => aliasSource? name rest n

/-- The keyword before another name. -/
def asWord : List Char := ['a', 's']

/-- The name that a star is exported under and the module name after it, for the text after the
star: the text up to the name, the module name, and the text from there on. -/
def starAlias? (cs : List Char) : Option (List Char × List Char × List Char) := do
  let rest ← after? asWord (cs.dropWhile isBlank)
  let gap := rest.takeWhile isBlank
  if gap.isEmpty then none
  let body := rest.dropWhile isBlank
  let name := body.takeWhile isNameChar
  let (part, source, text) ← aliasSource? name (body.dropWhile isNameChar) name.length
  return (cs.takeWhile isBlank ++ asWord ++ gap ++ part, source, text)

/-- The clause of a re-export with the module name after it: the clause, the module name, and the
text of the latter. -/
def exportClause? : List Char → Option (List Char × List Char × List Char)
  | [] => none
  | c :: cs =>
    if c = '*' then
      match starAlias? cs with
      | some (name, source, text) => some ('*' :: name, source, text)
      | none => (fromSource? cs).map fun (source, text) => (['*'], source, text)
    else if c = '\x7b' then
      let inner := cs.takeWhile (· != '\x7d')
      match cs.drop inner.length with
      | [] => none
      | close :: rest =>
        (fromSource? rest).map fun (source, text) => (c :: inner ++ [close], source, text)
    else none

/-- The keyword of an export. -/
def exportWord : List Char := ['e', 'x', 'p', 'o', 'r', 't']

/-- A re-export at the front of a text. -/
def export? (cs : List Char) : Option Lexeme := do
  let rest ← after? exportWord cs
  let gap := rest.takeWhile isBlank
  let (clause, source, text) ← exportClause? (rest.dropWhile isBlank)
  return ⟨.reexporting clause source, exportWord ++ gap ++ clause ++ text⟩

/-- The keyword of a require call. -/
def requireWord : List Char := ['r', 'e', 'q', 'u', 'i', 'r', 'e']

/-- The first argument of a require call: a bracketed list or a quoted text. -/
def requireArgument? : List Char → Option (List Char)
  | [] => none
  | c :: cs =>
    if c = '[' then
      let inner := cs.takeWhile (· != ']')
      if (cs.drop inner.length).isEmpty then none else some (c :: inner ++ [']'])
    else (quotation? (c :: cs)).map (·.2)

/-- A require call at the front of a text, up to its first argument. -/
def require? (cs : List Char) : Option Lexeme := do
  let rest ← after? requireWord cs
  let gap := rest.takeWhile isBlank
  let inner ← after? ['('] (rest.dropWhile isBlank)
  let argument ← requireArgument? (inner.dropWhile isBlank)
  return ⟨.requiring argument, requireWord ++ gap ++ ['('] ++ inner.takeWhile isBlank ++ argument⟩

/-- A character that a constant's name may start with. -/
def isConstantStart (c : Char) : Bool :=
  c.isUpper || c == '_'

/-- A character of a constant's name. -/
def isConstantChar (c : Char) : Bool :=
  isConstantStart c || c.isDigit

/-- A constant at the front of a text. -/
def constant? (cs : List Char) : Option Lexeme := do
  let name := cs.takeWhile isConstantChar
  if !name.head?.any isConstantStart then none
  let rest := cs.dropWhile isConstantChar
  let body ← after? ['='] (rest.dropWhile isBlank)
  let (value, text) ← quotation? (body.dropWhile isBlank)
  return ⟨.constant name value,
    name ++ rest.takeWhile isBlank ++ ['='] ++ body.takeWhile isBlank ++ text⟩

/-! ## Comments, literals and the rest -/

/-- A block comment after its opening mark: up to the closing mark, or everything. -/
def blockRest : List Char → List Char
  | [] => []
  | '*' :: '/' :: _ => ['*', '/']
  | c :: cs => c :: blockRest cs

/-- A comment at the front of a text. -/
def comment? : List Char → Option Lexeme
  | '/' :: '/' :: cs => some ⟨.lineComment, '/' :: '/' :: cs.takeWhile (· != '\n')⟩
  | '/' :: '*' :: cs => some ⟨.blockComment, '/' :: '*' :: blockRest cs⟩
  | _ => none

/-- The quote around a template literal. -/
def templateQuote : Char := '\x60'

/-- A literal after its opening quote, up to the closing one. A backslash takes the next character
along, whatever it is; only a template goes over line ends. -/
def literalRest? (quote : Char) : List Char → Option (List Char)
  | [] => none
  | '\\' :: cs =>
    match cs with
    | [] => none
    | c :: rest => (literalRest? quote rest).map ('\\' :: c :: ·)
  | c :: cs =>
    if c = quote then some [c]
    else if c = '\n' ∧ quote ≠ templateQuote then none
    else (literalRest? quote cs).map (c :: ·)

/-- A string or template literal at the front of a text. -/
def literal? : List Char → Option Lexeme
  | [] => none
  | q :: cs =>
    if q = '\x27' ∨ q = '\x22' ∨ q = templateQuote then
      (literalRest? q cs).map fun text => ⟨.literal, q :: text⟩
    else none

/-- A word at the front of a text. -/
def word? (cs : List Char) : Option Lexeme :=
  let text := cs.takeWhile isNameChar
  if text.isEmpty then none else some ⟨.word, text⟩

/-- A character that starts no other lexeme. -/
def isOther (c : Char) : Bool :=
  !(isNameChar c || c == '/' || c == '\x27' || c == '\x22' || c == templateQuote)

/-- The other text at the front of a non-empty text: a run of characters that start no other lexeme,
or a single character. -/
def otherText (c : Char) (cs : List Char) : Lexeme :=
  if isOther c then ⟨.other, c :: cs.takeWhile isOther⟩ else ⟨.other, [c]⟩

/-- A statement at the front of a text. -/
def statement? (cs : List Char) : Option Lexeme :=
  (import? cs).or ((export? cs).or ((require? cs).or (constant? cs)))

/-- The lexeme at the front of a non-empty text, after the given character. A statement starts only
outside a word. -/
def next (before : Option Char) (c : Char) (cs : List Char) : Lexeme :=
  let text := c :: cs
  let statement := if outsideWord before then statement? text else none
  ((comment? text).or (statement.or ((literal? text).or (word? text)))).getD (otherText c cs)

/-- The lexemes of a text after the given character, from its place `skip` on. -/
def lexemesFrom : Nat → Option Char → List Char → List Lexeme
  | _, _, [] => []
  | skip + 1, _, c :: cs => lexemesFrom skip (some c) cs
  | 0, before, c :: cs =>
    let lexeme := next before c cs
    lexeme :: lexemesFrom (lexeme.text.length - 1) (some c) cs

/-- **The lexemes of a source text.** -/
def lexemes (content : List Char) : List Lexeme :=
  lexemesFrom 0 none content

end ReducerAtlas.Source
