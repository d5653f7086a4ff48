import ReducerAtlas.Json.Reader

/-!
# Tokens of a YAML text

The marks, indentations and scalars of a YAML text. A key is only known as one when its colon comes,
so its mark is put in front of it later.

* `Yaml.Fault`: why a text is refused; `Yaml.Token`: the tokens.
* `Yaml.tokens`: the tokens of a text, up to its end or to where it is refused.
-/

namespace ReducerAtlas.Yaml

open ReducerAtlas.Text

/-- Why a text is refused. -/
inductive Fault
  /-- The text is not YAML, or uses a part of it that is not read. -/
  | malformed
  /-- A numeral has no digits, or too many, or is no code point. -/
  | badNumeral
  /-- A number is out of all bounds. -/
  | tooLarge
  deriving DecidableEq, Repr

/-- A token. -/
inductive Token
  | documentStart
  | documentEnd
  | blockSequenceStart
  | blockMappingStart
  | blockEnd
  | flowSequenceStart
  | flowSequenceEnd
  | flowMappingStart
  | flowMappingEnd
  | flowEntry
  | blockEntry
  | key
  | value
  /-- A scalar without quotes, whose form says what it means. -/
  | plain (text : List Char)
  | quoted (text : List Letter)
  /-- The name of the node that follows. -/
  | anchor (name : List Char)
  /-- A node by its name. -/
  | reference (name : List Char)
  /-- The text is refused from here on. -/
  | broken (fault : Fault)
  deriving DecidableEq, Repr

/-- A scalar that may turn out to be a key: the place of its token, whether it has to be a key, and
where it started. -/
structure PossibleKey where
  place : Nat
  required : Bool
  index : Nat
  line : Nat
  column : Nat
  deriving Repr

/-- The state of reading: the place in the text, the nesting of flow and block collections, the
possible keys by flow level, and the tokens so far. -/
structure Progress where
  rest : List Char
  index : Nat := 0
  line : Nat := 0
  column : Nat := 0
  flow : Nat := 0
  indent : Int := -1
  indents : List Int := []
  keyAllowed : Bool := true
  keys : List (Nat × PossibleKey) := []
  tokens : Array Token := #[]

/-- Reading with the scanner as state. -/
abbrev Step := StateT Progress (Except Fault)

/-- The text is refused. -/
def refuse {α : Type} : Step α := throw .malformed

/-! ## Characters -/

/-- The mark of the end of the text. -/
def endMark : Char := '\x00'

/-- A line end. -/
def isBreak (c : Char) : Bool :=
  c == '\n' || c == '\r' || c == '\x85' || c == '\u2028' || c == '\u2029'

/-- A line end or the end of the text. -/
def isLineEnd (c : Char) : Bool :=
  c == endMark || isBreak c

/-- A blank, a line end or the end of the text. -/
def isGap (c : Char) : Bool :=
  c == ' ' || c == '\t' || isLineEnd c

/-- A character that a text may hold. -/
def isAllowed (c : Char) : Bool :=
  let n := c.toNat
  n == 9 || n == 10 || n == 13 || (32 ≤ n && n ≤ 126) || n == 0x85 ||
    (0xA0 ≤ n && n ≤ 0xD7FF) || (0xE000 ≤ n && n ≤ 0xFFFD) || 0x10000 ≤ n

/-- The character some places on. -/
def Progress.at (s : Progress) (k : Nat) : Char :=
  (s.rest.drop k).headD endMark

/-- The next character. -/
def peek : Step Char := return (← get).at 0

/-- The place after one more character. -/
def Progress.forward (s : Progress) : Progress :=
  match s.rest with
  | [] => s
  | c :: rest =>
    let s := { s with rest := rest, index := s.index + 1 }
    if isBreak c && !(c == '\r' && rest.head? == some '\n') then
      { s with line := s.line + 1, column := 0 }
    else if c == '\uFEFF' then s
    else { s with column := s.column + 1 }

/-- Goes some characters on. -/
def skip : Nat → Step Unit
  | 0 => return ()
  | n + 1 => do
    modify Progress.forward
    skip n

/-- Goes on while characters belong to a class, and gives them. -/
def takeWhile (p : Char → Bool) : Step (List Char) := do
  let cs := (← get).rest.takeWhile p
  skip cs.length
  return cs

/-- Takes a line end, if one is next; the usual ones become a line feed. -/
def lineBreak : Step (List Char) := do
  let s ← get
  let c := s.at 0
  if c == '\r' && s.at 1 == '\n' then
    skip 2
    return ['\n']
  if c == '\r' || c == '\n' || c == '\x85' then
    skip 1
    return ['\n']
  if c == '\u2028' || c == '\u2029' then
    skip 1
    return [c]
  return []

/-- A document mark stands at the place. -/
def Progress.atMark (s : Progress) : Bool :=
  (s.rest.take 3 == ['-', '-', '-'] || s.rest.take 3 == ['.', '.', '.']) && isGap (s.at 3)

/-! ## Keys and indentation -/

/-- Adds a token. -/
def emit (t : Token) : Step Unit :=
  modify fun s => { s with tokens := s.tokens.push t }

/-- Puts a token in front of the one at a place. -/
def emitAt (place : Nat) (t : Token) : Step Unit :=
  modify fun s =>
    { s with tokens := (s.tokens.toList.take place ++ t :: s.tokens.toList.drop place).toArray }

/-- Sets whether a key may come next. -/
def allowKey (allowed : Bool) : Step Unit :=
  modify fun s => { s with keyAllowed := allowed }

/-- A line end or 1024 characters separate a possible key from here. -/
def Progress.isStale (s : Progress) (k : PossibleKey) : Bool :=
  k.line != s.line || 1024 < s.index - k.index

/-- Forgets the possible keys that are stale. -/
def dropStaleKeys : Step Unit := do
  let s ← get
  if s.keys.any fun entry => s.isStale entry.2 && entry.2.required then refuse
  set { s with keys := s.keys.filter fun entry => !s.isStale entry.2 }

/-- Forgets the possible key of the flow level. -/
def dropKey : Step Unit := do
  let s ← get
  match s.keys.lookup s.flow with
  | none => return ()
  | some k =>
    if k.required then refuse
    set { s with keys := s.keys.filter (·.1 != s.flow) }

/-- Notes that the next token may turn out to be a key. -/
def saveKey : Step Unit := do
  let s ← get
  if s.keyAllowed then
    dropKey
    modify fun t =>
      let key : PossibleKey :=
        { place := t.tokens.size
          required := s.flow == 0 && s.indent == (s.column : Int)
          index := s.index
          line := s.line
          column := s.column }
      { t with keys := (s.flow, key) :: t.keys }

/-- Ends the block collections that are indented more than a column. -/
def unwind (column : Int) : Step Unit := do
  let s ← get
  if s.flow == 0 then go s.indents.length
where
  go : Nat → Step Unit
    | 0 => return ()
    | n + 1 => do
      let s ← get
      if column < s.indent then
        set { s with indent := s.indents.headD (-1), indents := s.indents.drop 1 }
        emit .blockEnd
        go n

/-- Starts a block collection at a column, if it is indented more than the one around it. -/
def addIndent (column : Nat) : Step Bool := do
  let s ← get
  if s.indent < (column : Int) then
    set { s with indent := column, indents := s.indent :: s.indents }
    return true
  return false

/-! ## Scalars -/

/-- Line ends of a block scalar, with at most the given indentation before them. -/
def blockBreaks (indent : Nat) : Nat → Step (List Char)
  | 0 => return []
  | fuel + 1 => do
    let s ← get
    skip (min (indent - s.column) (s.rest.takeWhile (· == ' ')).length)
    if isBreak (← peek) then
      let found ← lineBreak
      return found ++ (← blockBreaks indent fuel)
    return []

/-- Line ends and blanks before a block scalar, and the greatest indentation among them. -/
def blockIndentation : Nat → Nat → Step (List Char × Nat)
  | 0, deepest => return ([], deepest)
  | fuel + 1, deepest => do
    let c ← peek
    if c == ' ' then
      skip 1
      blockIndentation fuel (max deepest (← get).column)
    else if isBreak c then
      let found ← lineBreak
      let (more, deepest) ← blockIndentation fuel deepest
      return (found ++ more, deepest)
    else return ([], deepest)

/-- The lines of a block scalar, with the line ends before the next one: the text, the last line
end, and the line ends after it. -/
def blockLines (folded : Bool) (indent : Nat) :
    Nat → List Char → Step (List Char × List Char × List Char)
  | 0, breaks => return ([], [], breaks)
  | fuel + 1, breaks => do
    let s ← get
    let atLine (s : Progress) := s.column == indent && s.at 0 != endMark
    if !atLine s then return ([], [], breaks)
    let leading := s.at 0 != ' ' && s.at 0 != '\t'
    let line ← takeWhile (!isLineEnd ·)
    let lastBreak ← lineBreak
    let more ← blockBreaks indent (fuel + 1)
    let t ← get
    if !atLine t then return (breaks ++ line, lastBreak, more)
    let joined :=
      if folded && lastBreak == ['\n'] && leading && t.at 0 != ' ' && t.at 0 != '\t' then
        if more.isEmpty then [' '] else []
      else lastBreak
    let (rest, last, final) ← blockLines folded indent fuel more
    return (breaks ++ line ++ joined ++ rest, last, final)

/-- The header of a block scalar: what to do with the last line ends, and the indentation. -/
def blockHeader : Step (Option Bool × Option Nat) := do
  let chomp : Step (Option Bool) := do
    let c ← peek
    if c == '+' || c == '-' then
      skip 1
      return some (c == '+')
    return none
  let size : Step (Option Nat) := do
    let c ← peek
    if c == '0' then refuse
    if c.isDigit then
      skip 1
      return some (c.toNat - 48)
    return none
  let first ← chomp
  let width ← size
  let chomping ← if first.isNone && width.isSome then chomp else pure first
  let c ← peek
  if !(c == ' ' || isLineEnd c) then refuse
  return (chomping, width)

/-- The rest of a header line: blanks and a comment. -/
def restOfHeader : Step Unit := do
  discard <| takeWhile (· == ' ')
  if (← peek) == '#' then discard <| takeWhile (!isLineEnd ·)
  if !isLineEnd (← peek) then refuse
  discard lineBreak

/-- A block scalar, literal or folded. -/
def blockScalar (folded : Bool) : Step (List Char) := do
  skip 1
  let (chomping, width) ← blockHeader
  restOfHeader
  let s ← get
  let fuel := s.rest.length + 1
  let least := max (s.indent + 1) 1
  let (breaks, indent) ← match width with
    | none => do
      let (breaks, deepest) ← blockIndentation fuel 0
      pure (breaks, max least.toNat deepest)
    | some w => do
      let indent := least.toNat + w - 1
      pure (← blockBreaks indent fuel, indent)
  let (text, last, final) ← blockLines folded indent fuel breaks
  let tail := if chomping == some false then [] else last
  return text ++ tail ++ (if chomping == some true then final else [])

/-- Line ends inside a quoted scalar; a document mark may not stand among them. -/
def quotedBreaks : Nat → Step (List Char)
  | 0 => refuse
  | fuel + 1 => do
    if (← get).atMark then refuse
    discard <| takeWhile fun c => c == ' ' || c == '\t'
    if isBreak (← peek) then
      let found ← lineBreak
      return found ++ (← quotedBreaks fuel)
    return []

/-- Blanks or line ends inside a quoted scalar: one line end becomes a space. -/
def quotedSpaces : Step (List Char) := do
  let spaces ← takeWhile fun c => c == ' ' || c == '\t'
  let c ← peek
  if c == endMark then refuse
  if !isBreak c then return spaces
  let first ← lineBreak
  let breaks ← quotedBreaks ((← get).rest.length + 1)
  if first != ['\n'] then return first ++ breaks
  return if breaks.isEmpty then [' '] else breaks

/-- The character of an escape in a double-quoted scalar. -/
def escape? : Char → Option Char
  | '0' => some '\x00'
  | 'a' => some '\x07'
  | 'b' => some '\x08'
  | 't' | '\t' => some '\t'
  | 'n' => some '\n'
  | 'v' => some '\x0b'
  | 'f' => some '\x0c'
  | 'r' => some '\r'
  | 'e' => some '\x1b'
  | ' ' => some ' '
  | '\x22' => some '\x22'
  | '\\' => some '\\'
  | '/' => some '/'
  | 'N' => some '\x85'
  | '_' => some '\xa0'
  | 'L' => some '\u2028'
  | 'P' => some '\u2029'
  | _ => none

/-- The number of digits of an escape by code point. -/
def escapeDigits? : Char → Option Nat
  | 'x' => some 2
  | 'u' => some 4
  | 'U' => some 8
  | _ => none

/-- An escape in a double-quoted scalar after its backslash. -/
def escaped : Step (List Letter) := do
  let c ← peek
  match escape? c, escapeDigits? c with
  | some x, _ =>
    skip 1
    return [.char x]
  | none, some digits =>
    skip 1
    let found := (← get).rest.take digits
    if found.length ≠ digits || !found.all fun d => (Json.hexDigit? d).isSome then refuse
    let code := found.foldl (fun n d => n * 16 + (Json.hexDigit? d).getD 0) 0
    if 0x7FFFFFFF < code then throw .tooLarge
    if 0x10FFFF < code then throw .badNumeral
    skip digits
    return [.ofCode code]
  | none, none =>
    if !isBreak c then refuse
    discard lineBreak
    return (← quotedBreaks ((← get).rest.length + 1)).map .char

/-- The content of a quoted scalar up to its closing quote. -/
def quotedText (double : Bool) : Nat → Step (List Letter)
  | 0 => refuse
  | fuel + 1 => do
    let text ← takeWhile fun c => !(c == '\x27' || c == '\x22' || c == '\\' || isGap c)
    let text := text.map Letter.char
    let s ← get
    let c := s.at 0
    if !double && c == '\x27' && s.at 1 == '\x27' then
      skip 2
      return text ++ .char '\x27' :: (← quotedText double fuel)
    else if c == (if double then '\x22' else '\x27') then
      skip 1
      return text
    else if double && c == '\\' then
      skip 1
      let found ← escaped
      return text ++ found ++ (← quotedText double fuel)
    else if c == '\x27' || c == '\x22' || c == '\\' then
      skip 1
      return text ++ .char c :: (← quotedText double fuel)
    else
      let spaces ← quotedSpaces
      return text ++ spaces.map .char ++ (← quotedText double fuel)

/-- A quoted scalar. -/
def quotedScalar (double : Bool) : Step (List Letter) := do
  skip 1
  quotedText double (2 * (← get).rest.length + 2)

/-- Blanks and line ends inside a plain scalar after its first line end; none at a document mark. -/
def plainBreaks : Nat → Step (Option (List Char))
  | 0 => return some []
  | fuel + 1 => do
    let c ← peek
    if c == ' ' then
      skip 1
      plainBreaks fuel
    else if isBreak c then
      let found ← lineBreak
      if (← get).atMark then return none
      let more ← plainBreaks fuel
      return more.map (found ++ ·)
    else return some []

/-- Blanks and line ends inside a plain scalar. -/
def plainSpaces : Step (List Char) := do
  let spaces ← takeWhile (· == ' ')
  if !isBreak (← peek) then return spaces
  let first ← lineBreak
  allowKey true
  if (← get).atMark then return []
  match ← plainBreaks ((← get).rest.length + 1) with
  | none => return []
  | some breaks =>
    if first != ['\n'] then return first ++ breaks
    return if breaks.isEmpty then [' '] else breaks

/-- A character that plain scalars in flow collections do not hold. -/
def isFlowMark (c : Char) : Bool :=
  c == ',' || c == '[' || c == ']' || c == '\x7b' || c == '\x7d'

/-- The characters of a plain scalar up to a blank, a colon before one, or a mark. -/
def plainRun (flow : Bool) : List Char → List Char
  | [] => []
  | c :: rest =>
    let next := rest.headD endMark
    if isGap c || (c == ':' && (isGap next || (flow && isFlowMark next))) ||
        (flow && (isFlowMark c || c == '?')) then []
    else c :: plainRun flow rest

/-- A plain scalar after the blanks that stand before its next part. -/
def plainText (indent : Int) : Nat → List Char → Step (List Char)
  | 0, _ => return []
  | fuel + 1, spaces => do
    let s ← get
    if s.at 0 == '#' then return []
    let run := plainRun (s.flow != 0) s.rest
    if run.isEmpty then return []
    allowKey false
    skip run.length
    let more ← plainSpaces
    let t ← get
    if more.isEmpty || t.at 0 == '#' || (t.flow == 0 && (t.column : Int) < indent) then
      return spaces ++ run
    return spaces ++ run ++ (← plainText indent fuel more)

/-- A plain scalar. -/
def plainScalar : Step (List Char) := do
  let s ← get
  plainText (s.indent + 1) (s.rest.length + 1) []

/-! ## Names of nodes -/

/-- A character of the name of a node. -/
def isNameMark (c : Char) : Bool :=
  c.isAlphanum || c == '-' || c == '_'

/-- A character that ends the name of a node. -/
def endsName (c : Char) : Bool :=
  isGap c || "?:,]\x7d%@\x60".toList.contains c

/-- The name of a node after its mark. -/
def nodeName : Step (List Char) := do
  skip 1
  let name ← takeWhile isNameMark
  if name.isEmpty || !endsName (← peek) then refuse
  return name

/-! ## Tokens -/

/-- Goes on to the next token: blanks, comments and line ends are left out, and a byte order mark at
the start of the text. -/
def toNextToken : Nat → Step Unit
  | 0 => return ()
  | fuel + 1 => do
    let s ← get
    if s.index == 0 && s.at 0 == '\uFEFF' then skip 1
    discard <| takeWhile (· == ' ')
    if (← peek) == '#' then discard <| takeWhile (!isLineEnd ·)
    let found ← lineBreak
    if !found.isEmpty then
      if (← get).flow == 0 then allowKey true
      toNextToken fuel

/-- A collection in brackets or braces starts. -/
def flowStart (t : Token) : Step Unit := do
  saveKey
  modify fun s => { s with flow := s.flow + 1 }
  allowKey true
  skip 1
  emit t

/-- A collection in brackets or braces ends. -/
def flowEnd (t : Token) : Step Unit := do
  dropKey
  modify fun s => { s with flow := s.flow - 1 }
  allowKey false
  skip 1
  emit t

/-- The comma of a collection in brackets or braces. -/
def flowComma : Step Unit := do
  allowKey true
  dropKey
  skip 1
  emit .flowEntry

/-- A mark that may start a block collection: the dash of an entry or the mark of a key. -/
def blockMark (start mark : Token) (keyAfter : Bool) : Step Unit := do
  let s ← get
  if s.flow == 0 then
    if !s.keyAllowed then refuse
    if ← addIndent s.column then emit start
  allowKey keyAfter
  dropKey
  skip 1
  emit mark

/-- The colon before a value: a possible key in front of it is one. -/
def valueMark : Step Unit := do
  let s ← get
  match s.keys.lookup s.flow with
  | some k =>
    modify fun s => { s with keys := s.keys.filter (·.1 != s.flow) }
    emitAt k.place .key
    if s.flow == 0 then
      if ← addIndent k.column then emitAt k.place .blockMappingStart
    allowKey false
  | none =>
    if s.flow == 0 then
      if !s.keyAllowed then refuse
      if ← addIndent s.column then emit .blockMappingStart
    allowKey (s.flow == 0)
    dropKey
  skip 1
  emit .value

/-- A document mark. -/
def documentMark (t : Token) : Step Unit := do
  unwind (-1)
  dropKey
  allowKey false
  skip 3
  emit t

/-- A plain scalar may start with a character before another. -/
def startsPlain (flow : Bool) (c next : Char) : Bool :=
  !(isGap c || isFlowMark c || "-?:#&*!|>'\"%@\x60".toList.contains c) ||
    (!isGap next && (c == '-' || (!flow && (c == '?' || c == ':'))))

/-- A token that a key may start with, from the text that it holds. -/
def keyToken {α : Type} (token : α → Token) (read : Step α) : Step Unit := do
  saveKey
  allowKey false
  let text ← read
  emit (token text)

/-- The next token after blanks; false at the end of the text. -/
def nextToken : Step Bool := do
  toNextToken ((← get).rest.length + 1)
  dropStaleKeys
  unwind (← get).column
  let s ← get
  let c := s.at 0
  let next := s.at 1
  let inFlow := s.flow != 0
  if c == endMark then
    unwind (-1)
    dropKey
    return false
  if s.column == 0 && s.atMark then
    documentMark (if c == '-' then .documentStart else .documentEnd)
  else if c == '[' then flowStart .flowSequenceStart
  else if c == '\x7b' then flowStart .flowMappingStart
  else if c == ']' then flowEnd .flowSequenceEnd
  else if c == '\x7d' then flowEnd .flowMappingEnd
  else if c == ',' then flowComma
  else if c == '-' && isGap next then blockMark .blockSequenceStart .blockEntry true
  else if c == '?' && (inFlow || isGap next) then blockMark .blockMappingStart .key (!inFlow)
  else if c == ':' && (inFlow || isGap next) then valueMark
  else if c == '*' then keyToken .reference nodeName
  else if c == '&' then keyToken .anchor nodeName
  else if (c == '|' || c == '>') && !inFlow then
    allowKey true
    dropKey
    let text ← blockScalar (c == '>')
    emit (.quoted (text.map .char))
  else if c == '\x27' || c == '\x22' then
    keyToken .quoted (quotedScalar (c == '\x22'))
  else if startsPlain inFlow c next then keyToken .plain plainScalar
  else refuse
  return true

/-- The tokens that no later one can still come in front of: those before all possible keys. -/
def Progress.settled (s : Progress) : List Token :=
  let places := (s.keys.filter fun entry => !s.isStale entry.2).map (·.2.place)
  s.tokens.toList.take (places.foldl min s.tokens.size)

/-- The tokens so far and all further ones. -/
def allTokens : Nat → Progress → List Token
  | 0, s => s.settled ++ [.broken .malformed]
  | fuel + 1, s =>
    match nextToken.run s with
    | .ok (true, s) => allTokens fuel s
    | .ok (false, s) => s.tokens.toList
    | .error fault => s.settled ++ [.broken fault]

/-- **The tokens of a text.** Every token but the last takes at least one character. A text that is
refused still has the tokens that are settled before that, so that a fault in their order comes
first. -/
def tokens (content : List Char) : List Token :=
  if content.all isAllowed then allTokens (content.length + 2) { rest := content }
  else [.broken .malformed]

end ReducerAtlas.Yaml
