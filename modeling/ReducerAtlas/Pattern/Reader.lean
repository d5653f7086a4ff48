import ReducerAtlas.Pattern.Syntax
import ReducerAtlas.Json.Reader
import ReducerAtlas.Text.Identifier
import ReducerAtlas.Text.Split

/-!
# Reading patterns

The text of a regular expression. A brace that starts no valid repeat stands for itself, a letter
after a backslash has to mean something, and flags for the whole pattern stand at its start. A
pattern may also be one of bytes, which has no escapes for the characters beyond them.

* `Pattern.Fault`: why a text is refused; `CharacterNames`: the names of characters.
* `Pattern.read`: the pattern of a text; `Pattern.readBytes`: a pattern of bytes.
-/

namespace ReducerAtlas

/-- The characters that have a name. The table comes from outside. -/
abbrev CharacterNames := List Char → Option Char

namespace Pattern

open ReducerAtlas.Text

/-- Why a text is refused. -/
inductive Fault
  /-- The text is no regular expression. -/
  | malformed
  /-- Two flags for the whole pattern exclude each other. -/
  | flagClash
  /-- A repeat count or a code point is too large. -/
  | tooLarge
  /-- A repeat count has too many digits. -/
  | longNumeral
  deriving DecidableEq, Repr

/-- The bound on repeat counts. -/
def maxRepeat : Nat := 4294967295

/-- The greatest number that is refused as a code point; beyond it a number is too large. -/
def maxCode : Nat := 2147483647

/-! ## Symbols -/

/-- A character of the text, or a character after a backslash. -/
inductive Symbol
  | plain (c : Char)
  | escaped (c : Char)
  /-- A backslash at the end of the text, which is refused when it comes next. -/
  | dangling
  deriving DecidableEq, Repr

/-- The symbols of a text. -/
def symbols : List Char → List Symbol
  | [] => []
  | ['\\'] => [.dangling]
  | '\\' :: c :: rest => .escaped c :: symbols rest
  | c :: rest => .plain c :: symbols rest

/-- The character of a plain symbol of a class. -/
def Symbol.plain? (p : Char → Bool) : Symbol → Option Char
  | .plain c => if p c then some c else none
  | .escaped _ | .dangling => none

/-- The text of a symbol. -/
def Symbol.text : Symbol → List Char
  | .plain c => [c]
  | .escaped c => ['\\', c]
  | .dangling => ['\\']

/-- At most `n` plain characters of a class, and the rest. -/
def takeUpTo (p : Char → Bool) : Nat → List Symbol → List Char × List Symbol
  | 0, rest => ([], rest)
  | _ + 1, [] => ([], [])
  | n + 1, s :: rest =>
    match s.plain? p with
    | some c =>
      let (cs, rest) := takeUpTo p n rest
      (c :: cs, rest)
    | none => ([], s :: rest)

/-- The text up to a terminator, and the rest after it. -/
def takeUntil? (terminator : Char) : List Symbol → Option (List Char × List Symbol)
  | [] => none
  | s :: rest =>
    if s = .plain terminator then some ([], rest)
    else (takeUntil? terminator rest).map fun (cs, rest) => (s.text ++ cs, rest)

/-! ## State -/

/-- The flags that change what an expression means. -/
structure Flags where
  foldCase : Bool := false
  lines : Bool := false
  dotAll : Bool := false
  spaced : Bool := false
  ascii : Bool := false
  deriving DecidableEq, Repr

/-- How the flags tell upper and lower case apart. -/
def Flags.folding (flags : Flags) : Folding :=
  if !flags.foldCase then .exact else if flags.ascii then .ascii else .full

/-- What is left to read, and what is known of the groups so far. -/
structure Progress where
  rest : List Symbol
  /-- The widths of the groups from the first on; an open group has none. -/
  groups : List (Option Width) := []
  names : List (List Char × Nat) := []
  /-- Inside a look-behind, the number of groups before it. -/
  behind : Option Nat := none
  /-- The greatest group number that a condition asks for. -/
  asked : Nat := 0
  /-- A look-behind matches texts of different lengths. -/
  uneven : Bool := false
  /-- The flags given for the whole pattern. -/
  flags : Flags := {}
  /-- The letters of these flags. -/
  letters : List Char := []
  /-- The names of characters. -/
  characters : CharacterNames := fun _ => none
  /-- The pattern is one of bytes. -/
  bytes : Bool := false

/-- Reading with the progress as state. -/
abbrev Read := StateT Progress (Except Fault)

/-- The text is refused. -/
def refuse {α : Type} : Read α := throw .malformed

/-- The next symbol, left in place. -/
def peek : Read (Option Symbol) := return (← get).rest.head?

/-- Goes on to what is left of the text. -/
def moveTo (rest : List Symbol) : Read Unit := do
  if rest.head? = some .dangling then refuse
  modify fun s => { s with rest := rest }

/-- The next symbol, taken. -/
def take : Read (Option Symbol) := do
  match (← get).rest with
  | [] => return none
  | x :: rest =>
    moveTo rest
    return some x

/-- The next symbol, which has to be there. -/
def need : Read Symbol := do
  match ← take with
  | some s => return s
  | none => refuse

/-- Takes a plain character if it is next. -/
def accept (c : Char) : Read Bool := do
  if (← peek) = some (.plain c) then
    discard take
    return true
  return false

/-- Takes a plain character, which has to be next. -/
def expect (c : Char) : Read Unit := do
  if !(← accept c) then refuse

/-- Takes at most `n` plain characters of a class. -/
def takeChars (p : Char → Bool) (n : Nat) : Read (List Char) := do
  let (cs, rest) := takeUpTo p n (← get).rest
  moveTo rest
  return cs

/-- Takes all plain characters of a class. -/
def takeAll (p : Char → Bool) : Read (List Char) := do
  takeChars p (← get).rest.length

/-- Takes a non-empty text up to a terminator. -/
def takeName (terminator : Char) : Read (List Char) := do
  match takeUntil? terminator (← get).rest with
  | none => refuse
  | some (cs, rest) =>
    if cs.isEmpty then refuse
    moveTo rest
    return cs

/-- The group of a number is closed. -/
def isClosed (groups : List (Option Width)) (index : Nat) : Bool :=
  index != 0 && (groups[index - 1]?).join.isSome

/-- A group that a look-behind refers to is closed and lies outside it. -/
def checkBehind (index : Nat) : Read Unit := do
  let s ← get
  match s.behind with
  | none => return ()
  | some outer => if !isClosed s.groups index || outer < index then refuse

/-- The width of a group that is closed. -/
def widthOf (groups : List (Option Width)) (index : Nat) : Width :=
  ((groups[index - 1]?).join).getD (0, some 0)

/-! ## Escapes -/

/-- An octal digit. -/
def isOctal (c : Char) : Bool := '0' ≤ c && c ≤ '7'

/-- A hexadecimal digit. -/
def isHex (c : Char) : Bool := (Json.hexDigit? c).isSome

/-- The number that digits write in a base. -/
def numberIn (base : Nat) (cs : List Char) : Nat :=
  cs.foldl (fun n c => n * base + (Json.hexDigit? c).getD 0) 0

/-- The character of an escape that stands for one, in and outside of classes. -/
def controlEscape? : Char → Option Nat
  | 'a' => some 7
  | 'b' => some 8
  | 'f' => some 12
  | 'n' => some 10
  | 'r' => some 13
  | 't' => some 9
  | 'v' => some 11
  | '\\' => some 92
  | _ => none

/-- The named class of an escape. -/
def classEscape? : Char → Option ClassItem
  | 'd' => some (.named .digit false)
  | 'D' => some (.named .digit true)
  | 's' => some (.named .space false)
  | 'S' => some (.named .space true)
  | 'w' => some (.named .word false)
  | 'W' => some (.named .word true)
  | _ => none

/-- The place of an escape. -/
def placeEscape? (flags : Flags) : Char → Option Place
  | 'A' => some .textStart
  | 'Z' => some .textEnd
  | 'b' => some (.wordEdge flags.ascii)
  | 'B' => some (.noWordEdge flags.ascii)
  | _ => none

/-- The code point of an escape with a fixed number of hexadecimal digits. -/
def hexEscape (digits : Nat) : Read Nat := do
  let cs ← takeChars isHex digits
  if cs.length ≠ digits then refuse
  let n := numberIn 16 cs
  if maxCode < n then throw .tooLarge
  if 0x10FFFF < n then refuse
  return n

/-- The code point of a character by its name in braces. -/
def nameEscape : Read Nat := do
  expect '\x7b'
  let name ← takeName '\x7d'
  match (← get).characters name with
  | some c => return c.toNat
  | none => refuse

/-- The code point of an escape by digits or by a name, if it is one. Bytes have digits only. -/
def codeEscape? (c : Char) : Read (Option Nat) := do
  match c, (← get).bytes with
  | 'x', _ => return some (← hexEscape 2)
  | 'u', false => return some (← hexEscape 4)
  | 'U', false => return some (← hexEscape 8)
  | 'N', false => return some (← nameEscape)
  | _, _ => return none

/-- An octal escape of at most three digits, the first of them given. -/
def octalEscape (c : Char) : Read Nat := do
  let cs ← takeChars isOctal 2
  let n := numberIn 8 (c :: cs)
  if 0o377 < n then refuse
  return n

/-- An item of a class after a backslash. -/
def classItem (c : Char) : Read ClassItem := do
  match controlEscape? c, classEscape? c with
  | some n, _ => return .code n
  | none, some item => return item
  | none, none =>
    match ← codeEscape? c with
    | some n => return .code n
    | none =>
      if isOctal c then return .code (← octalEscape c)
      if c.isAlphanum then refuse
      return .code c.toNat

/-! ## Classes -/

/-- An item of a class from its first symbol. -/
def classItemOf : Symbol → Read ClassItem
  | .plain c => return .code c.toNat
  | .escaped c => classItem c
  | .dangling => refuse

/-- The items of a class up to its closing bracket, which is an ordinary character at the start. -/
def classItems : Nat → Bool → Read (List ClassItem)
  | 0, _ => refuse
  | fuel + 1, start => do
    let s ← need
    if s = .plain ']' && !start then return []
    let item ← classItemOf s
    if ← accept '-' then
      let t ← need
      if t = .plain ']' then return [item, .code 45]
      match item, ← classItemOf t with
      | .code low, .code high =>
        if high < low then refuse
        return .range low high :: (← classItems fuel false)
      | _, _ => refuse
    else return item :: (← classItems fuel false)

/-- A class with the folding and the alphabet of the flags; items are named once. -/
def classOf (flags : Flags) (items : List ClassItem) (negated : Bool) : Pattern :=
  .char ⟨items.eraseDups, negated, flags.folding, flags.ascii⟩

/-- A bracketed class after its opening bracket. -/
def bracketClass (flags : Flags) : Read Pattern := do
  let negated ← accept '^'
  let items ← classItems ((← get).rest.length + 1) true
  return classOf flags items negated

/-! ## Parts -/

/-- A part of a sequence, as far as repeats and alternatives tell parts apart. -/
inductive Term
  /-- A place between characters. -/
  | place (p : Pattern)
  | repeated (p : Pattern)
  /-- A class, any character, or a back-reference. -/
  | leaf (p : Pattern)
  /-- A group or alternatives. -/
  | compound (p : Pattern)
  deriving DecidableEq, Repr

/-- The expression of a part. -/
def Term.pattern : Term → Pattern
  | .place p | .repeated p | .leaf p | .compound p => p

/-- The parts one after the other. -/
def sequence : List Term → Pattern
  | [] => .empty
  | [t] => t.pattern
  | t :: ts => .seq t.pattern (sequence ts)

/-- What a repeat applies to: one part, or a group in plain brackets. The parts of such a group join
the sequence around it, unless it is repeated. -/
inductive Item
  | term (t : Term)
  | plain (ts : List Term)
  deriving DecidableEq, Repr

/-- The parts of an item. -/
def Item.terms : Item → List Term
  | .term t => [t]
  | .plain ts => ts

/-- The parts of some items, which are given with the last one first. -/
def termsOf (items : List Item) : List Term :=
  items.reverse.flatMap Item.terms

/-! ## Alternatives -/

/-- The parts that all alternatives start with, and what is left of each. Only places, classes and
back-references are shared. -/
def splitShared : List Term → List (List Term) → List Term × List (List Term)
  | [], others => ([], [] :: others)
  | t :: ts, others =>
    let simple := match t with
      | .place _ | .leaf _ => true
      | .repeated _ | .compound _ => false
    if simple && others.all (·.head? = some t) then
      let (shared, rests) := splitShared ts (others.map (·.drop 1))
      (t :: shared, rests)
    else ([], (t :: ts) :: others)

/-- The class of a sequence that is one class and not a negated one. -/
def soleClass? : List Term → Option CharClass
  | [.leaf (.char cls)] => if cls.negated then none else some cls
  | _ => none

/-- Either of some sequences. -/
def either : List (List Term) → Pattern
  | [] => .empty
  | [ts] => sequence ts
  | ts :: others => .alt (sequence ts) (either others)

/-- **The parts of alternatives.** What they all start with is taken out of them, and alternatives
that are all classes are one class. -/
def choice (flags : Flags) : List (List Term) → List Term
  | [] => []
  | [ts] => ts
  | ts :: others =>
    let (shared, rests) := splitShared ts others
    match rests.mapM soleClass? with
    | some classes => shared ++ [.leaf (classOf flags (classes.flatMap (·.items)) false)]
    | none => shared ++ [.compound (either rests)]

/-! ## Escapes outside of classes -/

/-- A back-reference by a number that follows a backslash, or an octal escape of three digits. -/
def numberEscape (flags : Flags) (c : Char) : Read Pattern := do
  let next ← takeChars Char.isDigit 1
  match next with
  | [d] =>
    if isOctal c && isOctal d then
      let third ← takeChars isOctal 1
      match third with
      | [e] =>
        let n := numberIn 8 [c, d, e]
        if 0o377 < n then refuse
        return classOf flags [.code n] false
      | _ => reference (numberIn 10 [c, d])
    else reference (numberIn 10 [c, d])
  | _ => reference (numberIn 10 [c])
where
  reference (index : Nat) : Read Pattern := do
    if !isClosed (← get).groups index then refuse
    checkBehind index
    return .backref index flags.folding

/-- A part after a backslash. -/
def escapeTerm (flags : Flags) (c : Char) : Read Term := do
  match placeEscape? flags c, classEscape? c, controlEscape? c with
  | some spot, _, _ => return .place (.place spot)
  | none, some item, _ => return .leaf (classOf flags [item] false)
  | none, none, some n => return .leaf (classOf flags [.code n] false)
  | none, none, none =>
    match ← codeEscape? c with
    | some n => return .leaf (classOf flags [.code n] false)
    | none =>
      if c = '0' then
        let cs ← takeChars isOctal 2
        return .leaf (classOf flags [.code (numberIn 8 cs)] false)
      if c.isDigit then return .leaf (← numberEscape flags c)
      if c.isAlpha then refuse
      return .leaf (classOf flags [.code c.toNat] false)

/-! ## Repeats -/

/-- The number of a repeat count. -/
def countOf (digits : List Char) : Read Nat := do
  if maxIntDigits < digits.length then throw .longNumeral
  let n := numberIn 10 digits
  if maxRepeat ≤ n then throw .tooLarge
  return n

/-- The counts of a repeat after its first character; a brace that starts no valid one gives none
and takes nothing. -/
def counts? (c : Char) : Read (Option (Nat × Option Nat)) := do
  match c with
  | '?' => return some (0, some 1)
  | '*' => return some (0, none)
  | '+' => return some (1, none)
  | _ =>
    let start ← get
    if start.rest.head? = some (.plain '\x7d') then return none
    let low ← takeAll Char.isDigit
    let comma ← accept ','
    let high ← if comma then takeAll Char.isDigit else pure low
    if !(← accept '\x7d') then
      set start
      return none
    let least ← countOf low
    if high.isEmpty then return some (least, none)
    let most ← countOf high
    if most < least then refuse
    return some (least, some most)

/-- The mark after a repeat. -/
def greed : Read Greed := do
  if ← accept '?' then return .lazy
  if ← accept '+' then return .possessive
  return .greedy

/-- The items with the last one repeated. Places and repeats are not repeated. -/
def repeatLast (least : Nat) (most : Option Nat) : List Item → Read (List Item)
  | .term (.leaf p) :: items | .term (.compound p) :: items =>
    return .term (.repeated (.loop (← greed) least most p)) :: items
  | .plain ts :: items =>
    return .term (.repeated (.loop (← greed) least most (sequence ts))) :: items
  | _ => refuse

/-! ## Groups -/

/-- A letter that stands for a flag. -/
def isFlag (c : Char) : Bool :=
  ['i', 'L', 'm', 's', 'x', 'a', 't', 'u'].contains c

/-- The flags with one of them switched on or off. -/
def Flags.switch (flags : Flags) (on : Bool) : Char → Flags
  | 'i' => { flags with foldCase := on }
  | 'm' => { flags with lines := on }
  | 's' => { flags with dotAll := on }
  | 'x' => { flags with spaced := on }
  | 'a' => { flags with ascii := on }
  | 'u' => { flags with ascii := !on }
  | _ => flags

/-- A flag for the alphabet of a pattern. -/
def isTypeFlag (c : Char) : Bool :=
  c == 'a' || c == 'L' || c == 'u'

/-- The flags ask for more than one alphabet. -/
def clash (letters : List Char) : Bool :=
  1 < (letters.filter isTypeFlag).eraseDups.length

/-- The letters of flags from the first on, and the character that ends them. A text has no flag for
locales, and bytes have none for all characters. -/
def flagLetters : Nat → Char → Read (List Char × Char)
  | 0, _ => refuse
  | fuel + 1, c => do
    if !isFlag c || c = (if (← get).bytes then 'u' else 'L') then refuse
    match ← need with
    | .escaped _ | .dangling => refuse
    | .plain d =>
      if d = ')' || d = '-' || d = ':' then return ([c], d)
      let (rest, stop) ← flagLetters fuel d
      return (c :: rest, stop)

/-- What a group of flags says: flags for the whole pattern, or for a group. -/
inductive FlagGroup
  | whole (on : List Char)
  | inside (on off : List Char)

/-- A group of flags from its first character on. -/
def flagGroup (c : Char) : Read FlagGroup := do
  let fuel := (← get).rest.length + 1
  let (on, stop) ← if c = '-' then pure ([], '-') else flagLetters fuel c
  if clash on then refuse
  if stop = ')' then return .whole on
  if on.contains 't' then refuse
  if stop = ':' then return .inside on []
  match ← need with
  | .escaped _ | .dangling => refuse
  | .plain d =>
    let (off, stop) ← flagLetters fuel d
    if stop ≠ ':' then refuse
    if off.any fun f => isTypeFlag f || f = 't' || on.contains f then refuse
    return .inside on off

/-- What follows the opening bracket of a group. -/
inductive Opening
  | comment
  | reference (p : Pattern)
  | capture (name : Option (List Char))
  | plain
  /-- A group with flags of its own. -/
  | flagged (flags : Flags)
  | atomic
  | look (behind negated : Bool)
  | condition (index : Nat)
  | whole (on : List Char)

/-- The number of a group in digits of any script. Blanks around it, a plus sign and single
underscores between its digits are allowed. -/
def groupNumber? (text : List Char) : Option Nat := do
  let body := match trim text with
    | '+' :: cs => cs
    | cs => cs
  let parts := splitBy (· == '_') body
  if parts.any List.isEmpty || maxIntDigits < parts.flatten.length then none
  parts.flatten.foldlM (fun n c => (digitValue? c).map (n * 10 + ·)) 0

/-- A condition on a group, by its name or number. -/
def conditionGroup : Read Nat := do
  let name ← takeName ')'
  let s ← get
  if isIdentifier name then
    match s.names.lookup name with
    | some index => return index
    | none => refuse
  else
    match groupNumber? name with
    | none | some 0 => refuse
    | some index =>
      set { s with asked := max s.asked index }
      return index

/-- A group that has a letter after its question mark. -/
def namedOpening (flags : Flags) : Read Opening := do
  if ← accept '<' then
    let name ← takeName '>'
    if isIdentifier name then return .capture (some name) else refuse
  else if ← accept '=' then
    let name ← takeName ')'
    let s ← get
    match s.names.lookup name with
    | none => refuse
    | some index =>
      if !isClosed s.groups index then refuse
      checkBehind index
      return .reference (.backref index flags.folding)
  else refuse

/-- What follows the opening bracket of a group. -/
def opening (flags : Flags) : Read Opening := do
  if !(← accept '?') then return .capture none
  match ← need with
  | .escaped _ | .dangling => refuse
  | .plain c =>
    match c with
    | 'P' => namedOpening flags
    | ':' => return .plain
    | '#' =>
      match takeUntil? ')' (← get).rest with
      | none => refuse
      | some (_, rest) =>
        moveTo rest
        return .comment
    | '=' => return .look false false
    | '!' => return .look false true
    | '<' =>
      match ← need with
      | .plain '=' => return .look true false
      | .plain '!' => return .look true true
      | _ => refuse
    | '(' => return .condition (← conditionGroup)
    | '>' => return .atomic
    | _ =>
      if !(isFlag c || c = '-') then refuse
      match ← flagGroup c with
      | .whole on => return .whole on
      | .inside on off =>
        let flags := on.foldl (·.switch true ·) flags
        return .flagged (off.foldl (·.switch false ·) flags)

/-- Opens a capturing group and gives its number; a name is used once. -/
def openGroup (name : Option (List Char)) : Read Nat := do
  let s ← get
  let index := s.groups.length + 1
  match name with
  | none => set { s with groups := s.groups ++ [none] }
  | some name =>
    if (s.names.lookup name).isSome then refuse
    set { s with groups := s.groups ++ [none], names := (name, index) :: s.names }
  return index

/-- Closes a capturing group. -/
def closeGroup (index : Nat) (p : Pattern) : Read Unit :=
  modify fun s => { s with groups := s.groups.set (index - 1) (some (p.width (widthOf s.groups))) }

/-- A look-around of an expression. A look-behind has to match texts of one length. -/
def lookAround (back negated : Bool) (p : Pattern) : Read Pattern := do
  if !back then return .ahead negated p
  let s ← get
  match p.width (widthOf s.groups) with
  | (low, high) =>
    if high ≠ some low || maxRepeat < low then set { s with uneven := true }
    return .behind negated low p

/-! ## Expressions -/

/-- The blanks that a spaced pattern leaves out. -/
def isSpacing (c : Char) : Bool :=
  c == ' ' || (9 ≤ c.toNat && c.toNat ≤ 13)

/-- Drops a remark of a spaced pattern, up to the end of its line. -/
def dropRemark : List Symbol → List Symbol
  | [] => []
  | .dangling :: rest => .dangling :: rest
  | s :: rest => if s = .plain '\n' then rest else dropRemark rest

/-- A character that stands for itself. -/
def literal (flags : Flags) (c : Char) : Pattern :=
  classOf flags [.code c.toNat] false

/-- The place of a plain character that stands for one. -/
def placeChar? (flags : Flags) : Char → Option Place
  | '^' => some (if flags.lines then .lineStart else .textStart)
  | '$' => some (if flags.lines then .lineEnd else .beforeFinalNewline)
  | _ => none

mutual

/-- Alternatives, up to a closing bracket or the end. -/
def readAlternatives : Nat → Bool → Bool → Flags → Read (List (List Term))
  | 0, _, _, _ => refuse
  | fuel + 1, top, first, flags => do
    let ts ← readTerms fuel top first flags []
    if ← accept '|' then
      let s ← get
      let flags := if top then s.flags else flags
      return ts :: (← readAlternatives fuel top false flags)
    return [ts]

/-- The parts of a sequence, after items already read, the last one first. -/
def readTerms : Nat → Bool → Bool → Flags → List Item → Read (List Term)
  | 0, _, _, _, _ => refuse
  | fuel + 1, top, first, flags, done => do
    match ← peek with
    | none => return termsOf done
    | some .dangling => refuse
    | some (.escaped c) =>
      discard take
      readTerms fuel top first flags (.term (← escapeTerm flags c) :: done)
    | some (.plain c) =>
      if c = '|' || c = ')' then return termsOf done
      discard take
      if flags.spaced && isSpacing c then readTerms fuel top first flags done
      else if flags.spaced && c = '#' then
        moveTo (dropRemark (← get).rest)
        readTerms fuel top first flags done
      else if c = '[' then
        readTerms fuel top first flags (.term (.leaf (← bracketClass flags)) :: done)
      else if c = '.' then
        readTerms fuel top first flags (.term (.leaf (.any flags.dotAll)) :: done)
      else if c = '*' || c = '+' || c = '?' || c = '\x7b' then
        match ← counts? c with
        | none => readTerms fuel top first flags (.term (.leaf (literal flags c)) :: done)
        | some (least, most) => readTerms fuel top first flags (← repeatLast least most done)
      else if c = '(' then
        match ← opening flags with
        | .whole on =>
          if !(top && first && done.isEmpty) then refuse
          let flags := on.foldl (·.switch true ·) flags
          modify fun s => { s with flags := flags, letters := s.letters ++ on }
          readTerms fuel top first flags done
        | .comment => readTerms fuel top first flags done
        | .reference p => readTerms fuel top first flags (.term (.leaf p) :: done)
        | other => readTerms fuel top first flags ((← readGroup fuel flags other) :: done)
      else
        match placeChar? flags c with
        | some spot => readTerms fuel top first flags (.term (.place (.place spot)) :: done)
        | none => readTerms fuel top first flags (.term (.leaf (literal flags c)) :: done)

/-- A group after its opening, up to its closing bracket. -/
def readGroup : Nat → Flags → Opening → Read Item
  | 0, _, _ => refuse
  | fuel + 1, flags, opening => do
    match opening with
    | .capture name =>
      let index ← openGroup name
      let p := sequence (choice flags (← readAlternatives fuel false false flags))
      expect ')'
      closeGroup index p
      return .term (.compound (.group index p))
    | .plain =>
      let ts := choice flags (← readAlternatives fuel false false flags)
      expect ')'
      return .plain ts
    | .flagged inner =>
      let p := sequence (choice inner (← readAlternatives fuel false false inner))
      expect ')'
      return .term (.compound p)
    | .atomic =>
      let p := sequence (choice flags (← readAlternatives fuel false false flags))
      expect ')'
      return .term (.compound (.atomic p))
    | .look back negated =>
      let outer := (← get).behind
      if back && outer.isNone then modify fun s => { s with behind := some s.groups.length }
      let p := sequence (choice flags (← readAlternatives fuel false false flags))
      modify fun s => { s with behind := outer }
      expect ')'
      return .term (.compound (← lookAround back negated p))
    | .condition index =>
      checkBehind index
      let yes ← readTerms fuel false false flags []
      let no ← if ← accept '|' then readTerms fuel false false flags [] else pure []
      expect ')'
      return .term (.compound (.ifGroup index (sequence yes) (sequence no)))
    | .comment | .reference _ | .whole _ => refuse

end

/-- The alternatives of a whole text. -/
def wholeText (rest : List Symbol) : Read (List (List Term)) := do
  moveTo rest
  readAlternatives (4 * rest.length + 4) true true {}

/-- The pattern of some characters, from what is known of it at its start. A pattern that is meant
as a template has no repeats. -/
def readFrom (start : Progress) (text : List Char) : Except Fault Pattern := do
  let (alternatives, s) ← (wholeText (symbols text)).run start
  if clash s.letters then .error .flagClash
  if !s.rest.isEmpty || s.groups.length < s.asked || s.uneven then .error .malformed
  let pattern := sequence (choice s.flags alternatives)
  if s.letters.contains 't' && pattern.repeats then .error .malformed
  return pattern

/-- **The pattern of a text.** -/
def read (characters : CharacterNames) (text : String) : Except Fault Pattern :=
  readFrom { rest := [], characters := characters } text.toList

/-- The pattern of some bytes. -/
def readBytes (content : List UInt8) : Except Fault Pattern :=
  readFrom { rest := [], bytes := true } (content.map fun b => Char.ofNat b.toNat)

end Pattern

end ReducerAtlas
