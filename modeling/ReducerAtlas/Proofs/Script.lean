import ReducerAtlas.Source.Token

/-!
# Well-formed scripts

A script is a list of imports, re-exports, require calls, constants, comments and literals, each
with the blanks that its author put between the lexemes, and with anything between two of them that
starts no lexeme of its own. It has a text, and it says which tokens that text is to give.

* `Gap`, `Space`, `Name`, `Quotation`: the pieces that statements are made of.
* `ClauseEntry`, `EntryList`, `Selection`, `ImportClause`: what an import or a re-export takes.
* `Item`: one statement, comment or literal; `Item.text`, `Item.token?`: its text and its token.
* `Script`, `Script.text`, `Script.tokens`: a whole source.
-/

namespace ReducerAtlas.Source

open ReducerAtlas.Text

/-! ## Pieces -/

/-- Blanks between two lexemes, possibly none. -/
structure Gap where
  text : List Char
  blank : ∀ c ∈ text, isBlank c = true

/-- Blanks between two words, at least one. -/
structure Space extends Gap where
  ne_nil : text ≠ []

/-- A single blank. -/
def oneSpace : Space := ⟨⟨[' '], List.forall_mem_singleton.mpr (by decide)⟩, by decide⟩

/-- A name of any script. -/
structure Name where
  text : List Char
  ne_nil : text ≠ []
  named : ∀ c ∈ text, isNameChar c = true

/-- The name of a default import; the two words before a type import are none. -/
structure DefaultName extends Name where
  ne_type : text ≠ "type".toList
  ne_typeof : text ≠ "typeof".toList

/-- The upper-case name of a constant. -/
structure ConstantName where
  first : Char
  rest : List Char
  first_start : isConstantStart first = true
  rest_constant : ∀ c ∈ rest, isConstantChar c = true

/-- A text between two equal quotes, on one line and without that quote. -/
structure Quotation where
  quote : Char
  content : List Char
  isQuote : quote = '\x27' ∨ quote = '\x22'
  plain : ∀ c ∈ content, c ≠ quote ∧ c ≠ '\n'

/-- The content with its quotes. -/
def Quotation.text (q : Quotation) : List Char := q.quote :: (q.content ++ [q.quote])

/-! ## Clauses -/

/-- One entry of a brace list: a name, or a name and what it is called here. -/
inductive ClauseEntry
  | plain (name : Name)
  | renamed (name : Name) (before after : Space) (called : Name)

namespace ClauseEntry

/-- The name at the other module. -/
def imported : ClauseEntry → Name
  | plain name => name
  | renamed name .. => name

/-- The name in this module. -/
def bound : ClauseEntry → Name
  | plain name => name
  | renamed _ _ _ called => called

/-- The text of an entry. -/
def text : ClauseEntry → List Char
  | plain name => name.text
  | renamed name before after called =>
    name.text ++ (before.text ++ (asWord ++ (after.text ++ called.text)))

end ClauseEntry

/-- The inside of a brace list: entries with commas between them, and perhaps one after the last. -/
inductive EntryList
  | none (gap : Gap)
  | one (before : Gap) (entry : ClauseEntry) (after : Gap)
  | more (before : Gap) (entry : ClauseEntry) (after : Gap) (rest : EntryList)

namespace EntryList

/-- The entries of the list, in order. -/
def entries : EntryList → List ClauseEntry
  | none _ => []
  | one _ entry _ => [entry]
  | more _ entry _ rest => entry :: rest.entries

/-- The text between the braces. -/
def text : EntryList → List Char
  | none gap => gap.text
  | one before entry after => before.text ++ (entry.text ++ after.text)
  | more before entry after rest =>
    before.text ++ (entry.text ++ (after.text ++ ',' :: rest.text))

/-- The text with its braces. -/
def braced (list : EntryList) : List Char := '\x7b' :: (list.text ++ ['\x7d'])

/-- What the entries are called at the other module. -/
def imported (list : EntryList) : List (List Char) := list.entries.map (·.imported.text)

/-- What the entries are called in this module. -/
def locals (list : EntryList) : List (List Char) := list.entries.map (·.bound.text)

end EntryList

/-- What an import takes besides the default: a brace list, or everything under one name. -/
inductive Selection
  | braces (list : EntryList)
  | star (gap : Gap) (space : Space) (name : Name)

namespace Selection

/-- The text of a selection. -/
def text : Selection → List Char
  | braces list => list.braced
  | star gap space name => '*' :: (gap.text ++ (asWord ++ (space.text ++ name.text)))

/-- The names that it binds. -/
def bindings : Selection → List (List Char)
  | braces list => list.locals
  | star _ _ name => [name.text]

/-- The names that it takes from the target, if not all. -/
def restriction : Selection → Option (List (List Char))
  | braces list => some list.imported
  | star .. => none

/-- It ends with a word. -/
def endsWord : Selection → Bool
  | braces _ => false
  | star .. => true

end Selection

/-- What stands between the two keywords of an import. -/
inductive ImportClause
  | default (name : DefaultName)
  | selection (selection : Selection)
  | both (name : DefaultName) (before after : Gap) (selection : Selection)

namespace ImportClause

/-- The text of a clause. -/
def text : ImportClause → List Char
  | default name => name.text
  | selection s => s.text
  | both name before after s => name.text ++ (before.text ++ ',' :: (after.text ++ s.text))

/-- The names that it binds. -/
def bindings : ImportClause → List (List Char)
  | default name => [name.text]
  | selection s => s.bindings
  | both name _ _ s => name.text :: s.bindings

/-- The names that it takes from the target, if not all. -/
def restriction : ImportClause → Option (List (List Char))
  | default _ => none
  | selection s => s.restriction
  | both _ _ _ s => s.restriction

/-- It starts with a word. -/
def startsWord : ImportClause → Bool
  | selection _ => false
  | _ => true

/-- It ends with a word. -/
def endsWord : ImportClause → Bool
  | default _ => true
  | selection s => s.endsWord
  | both _ _ _ s => s.endsWord

/-- What it means. -/
def meaning (clause : ImportClause) : Clause :=
  ⟨some (nameSet clause.bindings), clause.restriction.map nameSet⟩

end ImportClause

/-! ## Items -/

/-- The quoted module names of a list, at least one, without the bracket that ends the list. -/
inductive SourceList
  | one (before : Gap) (source : Quotation) (after : Gap) (open' : ']' ∉ source.content)
  | more (before : Gap) (source : Quotation) (after : Gap) (open' : ']' ∉ source.content)
    (rest : SourceList)

namespace SourceList

/-- The module names, in order. -/
def contents : SourceList → List (List Char)
  | one _ source _ _ => [source.content]
  | more _ source _ _ rest => source.content :: rest.contents

/-- The text between the brackets. -/
def text : SourceList → List Char
  | one before source after _ => before.text ++ (source.text ++ after.text)
  | more before source after _ rest =>
    before.text ++ (source.text ++ (after.text ++ ',' :: rest.text))

end SourceList

/-- One character of a literal, or one after a backslash. -/
inductive LiteralPart
  | plain (c : Char)
  | escaped (c : Char)

namespace LiteralPart

/-- The text of a part. -/
def text : LiteralPart → List Char
  | plain c => [c]
  | escaped c => ['\\', c]

/-- The part can stand between the given quotes. Only a template goes over line ends. -/
def Fits (quote : Char) : LiteralPart → Prop
  | plain c => c ≠ quote ∧ c ≠ '\\' ∧ (c = '\n' → quote = templateQuote)
  | escaped _ => True

end LiteralPart

/-- A string or template literal. -/
structure Literal where
  quote : Char
  parts : List LiteralPart
  isQuote : quote = '\x27' ∨ quote = '\x22' ∨ quote = templateQuote
  fits : ∀ part ∈ parts, part.Fits quote

/-- The text of a literal. -/
def Literal.text (l : Literal) : List Char :=
  l.quote :: (l.parts.flatMap LiteralPart.text ++ [l.quote])

/-- **A statement, a comment or a literal.** A line comment takes the end of its line along. -/
inductive Item
  | bareImport (gap : Gap) (source : Quotation)
  | importing (clause : ImportClause) (before middle after : Gap) (source : Quotation)
    (apart : clause.startsWord = true → before.text ≠ [])
    (apart' : clause.endsWord = true → middle.text ≠ [])
  | reexporting (list : EntryList) (before middle after : Gap) (source : Quotation)
  | reexportingAll (before middle after : Gap) (source : Quotation)
  | reexportingAs (before gap : Gap) (space : Space) (name : Name) (middle : Space) (after : Gap)
    (source : Quotation)
  | requiring (before inner after : Gap) (source : Quotation)
  | requiringAll (before inner after : Gap) (sources : SourceList)
  | constant (name : ConstantName) (before after : Gap) (value : Quotation)
  | lineComment (content : List Char) (inLine : '\n' ∉ content)
  | blockComment (content : List Char) (unclosed : ¬ ['*', '/'] <:+: content)
  | literal (literal : Literal)

namespace Item

/-- The keyword `from` and a module name. -/
def fromText (middle after : Gap) (source : Quotation) : List Char :=
  middle.text ++ (fromWord ++ (after.text ++ source.text))

/-- **The text of an item.** -/
def text : Item → List Char
  | bareImport gap source => importWord ++ (gap.text ++ source.text)
  | importing clause before middle after source _ _ =>
    importWord ++ (before.text ++ (clause.text ++ fromText middle after source))
  | reexporting list before middle after source =>
    exportWord ++ (before.text ++ (list.braced ++ fromText middle after source))
  | reexportingAll before middle after source =>
    exportWord ++ (before.text ++ '*' :: fromText middle after source)
  | reexportingAs before gap space name middle after source =>
    exportWord ++ (before.text ++ '*' :: (gap.text ++ (asWord ++ (space.text ++ (name.text ++
      fromText middle.toGap after source)))))
  | requiring before inner after source =>
    requireWord ++ (before.text ++ '(' :: (inner.text ++ (source.text ++ (after.text ++ [')']))))
  | requiringAll before inner after sources =>
    requireWord ++ (before.text ++ '(' :: (inner.text ++ '[' :: (sources.text ++ ']' ::
      (after.text ++ [')']))))
  | constant name before after value =>
    name.first :: (name.rest ++ (before.text ++ '=' :: (after.text ++ value.text)))
  | lineComment content _ => '/' :: '/' :: (content ++ ['\n'])
  | blockComment content _ => '/' :: '*' :: (content ++ ['*', '/'])
  | literal l => l.text

/-- **The token that an item stands for**, if any. -/
def token? : Item → Option Token
  | bareImport _ source =>
    some (.reference ⟨.importing, [String.ofList source.content], ⟨some [], none⟩⟩)
  | importing clause _ _ _ source _ _ =>
    some (.reference ⟨.importing, [String.ofList source.content], clause.meaning⟩)
  | reexporting list _ _ _ source =>
    some (.reference ⟨.reexporting, [String.ofList source.content],
      ⟨some (nameSet list.locals), some (nameSet list.imported)⟩⟩)
  | reexportingAll _ _ _ source =>
    some (.reference ⟨.reexporting, [String.ofList source.content], ⟨none, none⟩⟩)
  | reexportingAs _ _ _ name _ _ source =>
    some (.reference ⟨.reexporting, [String.ofList source.content],
      ⟨some [String.ofList name.text], none⟩⟩)
  | requiring _ _ _ source =>
    some (.reference ⟨.requiring, [String.ofList source.content], {}⟩)
  | requiringAll _ _ _ sources =>
    some (.reference ⟨.requiring, sources.contents.map String.ofList, {}⟩)
  | constant name _ _ value =>
    some (.constant (String.ofList (name.first :: name.rest)) (String.ofList value.content))
  | _ => none

end Item

/-! ## Scripts -/

/-- What may stand between two items: blanks, semicolons and any other characters that start no
lexeme of their own. -/
structure Filler where
  text : List Char
  other : ∀ c ∈ text, isOther c = true

/-- **A well-formed source**: items with fillers around them, and perhaps a line comment that ends
with the text. -/
structure Script where
  opening : Filler
  items : List (Item × Filler)
  closing : Option { content : List Char // '\n' ∉ content }

/-- The text of a script. -/
def Script.text (script : Script) : List Char :=
  script.opening.text ++ (script.items.flatMap (fun part => part.1.text ++ part.2.text) ++
    (script.closing.elim [] fun content => '/' :: '/' :: content.1))

/-- The tokens that a script stands for. -/
def Script.tokens (script : Script) : List Token :=
  script.items.filterMap (·.1.token?)

end ReducerAtlas.Source
