import ReducerAtlas.Proofs.Script

/-!
# Places for a comment inside a statement

A statement is made of lexemes, and a comment with blanks around it may be written between any two
of them, in the place of the blanks that stand there. Most of these places are outside everything
that a statement may hold, so that the statement is no longer one. The others are where any text is
let through: the braces of a re-export, the list of a require call, and what comes after the
argument of a require call.

* `Comment`, `Remark`: a comment, alone and with blanks around it.
* `Cut`: a place between two lexemes; `Effect`: what a comment does there.
* `Item.places`: the places of a statement, with their effects.
* `Effect.token?`, `Place.left`: the token that the statement gives with a comment in it, and what
  is left to be read behind the comment.
-/

namespace ReducerAtlas.Source

open ReducerAtlas.Text

/-! ## Comments -/

/-- A comment; a line comment takes the end of its line along. -/
inductive Comment
  | line (content : List Char) (inLine : '\n' ∉ content)
  | block (content : List Char) (unclosed : ¬ ['*', '/'] <:+: content)

/-- The comment as an item of a script. -/
def Comment.item : Comment → Item
  | line content inLine => .lineComment content inLine
  | block content unclosed => .blockComment content unclosed

/-- The text of a comment. -/
def Comment.text (comment : Comment) : List Char := comment.item.text

/-- No quoted text goes over the end of the comment: what is quoted in it does not depend on what
follows. At the end of a line every quoted text has ended. -/
def Comment.Closed : Comment → Prop
  | line .. => True
  | block content _ => ∀ rest, quotations (content ++ rest) = quotations content ++ quotations rest

/-- A comment with blanks around it. -/
structure Remark where
  before : Space
  comment : Comment
  after : Space

/-- The text of a comment with the blanks around it. -/
def Remark.text (remark : Remark) : List Char :=
  remark.before.text ++ (remark.comment.text ++ remark.after.text)

/-! ## Places in a list -/

/-- A place between two lexemes of a text: what stands before the blanks there, and what after. -/
structure Cut where
  front : List Char
  back : List Char

/-- The same place with more text around. -/
def Cut.within (cut : Cut) (pre post : List Char) : Cut := ⟨pre ++ cut.front, cut.back ++ post⟩

/-- The places around the keyword of an entry. -/
def ClauseEntry.cuts : ClauseEntry → List Cut
  | plain _ => []
  | renamed name before after called =>
    [⟨name.text, asWord ++ (after.text ++ called.text)⟩,
      ⟨name.text ++ (before.text ++ asWord), called.text⟩]

/-- The names of an entry at the other module and in this one. -/
def ClauseEntry.pair (entry : ClauseEntry) : List Char × List Char :=
  (entry.imported.text, entry.bound.text)

/-- A place before or after the entries of a list, and what the list is read as with a comment
there, given the first and the last word of the comment. -/
structure EntryCut extends Cut where
  pairs : List Char × List Char → List (List Char × List Char)

namespace EntryList

/-- The names of the entries. -/
def pairs (list : EntryList) : List (List Char × List Char) := list.entries.map ClauseEntry.pair

/-- The places inside the entries. -/
def inner : EntryList → List Cut
  | none _ => []
  | one before entry after => entry.cuts.map (·.within before.text after.text)
  | more before entry after rest =>
    entry.cuts.map (·.within before.text (after.text ++ ',' :: rest.text)) ++
      rest.inner.map (·.within (before.text ++ (entry.text ++ (after.text ++ [',']))) [])

/-- The places before and after the entries. A comment before an entry is taken for the name at the
other module, one after it for the name in this module, and one on its own for an entry. -/
def outer : EntryList → List EntryCut
  | none _ => [⟨⟨[], []⟩, fun words => [words]⟩]
  | one before entry after =>
    [⟨⟨[], entry.text ++ after.text⟩, fun words => [(words.1, entry.bound.text)]⟩,
      ⟨⟨before.text ++ entry.text, []⟩, fun words => [(entry.imported.text, words.2)]⟩]
  | more before entry after rest =>
    ⟨⟨[], entry.text ++ (after.text ++ ',' :: rest.text)⟩,
        fun words => (words.1, entry.bound.text) :: rest.pairs⟩ ::
      ⟨⟨before.text ++ entry.text, ',' :: rest.text⟩,
        fun words => (entry.imported.text, words.2) :: rest.pairs⟩ ::
      rest.outer.map fun cut =>
        ⟨cut.within (before.text ++ (entry.text ++ (after.text ++ [',']))) [],
          fun words => entry.pair :: cut.pairs words⟩

/-- All places in a list. -/
def cuts (list : EntryList) : List Cut := list.inner ++ list.outer.map (·.toCut)

end EntryList

/-- A place in a list of module names, with the names before and after it. -/
structure SourceCut extends Cut where
  before : List (List Char)
  after : List (List Char)

/-- The places in a list of module names. -/
def SourceList.cuts : SourceList → List SourceCut
  | one before source after _ =>
    [⟨⟨[], source.text ++ after.text⟩, [], [source.content]⟩,
      ⟨⟨before.text ++ source.text, []⟩, [source.content], []⟩]
  | more before source after _ rest =>
    ⟨⟨[], source.text ++ (after.text ++ ',' :: rest.text)⟩, [], source.content :: rest.contents⟩ ::
      ⟨⟨before.text ++ source.text, ',' :: rest.text⟩, [source.content], rest.contents⟩ ::
      rest.cuts.map fun cut =>
        ⟨cut.within (before.text ++ (source.text ++ (after.text ++ [',']))) [],
          source.content :: cut.before, cut.after⟩

/-! ## Places in a clause -/

/-- The places in a selection. -/
def Selection.cuts : Selection → List Cut
  | braces list => list.cuts.map (·.within ['\x7b'] ['\x7d'])
  | star gap space name =>
    [⟨['*'], asWord ++ (space.text ++ name.text)⟩, ⟨'*' :: (gap.text ++ asWord), name.text⟩]

/-- The places in a clause. -/
def ImportClause.cuts : ImportClause → List Cut
  | default _ => []
  | selection s => s.cuts
  | both name before after s =>
    ⟨name.text, ',' :: (after.text ++ s.text)⟩ :: ⟨name.text ++ (before.text ++ [',']), s.text⟩ ::
      s.cuts.map (·.within (name.text ++ (before.text ++ ',' :: after.text)) [])

/-! ## Places in a statement -/

/-- What a comment does to the statement that it stands in. -/
inductive Effect
  /-- The statement is not read, and the reading goes on behind the comment. -/
  | lost
  /-- A comment without the given characters is passed over. -/
  | kept (barred : List Char)
  /-- The quoted texts of a comment are module names too, between the given ones. -/
  | listed (before after : List (List Char))
  /-- The first and the last word of a comment are taken for names of a re-export. -/
  | named (source : List Char) (pairs : List Char × List Char → List (List Char × List Char))

/-- A place in a statement, and the effect of a comment there. -/
structure Place extends Cut where
  effect : Effect

/-- The places of a text that a module name follows: those in the text, and those before and after
the keyword `from`. -/
def fromCuts (head : List Char) (cuts : List Cut) (middle after : Gap) (source : Quotation) :
    List Cut :=
  cuts.map (·.within [] (Item.fromText middle after source)) ++
    [⟨head, fromWord ++ (after.text ++ source.text)⟩,
      ⟨head ++ (middle.text ++ fromWord), source.text⟩]

namespace Item

/-- The places of a statement where no comment may stand. -/
def breaks : Item → List Cut
  | bareImport _ source => [⟨importWord, source.text⟩]
  | importing clause before middle after source _ _ =>
    fromCuts (importWord ++ (before.text ++ clause.text))
      (⟨importWord, clause.text⟩ :: clause.cuts.map (·.within (importWord ++ before.text) []))
      middle after source
  | reexporting list before middle after source =>
    fromCuts (exportWord ++ (before.text ++ list.braced)) [⟨exportWord, list.braced⟩]
      middle after source
  | reexportingAll before middle after source =>
    fromCuts (exportWord ++ (before.text ++ ['*'])) [⟨exportWord, ['*']⟩] middle after source
  | reexportingAs before gap space name middle after source =>
    fromCuts (exportWord ++ (before.text ++ (Selection.star gap space name).text))
      (⟨exportWord, (Selection.star gap space name).text⟩ ::
        (Selection.star gap space name).cuts.map (·.within (exportWord ++ before.text) []))
      middle.toGap after source
  | requiring before inner after source =>
    [⟨requireWord, '(' :: (inner.text ++ (source.text ++ (after.text ++ [')'])))⟩,
      ⟨requireWord ++ (before.text ++ ['(']), source.text ++ (after.text ++ [')'])⟩]
  | requiringAll before inner after sources =>
    [⟨requireWord, '(' :: (inner.text ++ '[' :: (sources.text ++ ']' :: (after.text ++ [')'])))⟩,
      ⟨requireWord ++ (before.text ++ ['(']),
        '[' :: (sources.text ++ ']' :: (after.text ++ [')']))⟩]
  | constant name before after value =>
    [⟨name.first :: name.rest, '=' :: (after.text ++ value.text)⟩,
      ⟨name.first :: (name.rest ++ (before.text ++ ['='])), value.text⟩]
  | _ => []

/-- The places of a statement where any text is let through. -/
def openings : Item → List Place
  | reexporting list before middle after source =>
    let pre := exportWord ++ (before.text ++ ['\x7b'])
    let post := '\x7d' :: fromText middle after source
    list.inner.map (fun cut => ⟨cut.within pre post, .kept [',', '\x7d']⟩) ++
      list.outer.map fun cut => ⟨cut.within pre post, .named source.content cut.pairs⟩
  | requiring before inner _ source =>
    [⟨⟨requireWord ++ (before.text ++ '(' :: (inner.text ++ source.text)), [')']⟩, .kept []⟩]
  | requiringAll before inner after sources =>
    let pre := requireWord ++ (before.text ++ '(' :: (inner.text ++ ['[']))
    ⟨⟨pre ++ (sources.text ++ [']']), [')']⟩, .kept []⟩ ::
      sources.cuts.map fun cut =>
        ⟨cut.within pre (']' :: (after.text ++ [')'])), .listed cut.before cut.after⟩
  | _ => []

/-- **The places between the lexemes of a statement.** -/
def places (item : Item) : List Place :=
  item.breaks.map (fun cut => ⟨cut, .lost⟩) ++ item.openings

end Item

/-! ## Reading a statement with a comment in it -/

namespace Effect

/-- The comment ends where it seems to: nothing in it ends the list or the entry around it. -/
def Fits (comment : Comment) : Effect → Prop
  | lost => True
  | kept barred => ∀ c ∈ barred, c ∉ comment.text
  | listed .. => ']' ∉ comment.text ∧ comment.Closed
  | named .. => ',' ∉ comment.text ∧ '\x7d' ∉ comment.text

/-- The comment is not seen. -/
def Harmless (comment : Comment) : Effect → Prop
  | lost => False
  | kept barred => ∀ c ∈ barred, c ∉ comment.text
  | listed .. => ∀ c ∈ [']', '\x27', '\x22'], c ∉ comment.text
  | named .. => False

/-- **The token of a statement with a comment in it**, if any. -/
def token? (item : Item) (comment : Comment) : Effect → Option Token
  | lost => none
  | kept _ => item.token?
  | listed before after => some (.reference ⟨.requiring,
      (before ++ (quotations comment.text ++ after)).map String.ofList, {}⟩)
  | named source pairs =>
    let found := pairs (aliasPair comment.text)
    some (.reference ⟨.reexporting, [String.ofList source],
      ⟨some (nameSet (found.map (·.2))), some (nameSet (found.map (·.1)))⟩⟩)

end Effect

namespace Place

/-- The text of a statement with a comment in it. -/
def insert (place : Place) (remark : Remark) : List Char :=
  place.front ++ (remark.text ++ place.back)

/-- The part of the statement that is read on its own. -/
def left (place : Place) : List Char :=
  match place.effect with
  | .lost => place.back
  | _ => []

end Place

end ReducerAtlas.Source
