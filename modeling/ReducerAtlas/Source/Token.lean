import ReducerAtlas.Source.Lexeme
import ReducerAtlas.Source.Clause

/-!
# Tokens of a source

What a source says about itself and about other modules: constants with a quoted value, and
references to modules by import, re-export and require.

* `Reference`, `Token`: the two kinds of statement; `tokens`: those of a text, in order.
* `Summary`: the first value of each constant and all references.
-/

namespace ReducerAtlas.Source

open ReducerAtlas.Text

/-- How a statement refers to another module. -/
inductive ReferenceKind
  | importing
  | reexporting
  | requiring
  deriving DecidableEq, Repr

/-- A reference to other modules, with the names it binds and the names it takes. -/
structure Reference where
  kind : ReferenceKind
  specifiers : List String
  clause : Clause := {}
  deriving DecidableEq, Repr

/-- A constant with a quoted value, or a reference. -/
inductive Token
  | constant (name value : String)
  | reference (reference : Reference)
  deriving DecidableEq, Repr

/-- The contents of the quoted texts in a text, from its place `skip` on. -/
def quotationsFrom : Nat → List Char → List (List Char)
  | _, [] => []
  | skip + 1, _ :: cs => quotationsFrom skip cs
  | 0, c :: cs =>
    match quotedText? (c :: cs) with
    | some (_, content) => content :: quotationsFrom (content.length + 1) cs
    | none => quotationsFrom 0 cs

/-- The contents of the quoted texts in a text, from the left and without overlap. -/
def quotations (cs : List Char) : List (List Char) :=
  quotationsFrom 0 cs

/-- The token that a lexeme gives, if any. A require call without a quoted text gives none. -/
def Kind.token? : Kind → Option Token
  | .importing clause source =>
    some (.reference ⟨.importing, [String.ofList source], Clause.ofImport clause⟩)
  | .reexporting clause source =>
    some (.reference ⟨.reexporting, [String.ofList source], Clause.ofExport clause⟩)
  | .requiring argument =>
    match quotations argument with
    | [] => none
    | found => some (.reference ⟨.requiring, found.map String.ofList, {}⟩)
  | .constant name value => some (.constant (String.ofList name) (String.ofList value))
  | _ => none

/-- **The tokens of a source text**, in the order of the text. -/
def tokens (content : List Char) : List Token :=
  (lexemes content).filterMap (·.kind.token?)

/-- The name and value of a constant. -/
def Token.constant? : Token → Option (String × String)
  | .constant name value => some (name, value)
  | .reference _ => none

/-- The reference that a token is. -/
def Token.reference? : Token → Option Reference
  | .constant .. => none
  | .reference r => some r

/-- The references of a source text. -/
def references (content : List Char) : List Reference :=
  (tokens content).filterMap Token.reference?

/-- The first value given to a constant in a source text. -/
def constantValue? (content : List Char) (name : String) : Option String :=
  ((tokens content).filterMap Token.constant?).lookup name

/-! ## Summaries -/

/-- The first value of each constant, in the order of their first appearance, and all references. -/
structure Summary where
  constants : List (String × String)
  references : List Reference
  deriving DecidableEq, Repr

/-- The first pair for each name. -/
def firstValues : List (String × String) → List (String × String)
  | [] => []
  | (name, value) :: rest => (name, value) :: (firstValues rest).filter (·.1 != name)

/-- The summary of a source text. -/
def Summary.of (content : List Char) : Summary :=
  let found := tokens content
  ⟨firstValues (found.filterMap Token.constant?), found.filterMap Token.reference?⟩

/-- The first value of a constant. -/
def Summary.value? (summary : Summary) (name : String) : Option String :=
  summary.constants.lookup name

/-- The constant that names the reducer a file defines. -/
def reducerMarker : String := "PRM_REDUCER_NAME"

/-- The constant that names the reducer whose actions a file holds. -/
def actionMarker : String := "PRM_ACTION_FILE_FOR_REDUCER"

/-- The constant that names the reducer whose sagas a file holds. -/
def sagaMarker : String := "PRM_SAGA_FILE_FOR_REDUCER"

end ReducerAtlas.Source
