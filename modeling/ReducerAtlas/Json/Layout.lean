import ReducerAtlas.Text.Quoted
import ReducerAtlas.Text.Split

/-!
# Laying out JSON

A document of words, lists and objects as JSON text, on one line or with each entry on its own.

* `Json.Doc`: a document; `Json.Layout`: one line, or lines with a unit of indentation.
* `Json.Doc.render`: the text of a document.
-/

namespace ReducerAtlas.Json

open ReducerAtlas.Text

/-- A document of words, lists and objects. -/
inductive Doc
  | word (s : String)
  | list (items : List Doc)
  | object (fields : List (String × Doc))

/-- How a document is laid out. -/
inductive Layout
  /-- All on one line. -/
  | line
  /-- Each entry on its own line, with a unit of indentation for each level. -/
  | lines (unit : String)
  deriving DecidableEq, Repr

/-- The layout with lines indented by a number of spaces for each level. -/
def Layout.spaces (n : Int) : Layout :=
  .lines (String.ofList (List.replicate n.toNat ' '))

/-- The text of a character inside a word: quotes, backslashes and control characters are escaped.
-/
def escapeInWord (c : Char) : List Char :=
  match c with
  | '\x22' => ['\\', '\x22']
  | '\\' => ['\\', '\\']
  | '\n' => ['\\', 'n']
  | '\r' => ['\\', 'r']
  | '\t' => ['\\', 't']
  | '\x08' => ['\\', 'b']
  | '\x0c' => ['\\', 'f']
  | c => if c.toNat < 32 then '\\' :: 'u' :: hexPadded 4 c.toNat else [c]

/-- The text of a word. -/
def renderWord (s : String) : String :=
  String.ofList ('\x22' :: s.toList.flatMap escapeInWord ++ ['\x22'])

/-- A line end and the indentation of a level, or nothing on one line. -/
def Layout.newLine (layout : Layout) (level : Nat) : String :=
  match layout with
  | .line => ""
  | .lines unit => joinWith "" ("\n" :: List.replicate level unit)

/-- What stands between two entries of a level. -/
def Layout.between (layout : Layout) (level : Nat) : String :=
  match layout with
  | .line => ", "
  | .lines _ => "," ++ layout.newLine level

/-- Entries between two brackets, one level further in. -/
def Layout.enclose (layout : Layout) (level : Nat) (left right : String) (entries : List String) :
    String :=
  if entries.isEmpty then left ++ right
  else
    left ++ layout.newLine (level + 1) ++ joinWith (layout.between (level + 1)) entries ++
      layout.newLine level ++ right

mutual

/-- The text of a document at a level. -/
def Doc.renderAt (layout : Layout) : Nat → Doc → String
  | _, .word s => renderWord s
  | level, .list items => layout.enclose level "[" "]" (renderItems layout (level + 1) items)
  | level, .object fields =>
    layout.enclose level "\x7b" "\x7d" (renderFields layout (level + 1) fields)

/-- The texts of the items of a list. -/
def renderItems (layout : Layout) : Nat → List Doc → List String
  | _, [] => []
  | level, item :: rest => item.renderAt layout level :: renderItems layout level rest

/-- The texts of the fields of an object. -/
def renderFields (layout : Layout) : Nat → List (String × Doc) → List String
  | _, [] => []
  | level, (name, doc) :: rest =>
    (renderWord name ++ ": " ++ doc.renderAt layout level) :: renderFields layout level rest

end

/-- **The text of a document.** -/
def Doc.render (doc : Doc) (layout : Layout) : String :=
  doc.renderAt layout 0

end ReducerAtlas.Json
