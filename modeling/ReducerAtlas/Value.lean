import ReducerAtlas.Decimal.Shortest
import ReducerAtlas.Text.Letter
import ReducerAtlas.Text.Split

/-!
# Option values

The values that an option can have in a configuration file or on the command line, and their text.

* `Value`: the values; `Value.ofLetters`: the value of a text.
* `Value.render`: the text of a value inside a list or mapping.
* `Value.asText`: the text of a whole value; `Value.hasText`: whether it can be written out.
* `Value.isTrue`: whether it counts as given; `Value.same`: whether two are one key.
-/

namespace ReducerAtlas

open ReducerAtlas.Text

/-- A value of a kind that no option has: a date, a set and the like. All that is used of it are its
text, alone and inside a list, and its truth. -/
structure Foreign where
  shown : String
  inner : String
  /-- No integer in it has too many digits to be written. -/
  written : Bool := true
  truth : Bool := true
  deriving DecidableEq, Repr

/-- A value of a configuration file: a scalar, a list, or a mapping in the order of its keys. -/
inductive Value
  | null
  | bool (b : Bool)
  | int (n : Int)
  | float (x : Float)
  | text (s : String)
  /-- A text with halves of characters. -/
  | broken (ls : List Letter)
  | bytes (content : List UInt8)
  | list (items : List Value)
  | map (fields : List (Value × Value))
  | foreign (v : Foreign)
  deriving Inhabited

/-- The value of a text. -/
def Value.ofLetters (ls : List Letter) : Value :=
  match stringOf? ls with
  | some s => .text s
  | none => .broken ls

/-- Bytes between quotes: what is not printable ASCII is written as an escape. -/
def quotedBytes (content : List UInt8) : String :=
  let q := quoteFor (content.map fun b => Char.ofNat b.toNat)
  let shown (b : UInt8) :=
    if b.toNat < 0x80 then escapeChar q (Char.ofNat b.toNat)
    else '\\' :: 'x' :: hexPadded 2 b.toNat
  String.ofList ('b' :: q :: content.flatMap shown ++ [q])

mutual

/-- The text of a value inside a list or mapping: strings are quoted. -/
def Value.render : Value → String
  | .null => "None"
  | .bool true => "True"
  | .bool false => "False"
  | .int n => toString n
  | .float x => Decimal.render x
  | .text s => quoted s
  | .broken ls => quotedLetters ls
  | .bytes content => quotedBytes content
  | .list items => "[" ++ joinWith ", " (Value.renderItems items) ++ "]"
  | .map fields => "\x7b" ++ joinWith ", " (Value.renderFields fields) ++ "\x7d"
  | .foreign v => v.inner

/-- The texts of the items of a list. -/
def Value.renderItems : List Value → List String
  | [] => []
  | v :: vs => v.render :: Value.renderItems vs

/-- The texts of the fields of a mapping. -/
def Value.renderFields : List (Value × Value) → List String
  | [] => []
  | (k, v) :: fs => (k.render ++ ": " ++ v.render) :: Value.renderFields fs

end

/-- The text of a whole value: a string is its own text. -/
def Value.asText : Value → List Letter
  | .text s => letters s
  | .broken ls => ls
  | .foreign v => letters v.shown
  | v => letters v.render

/-- The most decimal digits that an integer is read or written with. -/
def maxIntDigits : Nat := 4300

mutual

/-- The value can be written out: no integer in it has too many digits. -/
def Value.hasText : Value → Bool
  | .null | .bool _ | .float _ | .text _ | .broken _ | .bytes _ => true
  | .int n => n.natAbs < Nat.pow 10 maxIntDigits
  | .list items => Value.haveText items
  | .map fields => Value.fieldsHaveText fields
  | .foreign v => v.written

/-- All values of a list can be written out. -/
def Value.haveText : List Value → Bool
  | [] => true
  | v :: vs => v.hasText && Value.haveText vs

/-- All keys and values of a mapping can be written out. -/
def Value.fieldsHaveText : List (Value × Value) → Bool
  | [] => true
  | (k, v) :: fs => k.hasText && v.hasText && Value.fieldsHaveText fs

end

/-- A value that is not empty, zero, false or missing. -/
def Value.isTrue : Value → Bool
  | .null => false
  | .bool b => b
  | .int n => n != 0
  | .float x => x != 0.0
  | .text s => !s.isEmpty
  | .broken ls => !ls.isEmpty
  | .bytes content => !content.isEmpty
  | .list items => !items.isEmpty
  | .map fields => !fields.isEmpty
  | .foreign v => v.truth

mutual

/-- Two values are the same key of a mapping. A boolean is the number one or zero, numbers are
compared without rounding, and what is not a number is one key. -/
def Value.same : Value → Value → Bool
  | .null, .null => true
  | .bool a, .bool b => a == b
  | .int a, .int b => a == b
  | .float a, .float b => a == b || (a.isNaN && b.isNaN)
  | .bool a, .int b | .int b, .bool a => b == a.toNat
  | .bool a, .float b | .float b, .bool a => b == a.toNat.toFloat
  | .int a, .float b | .float b, .int a => Decimal.isInt b a
  | .text a, .text b => a == b
  | .broken a, .broken b => a == b
  | .bytes a, .bytes b => a == b
  | .list a, .list b => Value.sameItems a b
  | .map a, .map b => Value.sameFields a b
  | .foreign a, .foreign b => a == b
  | _, _ => false

/-- The items of two lists are the same in order. -/
def Value.sameItems : List Value → List Value → Bool
  | [], [] => true
  | a :: as, b :: bs => a.same b && Value.sameItems as bs
  | _, _ => false

/-- The fields of two mappings are the same in order. -/
def Value.sameFields : List (Value × Value) → List (Value × Value) → Bool
  | [], [] => true
  | (k, v) :: as, (l, w) :: bs => k.same l && v.same w && Value.sameFields as bs
  | _, _ => false

end

/-- The fields with one more: a key that occurs already keeps its place and gets the new value. -/
def Value.setField (key value : Value) : List (Value × Value) → List (Value × Value)
  | [] => [(key, value)]
  | (k, v) :: rest =>
    if k.same key then (k, value) :: rest else (k, v) :: Value.setField key value rest

/-- The value of a field with a string as its key. -/
def Value.field? (name : String) (fields : List (Value × Value)) : Option Value :=
  (fields.find? fun entry => entry.1.same (.text name)).map (·.2)

end ReducerAtlas
