import ReducerAtlas.Value

/-!
# Reading JSON

JSON texts, with `NaN`, `Infinity` and `-Infinity` as numbers. A field given twice keeps its last
value. Strings hold no raw control characters, and a byte order mark is no JSON.

* `Json.Fault`: why a text is refused; `Json.read`: the value of a text.
-/

namespace ReducerAtlas.Json

open ReducerAtlas.Text

/-- Why a text is refused. -/
inductive Fault
  /-- The text is not JSON. -/
  | malformed
  /-- An integer has more than `maxIntDigits` digits. -/
  | longNumeral
  deriving DecidableEq, Repr

/-- The blanks of JSON. -/
def isSpace (c : Char) : Bool :=
  c == ' ' || c == '\t' || c == '\n' || c == '\r'

/-- The text without blanks at its front. -/
def skipSpace (cs : List Char) : List Char :=
  cs.dropWhile isSpace

/-- The value of a hexadecimal digit. -/
def hexDigit? (c : Char) : Option Nat :=
  let n := c.toNat
  if 48 ≤ n ∧ n ≤ 57 then some (n - 48)
  else if 97 ≤ n ∧ n ≤ 102 then some (n - 87)
  else if 65 ≤ n ∧ n ≤ 70 then some (n - 55)
  else none

/-- Four hexadecimal digits. -/
def hexFour? : List Char → Option (Nat × List Char)
  | a :: b :: c :: d :: rest => do
    let a ← hexDigit? a
    let b ← hexDigit? b
    let c ← hexDigit? c
    let d ← hexDigit? d
    return (((a * 16 + b) * 16 + c) * 16 + d, rest)
  | _ => none

/-- The character of an escape with a letter. -/
def namedEscape? : Char → Option Char
  | '\x22' => some '\x22'
  | '\\' => some '\\'
  | '/' => some '/'
  | 'b' => some '\x08'
  | 'f' => some '\x0c'
  | 'n' => some '\n'
  | 'r' => some '\r'
  | 't' => some '\t'
  | _ => none

/-- The letter of a code escape: two escapes that are the halves of one character give that
character, and a half without its partner stands alone. -/
def codeEscape? (cs : List Char) : Option (Letter × List Char) := do
  let (high, rest) ← hexFour? cs
  let single := (Letter.ofCode high, rest)
  if 0xD800 ≤ high ∧ high ≤ 0xDBFF then
    match rest with
    | '\\' :: 'u' :: more =>
      match hexFour? more with
      | some (low, rest) =>
        if 0xDC00 ≤ low ∧ low ≤ 0xDFFF then
          let code := 0x10000 + (high - 0xD800) * 1024 + (low - 0xDC00)
          return (.char (Char.ofNat code), rest)
        else return single
      | none => none
    | _ => return single
  else return single

/-- A string after its opening quote. -/
def readString : Nat → List Char → Except Fault (List Letter × List Char)
  | 0, _ => .error .malformed
  | _ + 1, [] => .error .malformed
  | fuel + 1, c :: cs =>
    if c = '\x22' then .ok ([], cs)
    else if c = '\\' then
      match cs with
      | [] => .error .malformed
      | e :: rest =>
        let found :=
          if e = 'u' then codeEscape? rest else (namedEscape? e).map fun c => (.char c, rest)
        match found with
        | none => .error .malformed
        | some (x, rest) => do
          let (xs, rest) ← readString fuel rest
          return (x :: xs, rest)
    else if c.toNat < 32 then .error .malformed
    else do
      let (xs, rest) ← readString fuel cs
      return (.char c :: xs, rest)

/-- The number that ASCII digits write. -/
def natOfDigits (ds : List Char) : Nat :=
  ds.foldl (fun n d => n * 10 + (d.toNat - 48)) 0

/-- The exponent of a number: its sign and digits, and the rest. -/
def exponent? : List Char → Option (Int × List Char)
  | e :: cs =>
    if e = 'e' ∨ e = 'E' then
      let (negative, body) :=
        match cs with
        | '-' :: rest => (true, rest)
        | '+' :: rest => (false, rest)
        | _ => (false, cs)
      let digits := body.takeWhile Char.isDigit
      if digits.isEmpty then none
      else
        let n : Int := natOfDigits digits
        some (if negative then -n else n, body.dropWhile Char.isDigit)
    else none
  | [] => none

/-- The fraction of a number: its digits, and the rest. -/
def fraction? : List Char → Option (List Char × List Char)
  | '.' :: cs =>
    let digits := cs.takeWhile Char.isDigit
    if digits.isEmpty then none else some (digits, cs.dropWhile Char.isDigit)
  | _ => none

/-- A number after its sign. -/
def readNumber (negative : Bool) (cs : List Char) : Except Fault (Value × List Char) :=
  let digits := cs.takeWhile Char.isDigit
  let whole := if digits.head? = some '0' then ['0'] else digits
  if whole.isEmpty then .error .malformed
  else
    let rest := cs.drop whole.length
    let fraction := fraction? rest
    let afterFraction := (fraction.map (·.2)).getD rest
    let exponent := exponent? afterFraction
    match fraction, exponent with
    | none, none =>
      if maxIntDigits < whole.length then .error .longNumeral
      else
        let n : Int := natOfDigits whole
        .ok (.int (if negative then -n else n), rest)
    | _, _ =>
      let places := (fraction.map (·.1)).getD []
      let mantissa := natOfDigits (whole ++ places)
      let e := (exponent.map (·.1)).getD 0 - places.length
      .ok (.float (Decimal.toFloat negative mantissa e), (exponent.map (·.2)).getD afterFraction)

/-- Positive infinity. -/
def infinity : Float := Float.ofBits 0x7FF0000000000000

/-- Negative infinity. -/
def negativeInfinity : Float := Float.ofBits 0xFFF0000000000000

/-- The value that is no number. -/
def notANumber : Float := Float.ofBits 0x7FF8000000000000

/-- The words that stand for a value. -/
def namedValues : List (List Char × Value) :=
  [("null".toList, .null), ("true".toList, .bool true), ("false".toList, .bool false),
    ("NaN".toList, .float notANumber), ("Infinity".toList, .float infinity),
    ("-Infinity".toList, .float negativeInfinity)]

/-- A word or a number. -/
def readScalar (cs : List Char) : Except Fault (Value × List Char) :=
  match namedValues.findSome? fun (word, v) => (Text.after? word cs).map (v, ·) with
  | some found => .ok found
  | none =>
    match cs with
    | '-' :: rest => readNumber true rest
    | _ => readNumber false cs

mutual

/-- A value. -/
def readValue : Nat → List Char → Except Fault (Value × List Char)
  | 0, _ => .error .malformed
  | _ + 1, [] => .error .malformed
  | fuel + 1, c :: cs =>
    if c = '\x22' then do
      let (s, rest) ← readString (cs.length + 1) cs
      return (.ofLetters s, rest)
    else if c = '[' then
      match skipSpace cs with
      | ']' :: rest => .ok (.list [], rest)
      | body => do
        let (items, rest) ← readItems fuel body
        return (.list items, rest)
    else if c = '\x7b' then
      match skipSpace cs with
      | '\x7d' :: rest => .ok (.map [], rest)
      | body => do
        let (fields, rest) ← readFields fuel [] body
        return (.map fields, rest)
    else readScalar (c :: cs)

/-- The items of a list, up to its closing bracket. -/
def readItems : Nat → List Char → Except Fault (List Value × List Char)
  | 0, _ => .error .malformed
  | fuel + 1, cs => do
    let (v, rest) ← readValue fuel cs
    match skipSpace rest with
    | ']' :: rest => return ([v], rest)
    | ',' :: rest =>
      let (vs, rest) ← readItems fuel (skipSpace rest)
      return (v :: vs, rest)
    | _ => .error .malformed

/-- The fields of a mapping after those already read, up to its closing brace. -/
def readFields :
    Nat → List (Value × Value) → List Char → Except Fault (List (Value × Value) × List Char)
  | 0, _, _ => .error .malformed
  | fuel + 1, fields, cs =>
    match cs with
    | '\x22' :: cs => do
      let (key, rest) ← readString (cs.length + 1) cs
      match skipSpace rest with
      | ':' :: rest =>
        let (v, rest) ← readValue fuel (skipSpace rest)
        let fields := Value.setField (.ofLetters key) v fields
        match skipSpace rest with
        | '\x7d' :: rest => return (fields, rest)
        | ',' :: rest => readFields fuel fields (skipSpace rest)
        | _ => .error .malformed
      | _ => .error .malformed
    | _ => .error .malformed

end

/-- **The value of a JSON text.** Each character starts at most one value or field. -/
def read (content : List Char) : Except Fault Value := do
  let (v, rest) ← readValue (2 * content.length + 2) (skipSpace content)
  if (skipSpace rest).isEmpty then return v else .error .malformed

end ReducerAtlas.Json
