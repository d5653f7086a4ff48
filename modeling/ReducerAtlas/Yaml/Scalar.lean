import ReducerAtlas.Yaml.Token

/-!
# Plain scalars

A plain scalar is a null, a boolean, a number or a text by its form alone.

* `Yaml.scalarValue`: the value of a plain scalar.
-/

namespace ReducerAtlas.Yaml

/-- The words for a missing value. -/
def nullWords : List String := ["", "~", "null", "Null", "NULL"]

/-- The words for a boolean. -/
def trueWords : List String :=
  ["yes", "Yes", "YES", "true", "True", "TRUE", "on", "On", "ON"]

/-- The words for the other boolean. -/
def falseWords : List String :=
  ["no", "No", "NO", "false", "False", "FALSE", "off", "Off", "OFF"]

/-- The plain scalar that is kept for the value of a mapping; it is a text as a key only. -/
def defaultMark : List Char := ['=']

/-- The plain scalar that is kept for merging mappings; it is a key only. -/
def mergeMark : List Char := ['<', '<']

/-- A digit or an underscore. -/
def isDigitMark (p : Char → Bool) (c : Char) : Bool :=
  p c || c == '_'

/-- The sign of a number, and the rest. -/
def splitSign : List Char → Bool × List Char
  | '-' :: cs => (true, cs)
  | '+' :: cs => (false, cs)
  | cs => (false, cs)

/-- The text without underscores. -/
def dropMarks (cs : List Char) : List Char :=
  cs.filter (· != '_')

/-- The number that digits write in a base; there has to be a digit. -/
def natIn (base : Nat) (cs : List Char) : Except Fault Nat :=
  let digits := dropMarks cs
  if digits.isEmpty || (base == 10 && maxIntDigits < digits.length) then .error .badNumeral
  else .ok (digits.foldl (fun n d => n * base + (Json.hexDigit? d).getD 0) 0)

/-- The parts of a number in base sixty after its first: one or two digits, below sixty. -/
def isSixtieth (cs : List Char) : Bool :=
  match cs with
  | [a] => a.isDigit
  | [a, b] => '0' ≤ a && a ≤ '5' && b.isDigit
  | _ => false

/-- A number that starts with another digit than zero. -/
def isCount (cs : List Char) : Bool :=
  cs.head?.any (fun c => c.isDigit && c != '0') && cs.all (isDigitMark Char.isDigit)

/-- The integer of an unsigned text, if its form is one: binary, octal, decimal, hexadecimal or in
base sixty. -/
def integer? (cs : List Char) : Option (Except Fault Nat) :=
  let binary (c : Char) := c == '0' || c == '1'
  let octal (c : Char) := '0' ≤ c && c ≤ '7'
  let hex (c : Char) := (Json.hexDigit? c).isSome
  match cs with
  | '0' :: 'b' :: ds =>
    if !ds.isEmpty && ds.all (isDigitMark binary) then some (natIn 2 ds) else none
  | '0' :: 'x' :: ds =>
    if !ds.isEmpty && ds.all (isDigitMark hex) then some (natIn 16 ds) else none
  | ['0'] => some (.ok 0)
  | '0' :: ds => if ds.all (isDigitMark octal) then some (natIn 8 ('0' :: ds)) else none
  | _ =>
    match Text.splitBy (· == ':') cs with
    | [] => none
    | whole :: parts =>
      if isCount whole && parts.all isSixtieth then
        some do
          let first ← natIn 10 whole
          return parts.foldl (fun n part => n * 60 + Json.natOfDigits part) first
      else none

/-- The exponent of a decimal: a sign and digits, or nothing. -/
def exponentOf? : List Char → Option Int
  | [] => some 0
  | e :: sign :: digits =>
    if (e == 'e' || e == 'E') && (sign == '+' || sign == '-') && !digits.isEmpty &&
        digits.all Char.isDigit then
      let n : Int := Json.natOfDigits digits
      some (if sign == '-' then -n else n)
    else none
  | _ => none

/-- The decimal of a whole part, places and an exponent. -/
def decimal (negative : Bool) (whole places : List Char) (exponent : Int) : Float :=
  let places := dropMarks places
  Decimal.toFloat negative (Json.natOfDigits (dropMarks whole ++ places)) (exponent - places.length)

/-- The sum of parts in base sixty, the least one first; each part is scaled by a power of sixty
that is rounded once. -/
def sixtieths : Float → Nat → List Float → Except Fault Float
  | sum, _, [] => .ok sum
  | sum, base, part :: parts =>
    let scale := Decimal.toFloat false base 0
    if scale.isInf then .error .tooLarge
    else sixtieths (sum + part * scale) (base * 60) parts

/-- The decimal number of an unsigned text, if its form is one. A sign goes before all forms but the
bare point. -/
def decimal? (signed negative : Bool) (cs : List Char) : Option (Except Fault Float) :=
  let marks := isDigitMark Char.isDigit
  let head := cs.takeWhile (· != '.')
  match cs.drop head.length with
  | [] => none
  | _ :: tail =>
    if head.isEmpty then
      if ["inf", "Inf", "INF"].contains (String.ofList tail) then
        some (.ok (if negative then Json.negativeInfinity else Json.infinity))
      else if !signed && ["nan", "NaN", "NAN"].contains (String.ofList tail) then
        some (.ok Json.notANumber)
      else
        let places := tail.takeWhile marks
        if !signed && places.head?.any Char.isDigit then
          (exponentOf? (tail.drop places.length)).map (.ok <| decimal false [] places ·)
        else none
    else if head.head?.any Char.isDigit then
      if head.all marks then
        let places := tail.takeWhile marks
        (exponentOf? (tail.drop places.length)).map (.ok <| decimal negative head places ·)
      else
        match Text.splitBy (· == ':') head with
        | whole :: parts =>
          if whole.all marks && parts.all isSixtieth && tail.all marks then
            let values := (whole :: parts.dropLast).map fun part => decimal false part [] 0
            let last := decimal false (parts.getLastD []) tail 0
            some do
              let sum ← sixtieths 0.0 1 (last :: values.reverse)
              return if negative then -sum else sum
          else none
        | [] => none
    else none

/-- **The value of a plain scalar.** -/
def scalarValue (cs : List Char) : Except Fault Value :=
  let word := String.ofList cs
  if nullWords.contains word then .ok .null
  else if trueWords.contains word then .ok (.bool true)
  else if falseWords.contains word then .ok (.bool false)
  else if cs == defaultMark || cs == mergeMark then .error .malformed
  else
    let (negative, body) := splitSign cs
    let signed := body.length != cs.length
    match decimal? signed negative body with
    | some found => return .float (← found)
    | none =>
      match integer? body with
      | some found => do
        let n : Int := ← found
        return .int (if negative then -n else n)
      | none => .ok (.text word)

end ReducerAtlas.Yaml
