import ReducerAtlas.Text.Printable

/-!
# Quoted text

A text between quotes, with everything that would not print written as an escape. Apostrophes are
the quotes, unless the text holds an apostrophe and no double quote.

* `quoted`: the text between quotes; `escapeChar`: one character of it.
-/

namespace ReducerAtlas.Text

/-- A hexadecimal numeral of at least the given number of digits. -/
def hexPadded (width n : Nat) : List Char :=
  let digits := Nat.toDigits 16 n
  List.replicate (width - digits.length) '0' ++ digits

/-- A character between the given quotes: backslash and quote are marked, line ends and tabs are
named, other unprintable characters become hexadecimal escapes of fitting width. -/
def escapeChar (quote c : Char) : List Char :=
  if c = quote ∨ c = '\\' then ['\\', c]
  else if c = '\n' then ['\\', 'n']
  else if c = '\r' then ['\\', 'r']
  else if c = '\t' then ['\\', 't']
  else if isPrintable c then [c]
  else if c.toNat ≤ 0xFF then '\\' :: 'x' :: hexPadded 2 c.toNat
  else if c.toNat ≤ 0xFFFF then '\\' :: 'u' :: hexPadded 4 c.toNat
  else '\\' :: 'U' :: hexPadded 8 c.toNat

/-- The quote for a text: a double quote if only that avoids marking. -/
def quoteFor (cs : List Char) : Char :=
  if cs.contains '\x27' && !cs.contains '\x22' then '\x22' else '\x27'

/-- The text between quotes. -/
def quoted (s : String) : String :=
  let q := quoteFor s.toList
  String.ofList (q :: s.toList.flatMap (escapeChar q) ++ [q])

end ReducerAtlas.Text
