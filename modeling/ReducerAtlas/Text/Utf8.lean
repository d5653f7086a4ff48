/-!
# UTF-8

Bytes to characters and back. A sequence of bytes that belongs to no character counts once for each
of its longest beginnings of a character.

* `decode`: the characters, with `none` for each malformed stretch.
* `decodeLossy`: malformed stretches become U+FFFD; `decodeStrict?`: none may occur.
* `unifyNewlines`: every line ends in a line feed; `encode`: the bytes of a text.
-/

namespace ReducerAtlas.Text.Utf8

/-- Between characters, or inside one: the bytes still to come, the bounds of the next one, and the
code point so far. -/
inductive State
  | idle
  | inside (more low high acc : Nat)
  deriving DecidableEq, Repr

/-- What a byte at the start of a character gives, and the state after it. -/
def start (b : Nat) : List (Option Char) × State :=
  if b < 0x80 then ([some (Char.ofNat b)], .idle)
  else if 0xC2 ≤ b ∧ b ≤ 0xDF then ([], .inside 1 0x80 0xBF (b - 0xC0))
  else if b = 0xE0 then ([], .inside 2 0xA0 0xBF 0)
  else if b = 0xED then ([], .inside 2 0x80 0x9F 0xD)
  else if 0xE1 ≤ b ∧ b ≤ 0xEF then ([], .inside 2 0x80 0xBF (b - 0xE0))
  else if b = 0xF0 then ([], .inside 3 0x90 0xBF 0)
  else if b = 0xF4 then ([], .inside 3 0x80 0x8F 4)
  else if 0xF1 ≤ b ∧ b ≤ 0xF3 then ([], .inside 3 0x80 0xBF (b - 0xF0))
  else ([none], .idle)

/-- What a byte gives, and the state after it. A byte that cannot continue a character ends the
malformed stretch and starts anew. -/
def step : State → Nat → List (Option Char) × State
  | .idle, b => start b
  | .inside more low high acc, b =>
    if low ≤ b ∧ b ≤ high then
      let acc := acc * 64 + (b - 0x80)
      if more = 1 then ([some (Char.ofNat acc)], .idle)
      else ([], .inside (more - 1) 0x80 0xBF acc)
    else
      let (out, next) := start b
      (none :: out, next)

/-- What the end of the bytes gives: an unfinished character is malformed. -/
def finish : State → List (Option Char)
  | .idle => []
  | .inside .. => [none]

/-- The characters of the bytes from a state on. -/
def decodeFrom : State → List UInt8 → List (Option Char)
  | state, [] => finish state
  | state, b :: bs =>
    let (out, next) := step state b.toNat
    out ++ decodeFrom next bs

/-- The characters of the bytes, with `none` for each malformed stretch. -/
def decode (bytes : List UInt8) : List (Option Char) :=
  decodeFrom .idle bytes

/-- The characters of the bytes, with U+FFFD for each malformed stretch. -/
def decodeLossy (bytes : List UInt8) : List Char :=
  (decode bytes).map (·.getD '\uFFFD')

/-- The characters of the bytes, if none of them is malformed. -/
def decodeStrict? (bytes : List UInt8) : Option (List Char) :=
  (decode bytes).mapM id

/-- Every line end, also a carriage return with or without a line feed, as a line feed. -/
def unifyNewlines : List Char → List Char
  | [] => []
  | '\r' :: '\n' :: cs => '\n' :: unifyNewlines cs
  | c :: cs => (if c = '\r' then '\n' else c) :: unifyNewlines cs

/-- The bytes of a character. -/
def encodeChar (c : Char) : List UInt8 :=
  let n := c.toNat
  if n < 0x80 then [n.toUInt8]
  else if n < 0x800 then [(0xC0 + n / 64).toUInt8, (0x80 + n % 64).toUInt8]
  else if n < 0x10000 then
    [(0xE0 + n / 4096).toUInt8, (0x80 + n / 64 % 64).toUInt8, (0x80 + n % 64).toUInt8]
  else
    [(0xF0 + n / 262144).toUInt8, (0x80 + n / 4096 % 64).toUInt8, (0x80 + n / 64 % 64).toUInt8,
      (0x80 + n % 64).toUInt8]

/-- The bytes of a text. -/
def encode (cs : List Char) : List UInt8 :=
  cs.flatMap encodeChar

end ReducerAtlas.Text.Utf8
