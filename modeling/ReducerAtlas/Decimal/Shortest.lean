import ReducerAtlas.Decimal.Binary

/-!
# The shortest decimal of a binary fraction

Among the decimals that round to a given binary64 number, the one with the fewest digits, and of
those the nearest.

* `Parts`: a finite number as `mantissa · 2 ^ exponent`; `shortest`: its digits and their place.
* `render`: the text of a number, positional unless it is very large or very small.
-/

namespace ReducerAtlas.Decimal

/-- A finite positive number `mantissa · 2 ^ exponent`. -/
structure Parts where
  mantissa : Nat
  exponent : Int
  deriving DecidableEq, Repr

/-- The parts of a number given by its bits without the sign. -/
def Parts.ofBits (bits : Nat) : Parts :=
  let field : Nat := bits / Nat.pow 2 52
  let fraction : Nat := bits % Nat.pow 2 52
  if field = 0 then ⟨fraction, -1074⟩ else ⟨Nat.pow 2 52 + fraction, (field : Int) - 1075⟩

/-- The number is a given natural number. -/
def Parts.isNat (p : Parts) (n : Nat) : Bool :=
  if 0 ≤ p.exponent then p.mantissa <<< p.exponent.toNat == n
  else p.mantissa == n <<< (-p.exponent).toNat

/-- Four times the number, its lower and its upper rounding bound over one common denominator:
every real between the bounds rounds to the number. -/
def Parts.bounds (p : Parts) : Nat × Nat × Nat × Nat :=
  let m := p.mantissa
  let low := if m = Nat.pow 2 52 ∧ -1074 < p.exponent then 4 * m - 1 else 4 * m - 2
  let (unit, den) := scaleTwo 1 4 p.exponent
  (low * unit, 4 * m * unit, (4 * m + 2) * unit, den)

/-- A decimal `digits · 10 ^ exponent`. -/
structure Digits where
  digits : Nat
  exponent : Int
  deriving DecidableEq, Repr

/-- The ratio over a power of ten, as numerator and denominator. -/
def scaleTen (num den : Nat) (e : Int) : Nat × Nat :=
  if 0 ≤ e then (num, den * Nat.pow 10 e.toNat) else (num * Nat.pow 10 (-e).toNat, den)

/-- The number of digits before the point of a positive ratio; zero or less below one tenth. -/
def magnitude (num den : Nat) : Int :=
  if den ≤ num then (Nat.toDigits 10 (num / den)).length
  else 1 - ((Nat.toDigits 10 (den / num)).length : Int) +
    (if Nat.pow 10 ((Nat.toDigits 10 (den / num)).length - 1) * num = den then 1 else 0)

/-- The nearest of the two neighbours on a decimal grid, if it lies within the rounding bounds, and
otherwise the other one if that does. -/
def onGrid? (p : Parts) (e : Int) : Option Nat :=
  let (low, mid, high, den) := p.bounds
  let (n, d) := scaleTen mid den e
  let below := n / d
  let inside (k : Nat) : Bool :=
    let (ln, ld) := scaleTen low den e
    let (hn, hd) := scaleTen high den e
    if p.mantissa % 2 = 0 then ln ≤ k * ld && k * hd ≤ hn else ln < k * ld && k * hd < hn
  let near := roundDiv n d
  let far := if near = below then below + 1 else below
  if inside near then some near else if inside far then some far else none

/-- The decimal with the fewest digits, from `count` on, that rounds to the number. -/
def shortestFrom (p : Parts) (magnitude : Int) : Nat → Nat → Digits
  | 0, _ => ⟨p.mantissa, p.exponent⟩
  | fuel + 1, count =>
    match onGrid? p (magnitude - count) with
    | some digits => ⟨digits, magnitude - count⟩
    | none => shortestFrom p magnitude fuel (count + 1)

/-- The shortest decimal that rounds to a positive number; seventeen digits always do. -/
def shortest (p : Parts) : Digits :=
  let (_, mid, _, den) := p.bounds
  shortestFrom p (magnitude mid den) 18 1

/-! ## Text -/

/-- The digits without zeros at the end. -/
def stripZeros (cs : List Char) : List Char :=
  (cs.reverse.dropWhile (· == '0')).reverse

/-- Digits with a point among them, at least one digit on each side. -/
def positional (digits : List Char) (point : Int) : List Char :=
  if point ≤ 0 then
    '0' :: '.' :: (List.replicate (-point).toNat '0' ++ digits)
  else
    let whole := point.toNat
    let front := digits.take whole ++ List.replicate (whole - digits.length) '0'
    let back := digits.drop whole
    front ++ '.' :: (if back.isEmpty then ['0'] else back)

/-- Digits with a point after the first and a signed exponent of at least two digits. -/
def scientific (digits : List Char) (point : Int) : List Char :=
  let e := point - 1
  let exponent := Nat.toDigits 10 e.natAbs
  let mantissa :=
    match digits with
    | [] => ['0']
    | [d] => [d]
    | d :: rest => d :: '.' :: rest
  mantissa ++ 'e' :: (if e < 0 then '-' else '+') ::
    (List.replicate (2 - exponent.length) '0' ++ exponent)

/-- A positive number: positional from 0.0001 up to sixteen digits before the point. -/
def renderPositive (p : Parts) : List Char :=
  let d := shortest p
  let all := Nat.toDigits 10 d.digits
  let point : Int := d.exponent + all.length
  let digits := stripZeros all
  if -4 < point ∧ point ≤ 16 then positional digits point else scientific digits point

/-- **The text of a number.** -/
def render (x : Float) : String :=
  let bits := x.toBits.toNat
  let magnitude := bits % Nat.pow 2 63
  let sign := if Nat.pow 2 63 ≤ bits then ['-'] else []
  if infinityBits < magnitude then "nan"
  else
    let body :=
      if magnitude = infinityBits then ['i', 'n', 'f']
      else if magnitude = 0 then ['0', '.', '0']
      else renderPositive (Parts.ofBits magnitude)
    String.ofList (sign ++ body)

/-- The number is a given integer, without rounding either. -/
def isInt (x : Float) (n : Int) : Bool :=
  x.isFinite && decide (x < 0.0) == decide (n < 0) &&
    (Parts.ofBits x.abs.toBits.toNat).isNat n.natAbs

end ReducerAtlas.Decimal
