/-!
# Decimals as binary fractions

A positive decimal is rounded to the nearest binary64 number, a tie going to the even neighbour, in
exact arithmetic.

* `roundDiv`: a quotient rounded to the nearest natural number.
* `bitsOfRatio`: the binary64 bits of a positive ratio; `toFloat`: a signed decimal as a number.
-/

namespace ReducerAtlas.Decimal

/-- The quotient rounded to the nearest natural number, a tie going to the even one. -/
def roundDiv (num den : Nat) : Nat :=
  let q := num / den
  let twice := 2 * (num % den)
  if twice < den then q
  else if den < twice then q + 1
  else q + q % 2

/-- The ratio times a power of two, as numerator and denominator. -/
def scaleTwo (num den : Nat) (e : Int) : Nat × Nat :=
  if 0 ≤ e then (num <<< e.toNat, den) else (num, den <<< (-e).toNat)

/-- The exponent of the greatest power of two that is not above a positive ratio. -/
def floorLogTwo (num den : Nat) : Int :=
  let guess : Int := (num.log2 : Int) - den.log2
  let (n, d) := scaleTwo num den (-guess)
  if n < d then guess - 1 else guess

/-- The bits of positive infinity. -/
def infinityBits : Nat := 0x7FF0000000000000

/-- The bits of the binary64 number nearest to a positive ratio. -/
def bitsOfRatio (num den : Nat) : Nat :=
  let unit := max (floorLogTwo num den - 52) (-1074)
  let (n, d) := scaleTwo num den (-unit)
  let m := roundDiv n d
  let bits :=
    if m < Nat.pow 2 52 then m
    else if m < Nat.pow 2 53 then (unit + 1075).toNat * Nat.pow 2 52 + (m - Nat.pow 2 52)
    else (unit + 1076).toNat * Nat.pow 2 52
  min bits infinityBits

/-- The binary64 number nearest to `mantissa · 10 ^ exponent`, with the given sign. Exponents far
outside the range of the format are not worked out. -/
def toFloat (negative : Bool) (mantissa : Nat) (exponent : Int) : Float :=
  let places : Int := (Nat.toDigits 10 mantissa).length
  let bits :=
    if mantissa = 0 ∨ exponent + places < -400 then 0
    else if 400 < exponent + places then infinityBits
    else if 0 ≤ exponent then bitsOfRatio (mantissa * Nat.pow 10 exponent.toNat) 1
    else bitsOfRatio mantissa (Nat.pow 10 (-exponent).toNat)
  Float.ofBits ((if negative then Nat.pow 2 63 else 0) + bits).toUInt64

end ReducerAtlas.Decimal
