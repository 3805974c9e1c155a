import ILGraft.Text.Numeral

/-!
# Binary floating-point numbers

Numbers with a 53-bit significand, as sign, significand and exponent. Decimals are rounded to the
nearest number, ties going to the even significand. A number is written with the fewest digits
that read back as it, and of those with the digits nearest to it.
-/

namespace ILGraft

/-- A binary floating-point number of 64 bits. -/
inductive Binary64
  /-- The number `significand * 2 ^ exponent`, or its opposite. -/
  | finite (negative : Bool) (significand : Nat) (exponent : Int)
  /-- An infinity. -/
  | infinite (negative : Bool)
  /-- The result that is no number. -/
  | notANumber
deriving Repr, DecidableEq

namespace Binary64

/-- The exponent of the smallest numbers. -/
def leastExponent : Int := -1074

/-- The exponent of the greatest numbers. -/
def greatestExponent : Int := 971

/-- The smallest significand of full precision. -/
def leastFull : Nat := 0x10000000000000

/-- The power of a base with a positive exponent, and one for a negative exponent. -/
def power (base : Nat) (exponent : Int) : Nat :=
  Nat.pow base exponent.toNat

/-- The nearest natural number to a quotient; a tie goes to the even one. -/
def roundQuotient (numerator denominator : Nat) : Nat :=
  let quotient := numerator / denominator
  let remainder := numerator % denominator
  if 2 * remainder < denominator then quotient
  else if denominator < 2 * remainder then quotient + 1
  else quotient + quotient % 2

/-- The significand and the exponent of the number nearest to a positive quotient, without a
bound on the exponent. -/
def nearest (numerator denominator : Nat) : Nat × Int :=
  let guess : Int := (numerator.log2 : Int) - (denominator.log2 : Int) - 53
  let scaled (exponent : Int) : Nat × Nat :=
    (numerator * power 2 (-exponent), denominator * power 2 exponent)
  let whole := (scaled guess).1 / (scaled guess).2
  let exponent := max (if 2 * leastFull ≤ whole then guess + 1 else guess) leastExponent
  let significand := roundQuotient (scaled exponent).1 (scaled exponent).2
  if significand = 2 * leastFull then (leastFull, exponent + 1) else (significand, exponent)

/-- The number nearest to `digits * 10 ^ exponent`. Decimals far out of range are not computed. -/
def ofDecimal (negative : Bool) (digits : Nat) (exponent : Int) : Binary64 :=
  let position := ((Nat.toDigits 10 digits).length : Int) + exponent
  if digits = 0 ∨ position < -400 then .finite negative 0 0
  else if 400 < position then .infinite negative
  else
    let found := nearest (digits * power 10 exponent) (power 10 (-exponent))
    if greatestExponent < found.2 then .infinite negative
    else .finite negative found.1 found.2

/-- A multiple of a quarter of the last place of a number, as a quotient. -/
def quarters (exponent : Int) (count : Nat) : Nat × Nat :=
  (count * power 2 (exponent - 2), power 2 (2 - exponent))

/-- Whether `digits * 10 ^ scale` reads back as a number: it lies between the midpoints to the
neighbours, or on one of them if the significand is even. -/
def readsBack (significand : Nat) (exponent : Int) (digits : Nat) (scale : Int) : Bool :=
  let below := if significand = leastFull ∧ leastExponent < exponent then 1 else 2
  let low := quarters exponent (4 * significand - below)
  let high := quarters exponent (4 * significand + 2)
  let value := (digits * power 10 scale, power 10 (-scale))
  let lowSide := low.1 * value.2
  let highSide := high.1 * value.2
  let lowValue := value.1 * low.2
  let highValue := value.1 * high.2
  if significand % 2 = 0 then lowSide ≤ lowValue && highValue ≤ highSide
  else lowSide < lowValue && highValue < highSide

/-- How many digits a positive number has in front of its decimal point; not positive if it has
zeros behind the point. -/
def pointPosition (significand : Nat) (exponent : Int) : Int :=
  let whole := significand * power 2 exponent * power 10 400 / power 2 (-exponent)
  ((Nat.toDigits 10 whole).length : Int) - 400

/-- The multiple of a power of ten that stands for a number with so many digits: of the two
neighbours of the number that read back as it, the nearer one. -/
def neighbour? (significand : Nat) (exponent scale : Int) : Option Nat :=
  let value := quarters exponent (4 * significand)
  let numerator := value.1 * power 10 (-scale)
  let denominator := value.2 * power 10 scale
  let below := numerator / denominator
  let twice := 2 * (numerator % denominator)
  let fits (digits : Nat) : Bool := readsBack significand exponent digits scale
  match fits below, fits (below + 1) with
  | false, false => none
  | true, false => some below
  | false, true => some (below + 1)
  | true, true =>
    if twice < denominator ∨ (twice = denominator ∧ below % 2 = 0) then some below
    else some (below + 1)

/-- The digits of a positive number and the power of ten they count, with as few digits as
possible. -/
def shortest (significand : Nat) (exponent : Int) : Nat × Int :=
  let position := pointPosition significand exponent
  let found? := (List.range 17).findSome? fun (fewer : Nat) =>
    let scale := position - (fewer + 1 : Nat)
    (neighbour? significand exponent scale).map fun digits => (digits, scale)
  found?.getD (significand, exponent)

/-- The digits without the zeros at their end. -/
def withoutTrailingZeros (digits : List Char) : List Char :=
  (digits.reverse.dropWhile (· == '0')).reverse

/-- The exponent of a number in exponent notation: its sign and at least two digits. -/
def exponentText (exponent : Int) : List Char :=
  'e' :: (if exponent < 0 then '-' else '+') :: (Text.zeroPadded 2 exponent.natAbs).toList

/-- A number from its digits and the place of its decimal point. Positional notation serves
from 0.0001 up to below 10 ^ 16. -/
def notate (digits : List Char) (position : Int) : List Char :=
  let zeros (count : Int) : List Char := List.replicate count.toNat '0'
  if -4 < position ∧ position ≤ 16 then
    if position ≤ 0 then '0' :: '.' :: (zeros (-position) ++ digits)
    else if (digits.length : Int) ≤ position then
      digits ++ zeros (position - digits.length) ++ ['.', '0']
    else digits.take position.toNat ++ '.' :: digits.drop position.toNat
  else
    match digits with
    | first :: second :: rest =>
      first :: '.' :: second :: rest ++ exponentText (position - 1)
    | _ => digits ++ exponentText (position - 1)

/-- The text of a number. -/
def text : Binary64 → String
  | .notANumber => "nan"
  | .infinite negative => if negative then "-inf" else "inf"
  | .finite negative significand exponent =>
    let sign := if negative then "-" else ""
    if significand = 0 then sign ++ "0.0"
    else
      let found := shortest significand exponent
      let digits := Nat.toDigits 10 found.1
      sign ++ String.ofList
        (notate (withoutTrailingZeros digits) (digits.length + found.2))

/-- Whether a number is a zero. -/
def isZero : Binary64 → Bool
  | .finite _ 0 _ => true
  | _ => false

end Binary64

end ILGraft
