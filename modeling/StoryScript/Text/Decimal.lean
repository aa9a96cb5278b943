/-! Decimal texts of double precision numbers: with a fixed number of places, rounded from the exact
value, and with the fewest digits that read back as the same number. -/
namespace StoryScript.Text

/-- The parts of a double: it is `mantissa * 2 ^ exponent` with its sign, or not finite. -/
inductive Binary where
  | finite (negative : Bool) (mantissa : Nat) (exponent : Int)
  | infinite (negative : Bool)
  | notANumber
  deriving DecidableEq, Repr

namespace Binary

def ofFloat (x : Float) : Binary :=
  let bits := x.toBits.toNat
  let negative := bits / 0x8000000000000000 == 1
  let exponent : Nat := bits / 0x10000000000000 % 2048
  let fraction := bits % 0x10000000000000
  if exponent = 2047 then (if fraction = 0 then .infinite negative else .notANumber)
  else if exponent = 0 then .finite negative fraction (-1074)
  else .finite negative (fraction + 0x10000000000000) ((exponent : Int) - 1075)

end Binary

/-- The quotient rounded to the nearest whole number, a half to the even one. -/
def roundHalfEven (numerator denominator : Nat) : Nat :=
  let quotient := numerator / denominator
  let twice := 2 * (numerator % denominator)
  if twice < denominator then quotient
  else if denominator < twice then quotient + 1
  else quotient + quotient % 2

/-- A fraction equal to `mantissa * 2 ^ exponent`. -/
def asFraction (mantissa : Nat) (exponent : Int) : Nat × Nat :=
  if 0 ≤ exponent then (mantissa * Nat.pow 2 exponent.toNat, 1)
  else (mantissa, Nat.pow 2 (-exponent).toNat)

/-- Decimal digits, padded with zeros in front. -/
def paddedDigits (width n : Nat) : List Char :=
  let digits := Nat.toDigits 10 n
  List.replicate (width - digits.length) '0' ++ digits

/-- The number with the given count of decimal places, rounded from its exact value. -/
def fixedPlaces (places : Nat) (x : Float) : String :=
  match Binary.ofFloat x with
  | .notANumber => "NaN"
  | .infinite negative => if negative then "-inf" else "inf"
  | .finite negative mantissa exponent =>
    let (numerator, denominator) := asFraction mantissa exponent
    let scaled := roundHalfEven (numerator * Nat.pow 10 places) denominator
    let digits := paddedDigits (places + 1) scaled
    let whole := digits.take (digits.length - places)
    let fraction := if places = 0 then [] else '.' :: digits.drop (digits.length - places)
    String.ofList ((if negative then ['-'] else []) ++ whole ++ fraction)

/-- Digits and a power of ten: `digits * 10 ^ power`. -/
structure Scientific where
  digits : Nat
  power : Int
  deriving DecidableEq, Repr

/-- The number of decimal digits before the point; zero or less for a number below one tenth. -/
def magnitude (numerator denominator : Nat) : Nat → Int → Int
  | 0, m => m
  | fuel + 1, m =>
    if denominator ≤ numerator then (Nat.toDigits 10 (numerator / denominator)).length + m
    else magnitude (numerator * 10) denominator fuel (m - 1)

/-- The nearer of a value's two neighbours with the given power of ten that lie between two bounds.
All are given over one denominator. -/
def neighbour? (value low high denominator : Nat) (inclusive : Bool) (power : Int) : Option Nat :=
  let up := if power < 0 then Nat.pow 10 (-power).toNat else 1
  let unit := denominator * (if power < 0 then 1 else Nat.pow 10 power.toNat)
  let value := value * up
  let low := low * up
  let high := high * up
  let floor := value / unit
  let inside (n : Nat) : Bool :=
    if inclusive then low ≤ n * unit && n * unit ≤ high else low < n * unit && n * unit < high
  let below := inside floor
  let above := inside (floor + 1)
  if below && above then
    some (if 2 * (value % unit) < unit then floor
      else if unit < 2 * (value % unit) then floor + 1
      else floor + floor % 2)
  else if below then some floor
  else if above then some (floor + 1)
  else none

/-- The first count of digits, from `count` on, for which a neighbour reads back. -/
def shortestFrom (value low high denominator : Nat) (inclusive : Bool) (digitsBefore : Int) :
    Nat → Nat → Option Scientific
  | 0, _ => none
  | fuel + 1, count =>
    let power := digitsBefore - count
    match neighbour? value low high denominator inclusive power with
    | some digits => some ⟨digits, power⟩
    | none => shortestFrom value low high denominator inclusive digitsBefore fuel (count + 1)

/-- The fewest digits that read back as `mantissa * 2 ^ exponent`, of those the nearest. -/
def shortest (mantissa : Nat) (exponent : Int) : Scientific :=
  let (numerator, denominator) := asFraction (4 * mantissa) (exponent - 2)
  let (gap, _) := asFraction 1 (exponent - 2)
  let below := if mantissa = 0x10000000000000 ∧ -1074 < exponent then 1 else 2
  (shortestFrom numerator (numerator - below * gap) (numerator + 2 * gap) denominator
    (mantissa % 2 == 0) (magnitude numerator denominator 400 0) 17 1).getD ⟨0, 0⟩

def trimZeros (digits : List Char) : List Char := (digits.reverse.dropWhile (· == '0')).reverse

/-- Digits with a point after `before` of them, or in front after zeros, or with an exponent where
that would take more than 16 places before the point or 4 zeros after it. -/
def placePoint (digits : List Char) (before : Int) : List Char :=
  let count : Int := digits.length
  if 0 < before ∧ before ≤ 16 then
    if count ≤ before then
      digits ++ List.replicate (before - count).toNat '0' ++ ['.', '0']
    else digits.take before.toNat ++ '.' :: digits.drop before.toNat
  else if -5 < before ∧ before ≤ 0 then
    '0' :: '.' :: List.replicate (-before).toNat '0' ++ digits
  else
    let exponent := before - 1
    let mark := 'e' :: (if exponent < 0 then ['-'] else []) ++ Nat.toDigits 10 exponent.natAbs
    match digits with
    | first :: second :: rest => first :: '.' :: second :: rest ++ mark
    | _ => digits ++ mark

/-- The shortest text that reads back as the number, always with a fraction or an exponent. -/
def shortestText (x : Float) : String :=
  match Binary.ofFloat x with
  | .notANumber => "null"
  | .infinite _ => "null"
  | .finite negative mantissa exponent =>
    let sign := if negative then ['-'] else []
    if mantissa = 0 then String.ofList (sign ++ ['0', '.', '0'])
    else
      let result := shortest mantissa exponent
      let digits := Nat.toDigits 10 result.digits
      String.ofList (sign ++ placePoint (trimZeros digits) (digits.length + result.power))

end StoryScript.Text
