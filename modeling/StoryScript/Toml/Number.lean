import StoryScript.Toml.Text
import StoryScript.Toml.Value

/-! Numbers, dates and times of a TOML document. -/
namespace StoryScript.Toml

open Text (isDigit valueIn)

/-- Digits, after the first one; a single underscore may stand before each. -/
def moreDigits (isDigit : Char → Bool) : List Char → List Char × List Char
  | [] => ([], [])
  | '_' :: c :: rest =>
    if isDigit c then
      let (digits, rest) := moreDigits isDigit rest
      (c :: digits, rest)
    else ([], '_' :: c :: rest)
  | c :: rest =>
    if isDigit c then
      let (digits, rest) := moreDigits isDigit rest
      (c :: digits, rest)
    else ([], c :: rest)

def digits? (isDigit : Char → Bool) : List Char → Option (List Char × List Char)
  | [] => none
  | c :: rest =>
    if isDigit c then
      let (digits, rest) := moreDigits isDigit rest
      some (c :: digits, rest)
    else none

def sign : List Char → Bool × List Char
  | '-' :: rest => (true, rest)
  | '+' :: rest => (false, rest)
  | text => (false, text)

/-- A decimal number without a superfluous zero in front. -/
def wholeDigits? (text : List Char) : Option (List Char × List Char) :=
  match text with
  | '0' :: rest => some (['0'], rest)
  | _ => digits? isDigit text

def ofDigits? (base : Nat) (isDigit : Char → Bool) (text : List Char) :
    Option (Toml × List Char) := do
  let (digits, rest) ← digits? isDigit text
  let n := valueIn base digits
  if n < 0x8000000000000000 then return (.int n, rest) else none

def int? (text : List Char) : Option (Toml × List Char) :=
  match text with
  | '0' :: 'x' :: rest => ofDigits? 16 Text.isHexDigit rest
  | '0' :: 'o' :: rest => ofDigits? 8 (fun c => '0' ≤ c ∧ c ≤ '7') rest
  | '0' :: 'b' :: rest => ofDigits? 2 (fun c => c == '0' || c == '1') rest
  | _ => do
    let (negative, text) := sign text
    let (digits, rest) ← wholeDigits? text
    let n := valueIn 10 digits
    if negative then
      if n ≤ 0x8000000000000000 then return (.int (-(n : Int)), rest) else none
    else if n < 0x8000000000000000 then return (.int n, rest)
    else none

def fraction? : List Char → Option (List Char × List Char)
  | '.' :: rest => digits? isDigit rest
  | _ => none

def exponent? : List Char → Option (Int × List Char)
  | c :: rest =>
    if c = 'e' ∨ c = 'E' then do
      let (negative, rest) := sign rest
      let (digits, rest) ← digits? isDigit rest
      let n : Int := valueIn 10 digits
      return (if negative then -n else n, rest)
    else none
  | [] => none

def infinity : Float := 1.0 / 0.0

/-- The double nearest to `digits * 10 ^ exponent`. -/
def nearest (digits : List Char) (exponent : Int) : Float :=
  let significand := valueIn 10 digits
  if significand = 0 ∨ digits.length + exponent < -400 then 0.0
  else if 400 + digits.length < exponent then infinity
  else if exponent < 0 then Float.ofScientific significand true (-exponent).toNat
  else Float.ofScientific significand false exponent.toNat

/-- A decimal number with a fraction, an exponent or both. A positive number must not be too large
for a double. -/
def decimal? (text : List Char) : Option (Toml × List Char) := do
  let (negative, text) := sign text
  let (whole, text) ← wholeDigits? text
  let (fraction, text) ← match fraction? text with
    | some (fraction, rest) => some (fraction, rest)
    | none => (exponent? text).map fun _ => ([], text)
  let (exponent, rest) := (exponent? text).getD (0, text)
  let value := nearest (whole ++ fraction) (exponent - fraction.length)
  if negative then return (.float (-value), rest)
  else if value == infinity then none
  else return (.float value, rest)

/-- The words for infinity and for what is not a number, with or without a sign. -/
def special? (text : List Char) : Option (Toml × List Char) :=
  let (negative, text) := sign text
  match text with
  | 'i' :: 'n' :: 'f' :: rest => some (.float (if negative then -infinity else infinity), rest)
  | 'n' :: 'a' :: 'n' :: rest => some (.float (0.0 / 0.0), rest)
  | _ => none

/-- A number of exactly `count` digits that lies between two bounds. -/
def bounded? (count low high : Nat) (text : List Char) : Option (Nat × List Char) :=
  let digits := text.take count
  let n := valueIn 10 digits
  if digits.length = count ∧ digits.all isDigit ∧ low ≤ n ∧ n ≤ high then
    some (n, text.drop count)
  else none

def mark? (mark : Char) : List Char → Option (List Char)
  | c :: rest => if c = mark then some rest else none
  | [] => none

def daysIn (year month : Nat) : Nat :=
  if month = 2 then
    if year % 4 = 0 ∧ (year % 100 ≠ 0 ∨ year % 400 = 0) then 29 else 28
  else if month ∈ [4, 6, 9, 11] then 30
  else 31

/-- What follows a date. -/
def date? (text : List Char) : Option (List Char) := do
  let (year, text) ← bounded? 4 0 9999 text
  let (month, text) ← bounded? 2 1 12 (← mark? '-' text)
  let (_, text) ← bounded? 2 1 (daysIn year month) (← mark? '-' text)
  return text

def clock? (text : List Char) : Option (List Char) := do
  let (_, text) ← bounded? 2 0 23 text
  let (_, text) ← bounded? 2 0 59 (← mark? ':' text)
  let (_, text) ← bounded? 2 0 60 (← mark? ':' text)
  match text with
  | '.' :: c :: rest => if c.isDigit then return rest.dropWhile isDigit else return text
  | _ => return text

def zone? : List Char → Option (List Char)
  | [] => none
  | c :: rest =>
    if c = 'Z' ∨ c = 'z' then some rest
    else if c = '+' ∨ c = '-' then do
      let (_, text) ← bounded? 2 0 23 rest
      let (_, text) ← bounded? 2 0 59 (← mark? ':' text)
      return text
    else none

/-- What follows the time of day, and perhaps the zone, that may stand behind a date. -/
def clockAfterDate (text : List Char) : List Char :=
  match text with
  | c :: rest =>
    if c = 'T' ∨ c = 't' ∨ c = ' ' then
      match clock? rest with
      | some rest => (zone? rest).getD rest
      | none => text
    else text
  | [] => text

def time? (text : List Char) : Option (Toml × List Char) :=
  match date? text with
  | some rest => some (.time, clockAfterDate rest)
  | none => (clock? text).map fun rest => (.time, rest)

def number? (text : List Char) : Option (Toml × List Char) :=
  time? text <|> decimal? text <|> special? text <|> int? text

end StoryScript.Toml
