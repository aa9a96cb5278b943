import StoryScript.Json.Value
import StoryScript.Text.Digits

/-! Reading JSON text. -/
namespace StoryScript.Json

def skip (text : List Char) : List Char :=
  text.dropWhile fun c => c == ' ' || c == '\n' || c == '\r' || c == '\t'

/-- Four hexadecimal digits. -/
def unit? (text : List Char) : Option (Nat × List Char) :=
  let digits := text.take 4
  if digits.length = 4 ∧ digits.all Text.isHexDigit then
    some (Text.valueIn 16 digits, text.drop 4)
  else none

/-- The character of a `\u` escape; beyond the first plane two escapes make one character. -/
def unicodeEscape? (text : List Char) : Option (Char × List Char) := do
  let (high, rest) ← unit? text
  if high < 0xD800 ∨ 0xDFFF < high then return (Char.ofNat high, rest)
  else if 0xDC00 ≤ high then none
  else match rest with
    | '\\' :: 'u' :: rest =>
      let (low, rest) ← unit? rest
      if 0xDC00 ≤ low ∧ low ≤ 0xDFFF then
        return (Char.ofNat (0x10000 + (high - 0xD800) * 0x400 + (low - 0xDC00)), rest)
      else none
    | _ => none

def simpleEscape? : Char → Option Char
  | '"' => some '"'
  | '\\' => some '\\'
  | '/' => some '/'
  | 'b' => some '\x08'
  | 'f' => some '\x0c'
  | 'n' => some '\n'
  | 'r' => some '\r'
  | 't' => some '\t'
  | _ => none

/-- The rest of a string after its opening quote; `read` holds what was read, the last first. -/
def afterQuote? (read : List Char) : Nat → List Char → Option (String × List Char)
  | 0, _ => none
  | fuel + 1, text =>
    match text with
    | '"' :: rest => some (String.ofList read.reverse, rest)
    | '\\' :: 'u' :: rest => do
      let (c, rest) ← unicodeEscape? rest
      afterQuote? (c :: read) fuel rest
    | '\\' :: c :: rest => do afterQuote? ((← simpleEscape? c) :: read) fuel rest
    | c :: rest => if c.toNat < 0x20 then none else afterQuote? (c :: read) fuel rest
    | [] => none

def digits (text : List Char) : List Char × List Char := text.span Text.isDigit

/-- `significand * 10 ^ exponent`, by multiplying or dividing doubles. -/
def scale (significand : Float) (exponent : Int) : Float :=
  if 0 ≤ exponent then significand * Float.ofScientific 1 false exponent.toNat
  else if exponent < -308 then
    significand / Float.ofScientific 1 false 308 /
      Float.ofScientific 1 false (-exponent - 308).toNat
  else significand / Float.ofScientific 1 false (-exponent).toNat

/-- A number: whole numbers that fit in 64 bits stay whole, all others become doubles. -/
def number? (text : List Char) : Option (Json × List Char) := do
  let (negative, text) := match text with
    | '-' :: rest => (true, rest)
    | _ => (false, text)
  let (whole, text) := digits text
  if whole.isEmpty ∨ (whole.length ≠ 1 ∧ whole.head? = some '0') then none
  let (fraction, text) ← match text with
    | '.' :: rest =>
      let (fraction, rest) := digits rest
      if fraction.isEmpty then none else some (some fraction, rest)
    | _ => some (none, text)
  let (exponent, text) ← match text with
    | c :: rest =>
      if c = 'e' ∨ c = 'E' then
        let (minus, rest) := match rest with
          | '-' :: rest => (true, rest)
          | '+' :: rest => (false, rest)
          | _ => (false, rest)
        let (power, rest) := digits rest
        if power.isEmpty then none
        else
          let power : Int := Text.valueIn 10 power
          some (some (if minus then -power else power), rest)
      else some (none, text)
    | [] => some (none, text)
  let sign (x : Float) : Float := if negative then -x else x
  let n := Text.valueIn 10 whole
  if fraction.isNone ∧ exponent.isNone then
    if !negative ∧ n < 0x10000000000000000 then return (.int n, text)
    else if negative ∧ 0 < n ∧ n ≤ 0x8000000000000000 then return (.int (-n), text)
    else return (.float (sign (Float.ofNat n)), text)
  else
    let fraction := fraction.getD []
    let significand := Text.valueIn 10 (whole ++ fraction)
    return (.float (sign (scale (Float.ofNat significand)
      (exponent.getD 0 - fraction.length))), text)

def word? (word : String) (value : Json) (text : List Char) : Option (Json × List Char) :=
  if word.toList.isPrefixOf text then some (value, text.drop word.length) else none

mutual

def value? : Nat → List Char → Option (Json × List Char)
  | 0, _ => none
  | fuel + 1, text =>
    match skip text with
    | '"' :: rest => (afterQuote? [] (rest.length + 1) rest).map fun (s, rest) => (.string s, rest)
    | '[' :: rest =>
      match skip rest with
      | ']' :: rest => some (.array [], rest)
      | rest => items? [] fuel rest
    | '{' :: rest =>
      match skip rest with
      | '}' :: rest => some (.object [], rest)
      | rest => fields? [] fuel rest
    | 't' :: rest => word? "true" (.bool true) ('t' :: rest)
    | 'f' :: rest => word? "false" (.bool false) ('f' :: rest)
    | 'n' :: rest => word? "null" .null ('n' :: rest)
    | rest => number? rest

def items? (read : List Json) : Nat → List Char → Option (Json × List Char)
  | 0, _ => none
  | fuel + 1, text => do
    let (item, rest) ← value? fuel text
    match skip rest with
    | ',' :: rest => items? (item :: read) fuel rest
    | ']' :: rest => some (.array (item :: read).reverse, rest)
    | _ => none

def fields? (read : List (String × Json)) : Nat → List Char → Option (Json × List Char)
  | 0, _ => none
  | fuel + 1, text =>
    match skip text with
    | '"' :: rest => do
      let (name, rest) ← afterQuote? [] (rest.length + 1) rest
      match skip rest with
      | ':' :: rest =>
        let (value, rest) ← value? fuel rest
        match skip rest with
        | ',' :: rest => fields? ((name, value) :: read) fuel rest
        | '}' :: rest => some (.object ((name, value) :: read).reverse, rest)
        | _ => none
      | _ => none
    | _ => none

end

def parse? (text : String) : Option Json :=
  let text := text.toList
  match value? (2 * text.length + 2) text with
  | some (value, rest) => if (skip rest).isEmpty then some value else none
  | none => none

end StoryScript.Json
