import StoryScript.Text.Decimal

/-! JSON values and their texts. Numbers are whole numbers of 64 bits or doubles; the fields of an
object keep their order. -/
namespace StoryScript

inductive Json where
  | null
  | bool (value : Bool)
  | int (value : Int)
  | float (value : Float)
  | string (value : String)
  | array (items : List Json)
  | object (fields : List (String × Json))

namespace Json

def ofNat (n : Nat) : Json := .int n

def ofOption {α : Type} (encode : α → Json) : Option α → Json
  | none => .null
  | some value => encode value

def ofList {α : Type} (encode : α → Json) (values : List α) : Json := .array (values.map encode)

def field? (name : String) : Json → Option Json
  | .object fields => fields.lookup name
  | _ => none

def hexDigit (n : Nat) : Char := (Nat.toDigits 16 n).headD '0'

/-- A character inside quotes: quotes, backslashes and control characters are escaped. -/
def escapeChar (c : Char) : List Char :=
  if c = '"' then ['\\', '"']
  else if c = '\\' then ['\\', '\\']
  else if c = '\n' then ['\\', 'n']
  else if c = '\r' then ['\\', 'r']
  else if c = '\t' then ['\\', 't']
  else if c = '\x08' then ['\\', 'b']
  else if c = '\x0c' then ['\\', 'f']
  else if c.toNat < 0x20 then
    ['\\', 'u', '0', '0', hexDigit (c.toNat / 16), hexDigit (c.toNat % 16)]
  else [c]

def quote (text : String) : String :=
  String.ofList ('"' :: text.toList.flatMap escapeChar ++ ['"'])

def intText (n : Int) : String :=
  String.ofList ((if n < 0 then ['-'] else []) ++ Nat.toDigits 10 n.natAbs)

def scalarText : Json → String
  | .null => "null"
  | .bool value => if value then "true" else "false"
  | .int value => intText value
  | .float value => Text.shortestText value
  | .string value => quote value
  | .array _ => "[]"
  | .object _ => "\x7b\x7d"

mutual

def compact : Json → String
  | .array items => "[" ++ ",".intercalate (compactAll items) ++ "]"
  | .object fields => "\x7b" ++ ",".intercalate (compactFields fields) ++ "\x7d"
  | scalar => scalarText scalar

def compactAll : List Json → List String
  | [] => []
  | item :: rest => compact item :: compactAll rest

def compactFields : List (String × Json) → List String
  | [] => []
  | (name, value) :: rest => (quote name ++ ":" ++ compact value) :: compactFields rest

end

def indent (depth : Nat) : String := String.ofList (List.replicate (2 * depth) ' ')

def layOut (opening closing : String) (depth : Nat) (parts : List String) : String :=
  if parts.isEmpty then opening ++ closing
  else
    opening ++ "\n" ++ ",\n".intercalate (parts.map (indent (depth + 1) ++ ·)) ++ "\n" ++
      indent depth ++ closing

mutual

/-- The text of a value on several lines, its parts indented by two spaces more. -/
def pretty (depth : Nat) : Json → String
  | .array items => layOut "[" "]" depth (prettyAll (depth + 1) items)
  | .object fields => layOut "\x7b" "\x7d" depth (prettyFields (depth + 1) fields)
  | scalar => scalarText scalar

def prettyAll (depth : Nat) : List Json → List String
  | [] => []
  | item :: rest => pretty depth item :: prettyAll depth rest

def prettyFields (depth : Nat) : List (String × Json) → List String
  | [] => []
  | (name, value) :: rest =>
    (quote name ++ ": " ++ pretty depth value) :: prettyFields depth rest

end

/-! Reading values out of JSON; `none` for a value of another form. -/

def bool? : Json → Option Bool
  | .bool value => some value
  | _ => none

def string? : Json → Option String
  | .string value => some value
  | _ => none

/-- A whole number from 0 up to below 2^64. -/
def nat? : Json → Option Nat
  | .int (.ofNat n) => if n < 0x10000000000000000 then some n else none
  | _ => none

def int? : Json → Option Int
  | .int value => some value
  | _ => none

def float? : Json → Option Float
  | .float value => some value
  | .int value => some (Float.ofInt value)
  | _ => none

def list? {α : Type} (decode : Json → Option α) : Json → Option (List α)
  | .array items => items.mapM decode
  | _ => none

/-- Absent and null both stand for no value. -/
def optional? {α : Type} (decode : Json → Option α) : Option Json → Option (Option α)
  | none => some none
  | some .null => some none
  | some value => (decode value).map some

def required? {α : Type} (decode : Json → Option α) (name : String) (json : Json) : Option α :=
  (json.field? name).bind decode

def defaulted? {α : Type} (decode : Json → Option α) (otherwise : α) (name : String)
    (json : Json) : Option α :=
  match json.field? name with
  | none => some otherwise
  | some value => decode value

/-- A record as an object. A list gives its values in the order of the names; there the ones after
the first `least` can be left out. -/
def record? (names : List String) (least : Nat) : Json → Option Json
  | .object fields => some (.object fields)
  | .array items =>
    if least ≤ items.length ∧ items.length ≤ names.length then
      some (.object (names.zip items))
    else none
  | _ => none

end Json

end StoryScript
