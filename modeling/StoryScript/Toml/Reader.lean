import StoryScript.Toml.Number

/-! Reading TOML documents. -/
namespace StoryScript.Toml

def word? (word : String) (value : Toml) (text : List Char) : Option (Toml × List Char) :=
  if word.toList.isPrefixOf text then some (value, text.drop word.length) else none

/-- A value that has no parts. -/
def simpleValue? (text : List Char) : Option (Toml × List Char) :=
  match text with
  | [] => none
  | c :: rest =>
    if c = quotationMark ∨ c = apostrophe then
      (stringBody? c rest).map fun (s, rest) => (.string s, rest)
    else word? "true" (.bool true) text <|> word? "false" (.bool false) text <|> number? text

/-- The items of an array from the next one on, each read by `item?`. A comma may also follow the
last one. -/
def items? (item? : List Char → Option (Toml × List Char)) (read : List Toml) :
    Nat → List Char → Option (Toml × List Char)
  | 0, _ => none
  | fuel + 1, text =>
    match skipLayout false text with
    | ']' :: rest => some (.array read.reverse, rest)
    | text => do
      let (item, rest) ← item? text
      match skipLayout false rest with
      | ',' :: rest => items? item? (item :: read) fuel rest
      | ']' :: rest => return (.array (item :: read).reverse, rest)
      | _ => none

structure Setting where
  path : List String
  name : String
  value : Toml

def Setting.addTo (setting : Setting) (s : Section) : Option Section :=
  s.assign setting.path setting.name setting.value

def setting? (item? : List Char → Option (Toml × List Char)) (text : List Char) :
    Option (Setting × List Char) := do
  let ((path, name), rest) ← key? text
  let (value, rest) ← item? (skipBlanks (← mark? '=' rest))
  return (⟨path, name, value⟩, rest)

/-- The settings of a table in braces from the next one on. -/
def settings? (item? : List Char → Option (Toml × List Char)) (s : Section) :
    Nat → List Char → Option (Toml × List Char)
  | 0, _ => none
  | fuel + 1, text => do
    let (setting, rest) ← setting? item? text
    let s ← setting.addTo s
    match skipBlanks rest with
    | ',' :: rest => settings? item? s fuel rest
    | '}' :: rest => return (s.toToml, rest)
    | _ => none

/-- A value whose parts are nested at most `depth` deep. -/
def value? : Nat → List Char → Option (Toml × List Char)
  | 0, text => simpleValue? text
  | depth + 1, text =>
    match text with
    | '[' :: rest => items? (value? depth) [] (rest.length + 1) rest
    | '{' :: rest =>
      match skipBlanks rest with
      | '}' :: rest => some (.table .braced [], rest)
      | rest => settings? (value? depth) ⟨.braced, []⟩ (rest.length + 1) rest
    | _ => simpleValue? text

/-- A document read up to a line end: its tables, and the header that the next lines belong to. -/
structure Document where
  root : Section
  header : List String

namespace Document

def empty : Document := ⟨.root, []⟩

/-- A header after its opening brackets; `opening` adds the table and `closing` is what has to
follow the key. -/
def header? (opening : String → Section → Option Section) (closing : List Char)
    (document : Document) (text : List Char) : Option (Document × List Char) := do
  let ((path, name), rest) ← key? text
  if closing.isPrefixOf rest then
    let rest ← lineEnd? (rest.drop closing.length)
    let root ← document.root.changeAt (opening name) path
    return (⟨root, path ++ [name]⟩, rest)
  else none

/-- A line with a key and a value, for the table of the last header. -/
def keyLine? (document : Document) (text : List Char) : Option (Document × List Char) := do
  let (setting, rest) ← setting? (value? maxDepth) text
  let rest ← lineEnd? rest
  let root ← document.root.changeAt setting.addTo document.header
  return ({ document with root }, rest)

def line? (document : Document) (text : List Char) : Option (Document × List Char) :=
  match skipBlanks text with
  | '[' :: '[' :: rest => document.header? Section.openNext [']', ']'] rest
  | '[' :: rest => document.header? Section.openTable [']'] rest
  | text =>
    match lineEnd? text with
    | some rest => some (document, rest)
    | none => document.keyLine? text

def lines? : Nat → Document → List Char → Option Document
  | 0, _, _ => none
  | fuel + 1, document, text =>
    if text.isEmpty then some document
    else do
      let (document, rest) ← document.line? text
      document.lines? fuel rest

end Document

/-- The table that a document holds; a byte order mark may stand in front. -/
def parse? (text : String) : Option Toml :=
  let text := match text.toList with
    | c :: rest => if c = Char.ofNat 0xFEFF then rest else c :: rest
    | [] => []
  (Document.empty.lines? (text.length + 1) text).map (·.root.toToml)

end StoryScript.Toml
