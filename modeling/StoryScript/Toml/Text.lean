import StoryScript.Text.Digits

/-! The smallest parts of a TOML document: blanks, comments, line ends, strings and keys. A reader
takes the text from its place on and gives what it read and what follows. -/
namespace StoryScript.Toml

/-- Characters that comments and strings may hold: no control characters but the tab. -/
def isPlain (c : Char) : Bool := c == '\t' || (0x20 ≤ c.toNat && c.toNat ≠ 0x7F)

def isBlank (c : Char) : Bool := c == ' ' || c == '\t'

def skipBlanks (text : List Char) : List Char := text.dropWhile isBlank

def skipComment : List Char → List Char
  | '#' :: rest => rest.dropWhile isPlain
  | text => text

def newline? : List Char → Option (List Char)
  | '\n' :: rest => some rest
  | '\r' :: '\n' :: rest => some rest
  | _ => none

/-- The end of a line, or of the document, after blanks and a comment. -/
def lineEnd? (text : List Char) : Option (List Char) :=
  match skipComment (skipBlanks text) with
  | [] => some []
  | rest => newline? rest

/-- What follows blanks, line ends and comments; `commented` within a comment. -/
def skipLayout (commented : Bool) : List Char → List Char
  | [] => []
  | '\n' :: rest => skipLayout false rest
  | '\r' :: '\n' :: rest => skipLayout false rest
  | c :: rest =>
    if commented then if isPlain c then skipLayout true rest else c :: rest
    else if isBlank c then skipLayout false rest
    else if c == '#' then skipLayout true rest
    else c :: rest

/-- The character with the code that the next `count` digits write. -/
def coded? (count : Nat) (text : List Char) : Option (Char × List Char) :=
  let digits := text.take count
  if digits.length = count ∧ digits.all Text.isHexDigit then
    (Text.charOfHex? digits).map fun c => (c, text.drop count)
  else none

/-- An escaped character, after the backslash. -/
def escaped? : List Char → Option (Char × List Char)
  | 'u' :: rest => coded? 4 rest
  | 'U' :: rest => coded? 8 rest
  | 'b' :: rest => some ('\x08', rest)
  | 't' :: rest => some ('\t', rest)
  | 'n' :: rest => some ('\n', rest)
  | 'f' :: rest => some ('\x0c', rest)
  | 'r' :: rest => some ('\r', rest)
  | '"' :: rest => some ('"', rest)
  | '\\' :: rest => some ('\\', rest)
  | _ => none

def quotationMark : Char := '"'

def apostrophe : Char := '\x27'

/-- Only between quotation marks a backslash escapes. -/
def escapes (quote c : Char) : Bool := quote == quotationMark && c == '\\'

/-- The rest of a string on one line; `read` holds what was read, the last first. -/
def shortBody? (quote : Char) (read : List Char) : Nat → List Char → Option (String × List Char)
  | 0, _ => none
  | fuel + 1, text =>
    match text with
    | [] => none
    | c :: rest =>
      if c = quote then some (String.ofList read.reverse, rest)
      else if escapes quote c then do
        let (c, rest) ← escaped? rest
        shortBody? quote (c :: read) fuel rest
      else if isPlain c then shortBody? quote (c :: read) fuel rest
      else none

/-- A backslash at the end of a line joins it to the next text, whatever white space is between. -/
def joinedLine? (text : List Char) : Option (List Char) :=
  (newline? (skipBlanks text)).map (·.dropWhile fun c => isBlank c || c == '\n' || c == '\r')

/-- The rest of a string over several lines. Three quotes end it; up to two more directly before
them belong to it. -/
def longBody? (quote : Char) (read : List Char) : Nat → List Char → Option (String × List Char)
  | 0, _ => none
  | fuel + 1, text =>
    match text with
    | [] => none
    | c :: rest =>
      if c = quote then
        let run := (text.takeWhile (· == quote)).length
        if run < 3 then longBody? quote (List.replicate run quote ++ read) fuel (text.drop run)
        else
          let run := min run 5
          some (String.ofList (List.replicate (run - 3) quote ++ read).reverse, text.drop run)
      else if escapes quote c then
        match joinedLine? rest with
        | some rest => longBody? quote read fuel rest
        | none => do
          let (c, rest) ← escaped? rest
          longBody? quote (c :: read) fuel rest
      else match newline? text with
        | some rest => longBody? quote ('\n' :: read) fuel rest
        | none => if isPlain c then longBody? quote (c :: read) fuel rest else none

/-- A string of any kind after its first quote. A line end directly after three opening quotes is
not part of it. -/
def stringBody? (quote : Char) (text : List Char) : Option (String × List Char) :=
  match text with
  | second :: third :: rest =>
    if second = quote ∧ third = quote then
      let rest := (newline? rest).getD rest
      longBody? quote [] (rest.length + 1) rest
    else shortBody? quote [] (text.length + 1) text
  | _ => shortBody? quote [] (text.length + 1) text

def isBareKey (c : Char) : Bool := c.isAlphanum || c == '_' || c == '-'

def keyPart? (text : List Char) : Option (String × List Char) :=
  match text with
  | [] => none
  | c :: rest =>
    if c = quotationMark ∨ c = apostrophe then shortBody? c [] (rest.length + 1) rest
    else if isBareKey c then
      some (String.ofList (text.takeWhile isBareKey), text.dropWhile isBareKey)
    else none

/-- The parts of a key, the last first, with the dots between them; blanks around each are
allowed. -/
def keyParts? (read : List String) : Nat → List Char → Option (List String × List Char)
  | 0, _ => none
  | fuel + 1, text => do
    let (part, rest) ← keyPart? (skipBlanks text)
    match skipBlanks rest with
    | '.' :: rest => keyParts? (part :: read) fuel rest
    | rest => return (part :: read, rest)

/-- Tables, arrays and keys can be this deep at most. -/
def maxDepth : Nat := 79

/-- A key: the parts before the last, and the last. -/
def key? (text : List Char) : Option ((List String × String) × List Char) := do
  let (parts, rest) ← keyParts? [] (text.length + 1) text
  match parts with
  | last :: before =>
    if before.length < maxDepth then return ((before.reverse, last), rest) else none
  | [] => none

end StoryScript.Toml
