import StoryScript.Text.Line

/-! The notation of story scripts, line by line:

* `scene name` defines a scene,
* `choice "text" -> name` offers a way to one,
* `set name = value` assigns a variable,
* a name between braces shows a variable,
* `if`, `elif` and `else` open conditional blocks,
* `//` and `#` start a comment line.

These are marks on single lines and not a grammar. White space and word ends are those of Unicode,
names are ASCII. -/
namespace StoryScript.Script

/-- What a pair of braces encloses. -/
inductive BlockKind where
  | scene | conditional | other
  deriving DecidableEq, Repr

/-- A name on a line, with the column of its first character. -/
structure Mark where
  name : String
  column : Nat
  deriving DecidableEq, Repr

def skipWhite (text : List Char) : List Char := text.dropWhile Unicode.isWhite

def isNameStart (c : Char) : Bool := ('A' ≤ c && c ≤ 'Z') || ('a' ≤ c && c ≤ 'z') || c == '_'

def isNameChar (c : Char) : Bool := isNameStart c || ('0' ≤ c && c ≤ '9')

def afterWord? : List Char → List Char → Option (List Char)
  | [], text => some text
  | _ :: _, [] => none
  | w :: word, c :: text => if w = c then afterWord? word text else none

def afterWhite? : List Char → Option (List Char)
  | c :: rest => if Unicode.isWhite c then some (skipWhite rest) else none
  | [] => none

/-- The longest name that the text starts with, and what follows it. -/
def name? : List Char → Option (List Char × List Char)
  | c :: rest =>
    if isNameStart c then some (c :: rest.takeWhile isNameChar, rest.dropWhile isNameChar)
    else none
  | [] => none

/-- No word goes on at the start of the text. -/
def atWordEnd : List Char → Bool
  | c :: _ => !Unicode.isWord c
  | [] => true

/-- The column at which a final part of a line starts. -/
def columnOf (line rest : List Char) : Nat := line.length - rest.length + 1

def markAt? (line rest : List Char) : Option Mark :=
  (name? rest).map fun (name, _) => ⟨String.ofList name, columnOf line rest⟩

def isCommentChars (line : List Char) : Bool :=
  match skipWhite line with
  | '/' :: '/' :: _ => true
  | '#' :: _ => true
  | _ => false

def isComment (line : String) : Bool := isCommentChars line.toList

def sceneDefinition? (line : String) : Option Mark := do
  let line := line.toList
  let rest ← afterWord? ['s', 'c', 'e', 'n', 'e'] (skipWhite line)
  markAt? line (← afterWhite? rest)

def isChoice (line : String) : Bool :=
  match afterWord? ['c', 'h', 'o', 'i', 'c', 'e'] (skipWhite line.toList) with
  | some rest => atWordEnd rest
  | none => false

/-- Where the name after the first arrow that has one starts. -/
def afterArrow? : List Char → Option (List Char)
  | [] => none
  | c :: rest =>
    match afterWord? ['-', '>'] (c :: rest) with
    | some after => if (name? (skipWhite after)).isSome then some (skipWhite after)
      else afterArrow? rest
    | none => afterArrow? rest

/-- The scene that a choice leads to: the first arrow followed by a name counts. -/
def choiceTarget? (line : String) : Option Mark :=
  if isChoice line then (afterArrow? line.toList).bind (markAt? line.toList) else none

def assignment? (line : String) : Option Mark := do
  let line := line.toList
  let start ← afterWhite? (← afterWord? ['s', 'e', 't'] (skipWhite line))
  let (_, rest) ← name? start
  match skipWhite rest with
  | '=' :: _ => markAt? line start
  | _ => none

/-- The name of a marker after its opening brace, and what follows the closing one. -/
def marker? (text : List Char) : Option (List Char × List Char) :=
  match name? (skipWhite text) with
  | some (name, rest) =>
    match skipWhite rest with
    | '}' :: after => some (name, after)
    | _ => none
  | none => none

/-- A line after its white space, a closing brace and more white space. -/
def afterClosing (line : List Char) : List Char :=
  match skipWhite line with
  | '}' :: rest => skipWhite rest
  | rest => rest

/-- The text starts with one of the words, and the word ends there. -/
def startsWithWord (words : List (List Char)) (text : List Char) : Bool :=
  words.any fun word => (afterWord? word text).any atWordEnd

def opensConditional (line : String) : Bool :=
  startsWithWord [['i', 'f'], ['e', 'l', 'i', 'f'], ['e', 'l', 's', 'e']] (afterClosing line.toList)

/-- The line starts a branch with a condition, possibly after `else`. -/
def isConditionalBranch (line : String) : Bool :=
  let start := afterClosing line.toList
  let start := ((afterWord? ['e', 'l', 's', 'e'] start).bind afterWhite?).getD start
  startsWithWord [['i', 'f'], ['e', 'l', 'i', 'f']] start

/-- The kind of the first block that a line opens. -/
def openingKind (line : String) : BlockKind :=
  if opensConditional line then .conditional
  else if (sceneDefinition? line).isSome then .scene
  else .other

/-- What follows the quote that closes a string, after the opening one. A backslash takes the next
character with it, which may be anything but a newline. -/
def afterString? : List Char → Option (List Char)
  | [] => none
  | '"' :: rest => some rest
  | '\\' :: c :: rest => if c = '\n' then none else afterString? rest
  | c :: rest => if c = '\\' then none else afterString? rest

theorem afterString?_length {text rest : List Char} (h : afterString? text = some rest) :
    rest.length < text.length := by
  fun_induction afterString? text <;> simp_all <;> omega

def removeStrings : List Char → List Char
  | [] => []
  | c :: rest =>
    match h : if c = '"' then afterString? rest else none with
    | some after =>
      have found : afterString? rest = some after := by
        split at h
        · exact h
        · simp at h
      have := afterString?_length found
      removeStrings after
    | none => c :: removeStrings rest
termination_by text => text.length

theorem length_skipWhite_le (text : List Char) : (skipWhite text).length ≤ text.length :=
  (List.dropWhile_sublist _).length_le

theorem name?_length {text name rest : List Char} (h : name? text = some (name, rest)) :
    rest.length < text.length := by
  cases text with
  | nil => simp [name?] at h
  | cons c tail =>
    simp only [name?] at h
    split at h
    · have shorter := (List.dropWhile_sublist isNameChar : List.Sublist _ tail).length_le
      simp only [Option.some.injEq, Prod.mk.injEq] at h
      rw [← h.2, List.length_cons]
      exact Nat.lt_succ_of_le shorter
    · simp at h

theorem marker?_length {text name rest : List Char} (h : marker? text = some (name, rest)) :
    rest.length < text.length := by
  unfold marker? at h
  split at h
  · next found rest' start =>
    have first := name?_length start
    have second := length_skipWhite_le text
    have third := length_skipWhite_le rest'
    split at h
    · next after closing =>
      rw [closing] at third
      simp_all
      omega
    · simp at h
  · simp at h

/-- The names shown on a final part of a line; the search goes on behind each marker. -/
def interpolationsFrom (line : List Char) : List Char → List Mark
  | [] => []
  | c :: rest =>
    match h : if c = '{' then marker? rest else none with
    | some (name, after) =>
      have found : marker? rest = some (name, after) := by
        split at h
        · exact h
        · simp at h
      have := marker?_length found
      ⟨String.ofList name, columnOf line (skipWhite rest)⟩ :: interpolationsFrom line after
    | none => interpolationsFrom line rest
termination_by text => text.length

def interpolations (line : String) : List Mark := interpolationsFrom line.toList line.toList

def removeMarkers : List Char → List Char
  | [] => []
  | c :: rest =>
    match h : if c = '{' then marker? rest else none with
    | some (name, after) =>
      have found : marker? rest = some (name, after) := by
        split at h
        · exact h
        · simp at h
      have := marker?_length found
      removeMarkers after
    | none => c :: removeMarkers rest
termination_by text => text.length

/-- A line without strings and without markers, so that only the braces of blocks are left. -/
def structuralText (line : String) : List Char := removeMarkers (removeStrings line.toList)

end StoryScript.Script
