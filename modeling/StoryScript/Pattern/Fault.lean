import StoryScript.Pattern.Span

/-! What can be wrong with a pattern, and how it is reported: the pattern's text with carets under the
offending places, and a description. -/
namespace StoryScript.Pattern

inductive Fault where
  | unclosedGroup | unopenedGroup
  | unclosedClass | reversedRange | rangeNotLiteral | classEscape
  | nothingToRepeat | unclosedCount | countNotDecimal | reversedCount | countTooLarge
  | unfinishedEscape | unknownEscape | backreference | lookAround
  | unfinishedFlags | danglingNegation | duplicateFlag | repeatedNegation | unknownFlag
  | unclosedName | emptyName | nameCharacter | duplicateName
  | notHexadecimal | emptyHexadecimal | notScalar
  | unfinishedBoundary | unclosedBoundary | unknownBoundary
  | propertyBackslash | nestedTooDeep (limit : Nat)
  | unknownProperty | unknownPropertyValue | matchesNonText | needsUnicode
  deriving DecidableEq, Repr

def Fault.description : Fault → String
  | .unclosedGroup => "unclosed group"
  | .unopenedGroup => "unopened group"
  | .unclosedClass => "unclosed character class"
  | .reversedRange => "invalid character class range, the start must be <= the end"
  | .rangeNotLiteral => "invalid range boundary, must be a literal"
  | .classEscape => "invalid escape sequence found in character class"
  | .nothingToRepeat => "repetition operator missing expression"
  | .unclosedCount => "unclosed counted repetition"
  | .countNotDecimal => "repetition quantifier expects a valid decimal"
  | .reversedCount => "invalid repetition count range, the start must be <= the end"
  | .countTooLarge => "decimal literal invalid"
  | .unfinishedEscape => "incomplete escape sequence, reached end of pattern prematurely"
  | .unknownEscape => "unrecognized escape sequence"
  | .backreference => "backreferences are not supported"
  | .lookAround => "look-around, including look-ahead and look-behind, is not supported"
  | .unfinishedFlags => "expected flag but got end of regex"
  | .danglingNegation => "dangling flag negation operator"
  | .duplicateFlag => "duplicate flag"
  | .repeatedNegation => "flag negation operator repeated"
  | .unknownFlag => "unrecognized flag"
  | .unclosedName => "unclosed capture group name"
  | .emptyName => "empty capture group name"
  | .nameCharacter => "invalid capture group character"
  | .duplicateName => "duplicate capture group name"
  | .notHexadecimal => "invalid hexadecimal digit"
  | .emptyHexadecimal => "hexadecimal literal empty"
  | .notScalar => "hexadecimal literal is not a Unicode scalar value"
  | .unfinishedBoundary => "found either the beginning of a special word boundary or a bounded " ++
      "repetition on a \\b with an opening brace, but no closing brace"
  | .unclosedBoundary => "special word boundary assertion is either unclosed or contains an " ++
      "invalid character"
  | .unknownBoundary => "unrecognized special word boundary assertion, valid choices are: start, " ++
      "end, start-half or end-half"
  | .propertyBackslash => "invalid Unicode character class"
  | .nestedTooDeep limit =>
    "exceed the maximum number of nested parentheses/brackets (" ++ toString limit ++ ")"
  | .unknownProperty => "Unicode property not found"
  | .unknownPropertyValue => "Unicode property value not found"
  | .matchesNonText => "pattern can match invalid UTF-8"
  | .needsUnicode => "Unicode not allowed here"

/-- A fault at its place, with a second place where one thing clashes with another. -/
structure LocatedFault where
  fault : Fault
  span : Span
  other : Option Span
  deriving DecidableEq, Repr

inductive Error where
  | syntaxFault (pattern : String) (located : LocatedFault)
  | tooLarge (limit : Nat)
  deriving DecidableEq, Repr

namespace Error

def insertSpan (span : Span) : List Span → List Span
  | [] => [span]
  | other :: rest =>
    if span.precedes other then span :: other :: rest else other :: insertSpan span rest

/-- Carets under spans of one line, from the current column on; every span gets at least one. -/
def carets : Nat → List Span → List Char
  | _, [] => []
  | column, span :: rest =>
    let gap := span.first.column - column
    let width := max 1 (span.last.column - span.first.column)
    List.replicate gap ' ' ++ List.replicate width '^' ++ carets (column + gap + width) rest

/-- The lines of a pattern; a carriage return before a newline belongs to the line end. -/
def patternLines (pattern : String) : List String :=
  let raw := pattern.splitOn "\n"
  let count := raw.length
  let lines := raw.zipIdx.map fun (line, i) =>
    if i + 1 < count ∧ line.toList.getLast? = some '\r' then String.ofList line.toList.dropLast
    else line
  if lines.getLast? = some "" then lines.dropLast else lines

/-- The pattern line by line, carets under the spans of each line. With `width = 0` lines are only
indented, else they are numbered in that many columns. -/
def annotate (width number : Nat) (spans : List Span) : List String → String
  | [] => ""
  | line :: rest =>
    let label := toString number
    let margin := if width = 0 then "    "
      else String.ofList (List.replicate (width - label.length) ' ') ++ label ++ ": "
    let here := spans.filter (·.first.line == number)
    let marks := if here.isEmpty then ""
      else String.ofList (List.replicate (if width = 0 then 4 else width + 2) ' ' ++ carets 1 here)
        ++ "\n"
    margin ++ line ++ "\n" ++ marks ++ annotate width (number + 1) spans rest

def rangeNote (span : Span) : String :=
  "on line " ++ toString span.first.line ++ " (column " ++ toString span.first.column ++
    ") through line " ++ toString span.last.line ++ " (column " ++
    toString (span.last.column - 1) ++ ")"

def report (pattern : String) (located : LocatedFault) : String :=
  let spans := match located.other with
    | some other => insertSpan other [located.span]
    | none => [located.span]
  let lines := patternLines pattern
  let final := "error: " ++ located.fault.description
  if pattern.toList.contains '\n' then
    let count := lines.length + (if pattern.toList.getLast? = some '\n' then 1 else 0)
    let width := if count ≤ 1 then 0 else (toString count).length
    let divider := String.ofList (List.replicate 79 '~') ++ "\n"
    let wide := spans.filter (!·.isOneLine)
    let notes := if wide.isEmpty then "" else "\n".intercalate (wide.map rangeNote) ++ "\n"
    "regex parse error:\n" ++ divider ++ annotate width 1 (spans.filter (·.isOneLine)) lines ++
      divider ++ notes ++ final
  else "regex parse error:\n" ++ annotate 0 1 spans lines ++ final

def message : Error → String
  | .syntaxFault pattern located => report pattern located
  | .tooLarge limit => "Compiled regex exceeds size limit of " ++ toString limit ++ " bytes."

end Error

end StoryScript.Pattern
