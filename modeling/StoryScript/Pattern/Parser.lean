import StoryScript.Pattern.Ast
import StoryScript.Pattern.Fault
import StoryScript.Unicode.Property

/-! Reading the written form of a pattern. The text is read from the left and the first fault found
is reported. Loops are bounded by the number of characters left, of which every round takes one. -/
namespace StoryScript.Pattern

structure ParserState where
  rest : List Char
  position : Position
  /-- White space and comments are passed over. -/
  verbose : Bool
  /-- Capture groups opened so far. -/
  groups : Nat
  names : List (List Char × Span)

abbrev Parser := StateT ParserState (Except LocatedFault)

namespace Parser

def failWith {α : Type} (fault : Fault) (span : Span) (other : Option Span) : Parser α :=
  throw ⟨fault, span, other⟩

def fail {α : Type} (fault : Fault) (span : Span) : Parser α := failWith fault span none

def here : Parser Position := return (← get).position

def peek : Parser (Option Char) := return (← get).rest.head?

def peekSecond : Parser (Option Char) := return (← get).rest[1]?

def remaining : Parser Nat := return (← get).rest.length

def atEnd : Parser Bool := return (← get).rest.isEmpty

def spanFrom (first : Position) : Parser Span := return ⟨first, ← here⟩

def charSpan : Parser Span := do
  let state ← get
  match state.rest with
  | [] => return .point state.position
  | c :: _ => return ⟨state.position, state.position.next c⟩

def bump : Parser Unit := modify fun state =>
  match state.rest with
  | [] => state
  | c :: rest => { state with rest, position := state.position.next c }

/-- What follows white space and comments, and its place. -/
def afterSpace (inComment : Bool) (position : Position) : List Char → List Char × Position
  | [] => ([], position)
  | c :: rest =>
    if inComment then afterSpace (c != '\n') (position.next c) rest
    else if Unicode.isWhite c then afterSpace false (position.next c) rest
    else if c = '#' then afterSpace true (position.next c) rest
    else (c :: rest, position)

def skipSpace : Parser Unit := modify fun state =>
  if state.verbose then
    let (rest, position) := afterSpace false state.position state.rest
    { state with rest, position }
  else state

def bumpSpaced : Parser Unit := do
  bump
  skipSpace

/-- The character after the current one and any space after that. -/
def peekSpaced : Parser (Option Char) := do
  let state ← get
  match state.rest with
  | [] => return none
  | c :: rest =>
    if state.verbose then return (afterSpace false (state.position.next c) rest).1.head?
    else return rest.head?

def bumpIf (expected : String) : Parser Bool := do
  let state ← get
  if expected.toList.isPrefixOf state.rest then
    for _ in expected.toList do bump
    return true
  else return false

/-- The characters up to the first that fails the test, and any space between them. -/
def takeSpaced (test : Char → Bool) : Nat → Parser (List Char)
  | 0 => return []
  | fuel + 1 => do
    match ← peek with
    | some c =>
      if test c then
        bumpSpaced
        return c :: (← takeSpaced test fuel)
      else return []
    | none => return []

def skipWhite : Nat → Parser Unit
  | 0 => return
  | fuel + 1 => do
    match ← peek with
    | some c =>
      if Unicode.isWhite c then
        bumpSpaced
        skipWhite fuel
      else return
    | none => return

/-- A count of at most 32 bits. A fault in it is not raised yet. -/
def count : Parser (Except LocatedFault Nat) := do
  skipWhite (← remaining)
  let first ← here
  let digits ← takeSpaced Text.isDigit (← remaining)
  let span ← spanFrom first
  skipWhite (← remaining)
  if digits.isEmpty then return .error ⟨.countNotDecimal, span, none⟩
  let value := Text.valueIn 10 digits
  if value < 0x100000000 then return .ok value else return .error ⟨.countTooLarge, span, none⟩

/-- The bounds between braces, from the opening brace to before the closing one. -/
def repeats : Parser Repeats := do
  let first ← here
  bumpSpaced
  if ← atEnd then fail .unclosedCount (← spanFrom first)
  let low ← count
  if ← atEnd then fail .unclosedCount (← spanFrom first)
  if (← peek) == some ',' then
    bumpSpaced
    if ← atEnd then fail .unclosedCount (← spanFrom first)
    if (← peek) == some '}' then return ⟨← liftM low, none⟩
    let low ← liftM low
    let high ← liftM (← count)
    return ⟨low, some high⟩
  else
    let exact ← liftM low
    return ⟨exact, some exact⟩

/-- The expression before a repetition operator, and those before it. -/
def operand (items : List Ast) : Parser (Ast × List Ast) := do
  match items with
  | item :: rest =>
    if item.isFlags then fail .nothingToRepeat (.point (← here)) else return (item, rest)
  | [] => fail .nothingToRepeat (.point (← here))

/-- A question mark after an operator makes it lazy. -/
def laziness : Parser Bool := do
  if (← peek) == some '?' then
    bump
    return false
  else return true

/-- `?`, `*` or `+` after the expressions read so far, the last first. -/
def shortRepetition (bounds : Repeats) (items : List Ast) : Parser (List Ast) := do
  let (item, rest) ← operand items
  bump
  let greedy ← laziness
  return .repetition ⟨item.span.first, ← here⟩ bounds greedy item :: rest

def countedRepetition (items : List Ast) : Parser (List Ast) := do
  let first ← here
  let (item, rest) ← operand items
  let bounds ← repeats
  if (← peek) != some '}' then fail .unclosedCount (← spanFrom first)
  bumpSpaced
  let greedy ← laziness
  if bounds.high.any (· < bounds.low) then fail .reversedCount (← spanFrom first)
  return .repetition ⟨item.span.first, ← here⟩ bounds greedy item :: rest

/-- One or more characters with a meaning of their own, outside or inside a class. -/
inductive Primitive where
  | literal (l : Literal)
  | assertion (span : Span) (kind : Assertion)
  | dot (span : Span)
  | shorthand (span : Span) (kind : Shorthand) (negated : Bool)
  | property (span : Span) (name : PropertyName) (negated : Bool)

namespace Primitive

def span : Primitive → Span
  | .literal l => l.span
  | .assertion span _ => span
  | .dot span => span
  | .shorthand span _ _ => span
  | .property span _ _ => span

def toAst : Primitive → Ast
  | .literal l => .literal l
  | .assertion span kind => .assertion span kind
  | .dot span => .dot span
  | .shorthand span kind negated => .shorthand span kind negated
  | .property span name negated => .property span name negated

def toClassTree : Primitive → Parser ClassTree
  | .literal l => return .literal l
  | .shorthand span kind negated => return .shorthand span kind negated
  | .property span name negated => return .property span name negated
  | .assertion span _ => fail .classEscape span
  | .dot span => fail .classEscape span

def toLiteral : Primitive → Parser Literal
  | .literal l => return l
  | other => fail .rangeNotLiteral other.span

end Primitive

def fixedDigits : Nat → Parser (List Char)
  | 0 => return []
  | n + 1 => do
    match ← peek with
    | none => fail .unfinishedEscape (.point (← here))
    | some c =>
      if !Text.isHexDigit c then fail .notHexadecimal (← charSpan)
      bumpSpaced
      return c :: (← fixedDigits n)

def bracedDigits : Nat → Parser (List Char)
  | 0 => return []
  | fuel + 1 => do
    bumpSpaced
    match ← peek with
    | none => return []
    | some c =>
      if c == '}' then return []
      if !Text.isHexDigit c then fail .notHexadecimal (← charSpan)
      return c :: (← bracedDigits fuel)

/-- A hexadecimal escape from its letter on; `start` is the place of the backslash. -/
def hexEscape (start : Position) (letter : Char) : Parser Literal := do
  bumpSpaced
  if ← atEnd then fail .unfinishedEscape (.point (← here))
  if (← peek) == some '{' then
    let brace ← here
    let inside := (← charSpan).last
    let digits ← bracedDigits (← remaining)
    if ← atEnd then fail .unfinishedEscape (← spanFrom brace)
    let last ← here
    bumpSpaced
    if digits.isEmpty then fail .emptyHexadecimal (← spanFrom brace)
    match Text.charOfHex? digits with
    | some c => return ⟨c, false, ← spanFrom start⟩
    | none => fail .notScalar ⟨inside, last⟩
  else
    let inside ← here
    let digits ← fixedDigits (if letter = 'x' then 2 else if letter = 'u' then 4 else 8)
    match Text.charOfHex? digits with
    | some c => return ⟨c, letter == 'x', ← spanFrom start⟩
    | none => fail .notScalar (← spanFrom inside)

def bracedName : Nat → Parser (List Char)
  | 0 => return []
  | fuel + 1 => do
    bumpSpaced
    match ← peek with
    | none => return []
    | some c => if c == '}' then return [] else return c :: (← bracedName fuel)

/-- The parts of a text around the first occurrence of a separator. -/
def splitAround (separator : List Char) : List Char → Option (List Char × List Char)
  | [] => none
  | c :: rest =>
    if separator.isPrefixOf (c :: rest) then some ([], (c :: rest).drop separator.length)
    else (splitAround separator rest).map fun (before, after) => (c :: before, after)

/-- A property name, or a name and a value around `!=`, `:` or `=`. -/
def propertyName (name : List Char) : PropertyName :=
  let pair := [['!', '='], [':'], ['=']].findSome? (splitAround · name)
  match pair with
  | some (name, value) => .valued name value
  | none => .single name

/-- A property class from its letter on; `start` is the place of the backslash. -/
def propertyClass (start : Position) (negated : Bool) : Parser Primitive := do
  bumpSpaced
  match ← peek with
  | none => fail .unfinishedEscape (.point (← here))
  | some '{' =>
    let name ← bracedName (← remaining)
    if ← atEnd then fail .unfinishedEscape (.point (← here))
    bump
    return .property (← spanFrom start) (propertyName name) negated
  | some c =>
    if c == '\\' then fail .propertyBackslash (← charSpan)
    bumpSpaced
    return .property (← spanFrom start) (.single [c]) negated

def isBoundaryChar (c : Char) : Bool :=
  ('A' ≤ c && c ≤ 'Z') || ('a' ≤ c && c ≤ 'z') || c == '-'

/-- A brace after `\b` may name a special boundary; else it is left for a counted repetition. -/
def specialBoundary (start : Position) : Parser Assertion := do
  let saved ← get
  let brace ← here
  bumpSpaced
  let inside ← here
  match ← peek with
  | none => fail .unfinishedBoundary (← spanFrom start)
  | some c =>
    if !isBoundaryChar c then
      set saved
      return .boundary
    let name ← takeSpaced isBoundaryChar (← remaining)
    if (← peek) != some '}' then fail .unclosedBoundary (← spanFrom brace)
    let last ← here
    bump
    match String.ofList name with
    | "start" => return .wordStart
    | "end" => return .wordEnd
    | "start-half" => return .wordStartHalf
    | "end-half" => return .wordEndHalf
    | _ => fail .unknownBoundary ⟨inside, last⟩

/-- Characters that stand for themselves after a backslash. -/
def isEscapable (c : Char) : Bool :=
  c.toNat < 128 && !c.isAlphanum && c != '<' && c != '>'

def controlEscape? : Char → Option Char
  | 'a' => some '\x07'
  | 'f' => some '\x0c'
  | 't' => some '\t'
  | 'n' => some '\n'
  | 'r' => some '\r'
  | 'v' => some '\x0b'
  | _ => none

def shorthand? : Char → Option (Shorthand × Bool)
  | 'd' => some (.digit, false)
  | 's' => some (.space, false)
  | 'w' => some (.word, false)
  | 'D' => some (.digit, true)
  | 'S' => some (.space, true)
  | 'W' => some (.word, true)
  | _ => none

def escape : Parser Primitive := do
  let start ← here
  bump
  match ← peek with
  | none => fail .unfinishedEscape (← spanFrom start)
  | some c =>
    if Text.isDigit c then fail .backreference ⟨start, (← charSpan).last⟩
    if c == 'x' || c == 'u' || c == 'U' then return .literal (← hexEscape start c)
    if c == 'p' || c == 'P' then return ← propertyClass start (c == 'P')
    bump
    let span ← spanFrom start
    if let some (kind, negated) := shorthand? c then return .shorthand span kind negated
    if isEscapable c then return .literal ⟨c, false, span⟩
    if let some control := controlEscape? c then return .literal ⟨control, false, span⟩
    match c with
    | 'A' => return .assertion span .startText
    | 'z' => return .assertion span .endText
    | 'B' => return .assertion span .notBoundary
    | '<' => return .assertion span .wordStart
    | '>' => return .assertion span .wordEnd
    | 'b' =>
      if (← peek) == some '{' then
        let kind ← specialBoundary start
        if kind == .boundary then return .assertion span kind
        else return .assertion (← spanFrom start) kind
      else return .assertion span .boundary
    | _ => fail .unknownEscape span

/-- A character outside a class that is no operator. -/
def primitive (c : Char) : Parser Primitive := do
  if c == '\\' then return ← escape
  let span ← charSpan
  bump
  match c with
  | '.' => return .dot span
  | '^' => return .assertion span .startLine
  | '$' => return .assertion span .endLine
  | _ => return .literal ⟨c, false, span⟩

def classPrimitive (c : Char) : Parser Primitive := do
  if c == '\\' then return ← escape
  let span ← charSpan
  bump
  return .literal ⟨c, false, span⟩

/-- A single item of a class or a range; `opening` is the span of the innermost open class. -/
def classRange (opening : Span) (c : Char) : Parser ClassTree := do
  let low ← classPrimitive c
  skipSpace
  match ← peek with
  | none => fail .unclosedClass opening
  | some '-' =>
    let after ← peekSpaced
    if after == some ']' || after == some '-' then return ← low.toClassTree
    bumpSpaced
    match ← peek with
    | none => fail .unclosedClass opening
    | some c =>
      let high ← classPrimitive c
      let span : Span := ⟨low.span.first, high.span.last⟩
      let lowest ← low.toLiteral
      let highest ← high.toLiteral
      if highest.char < lowest.char then fail .reversedRange span
      return .range span lowest highest
  | some _ => low.toClassTree

/-- A named class such as `[:alpha:]`; without one the state is as before. -/
def namedClass : Parser (Option ClassTree) := do
  let saved ← get
  let start ← here
  if ← bumpIf "[:" then
    let negated ← bumpIf "^"
    let name := (← get).rest.takeWhile (· != ':')
    for _ in name do bump
    if ← bumpIf ":]" then
      if let some kind := AsciiClass.ofName? name then
        return some (.ascii (← spanFrom start) kind negated)
  set saved
  return none

/-- Leading hyphens of a class stand for themselves. -/
def leadingHyphens (start : Position) : Nat → List ClassTree → Parser (List ClassTree)
  | 0, items => return items
  | fuel + 1, items => do
    if (← peek) == some '-' then
      let span ← charSpan
      bumpSpaced
      if ← atEnd then fail .unclosedClass (.point start)
      leadingHyphens start fuel (.literal ⟨'-', false, span⟩ :: items)
    else return items

structure ClassOpening where
  span : Span
  negated : Bool
  items : List ClassTree
  /-- Where the contents start. -/
  inside : Position

/-- The opening bracket, a negation, and the hyphens or the bracket that stand for themselves. -/
def openClass : Parser ClassOpening := do
  let start ← here
  bumpSpaced
  if ← atEnd then fail .unclosedClass (← spanFrom start)
  let negated := (← peek) == some '^'
  if negated then
    bumpSpaced
    if ← atEnd then fail .unclosedClass (← spanFrom start)
  let inside ← here
  let hyphens ← leadingHyphens start (← remaining) []
  if hyphens.isEmpty && (← peek) == some ']' then
    let span ← charSpan
    bumpSpaced
    if ← atEnd then fail .unclosedClass (← spanFrom start)
    return ⟨← spanFrom start, negated, [.literal ⟨']', false, span⟩], inside⟩
  return ⟨← spanFrom start, negated, hyphens, inside⟩

/-- The union of items, the last first; `inside` is where the first would have started. -/
def unionOf (inside : Position) (items : List ClassTree) : ClassTree :=
  match items with
  | [] => .empty (.point inside)
  | [item] => item
  | last :: _ =>
    let ordered := items.reverse
    .union ⟨((ordered.head?.map (·.span.first)).getD inside), last.span.last⟩ ordered

/-- The left operand and operation that wait for a right operand, if any, applied to it. -/
def applyPending (pending : Option (SetOperation × ClassTree)) (right : ClassTree) : ClassTree :=
  match pending with
  | none => right
  | some (kind, left) => .operation ⟨left.span.first, right.span.last⟩ kind left right

def setOperation? : Char → Option SetOperation
  | '&' => some .intersection
  | '-' => some .difference
  | '~' => some .symmetricDifference
  | _ => none

/-- A class after its opening, up to and with the closing bracket. -/
def classBody (opening : ClassOpening) (items : List ClassTree) (inside : Position)
    (pending : Option (SetOperation × ClassTree)) : Nat → Parser (Span × Bool × ClassTree)
  | 0 => fail .unclosedClass opening.span
  | fuel + 1 => do
    skipSpace
    match ← peek with
    | none => fail .unclosedClass opening.span
    | some '[' =>
      match ← namedClass with
      | some named => classBody opening (named :: items) inside pending fuel
      | none =>
        let nested ← openClass
        let (span, negated, tree) ← classBody nested nested.items nested.inside none fuel
        classBody opening (.bracketed span negated tree :: items) inside pending fuel
    | some ']' =>
      bump
      return (← spanFrom opening.span.first, opening.negated,
        applyPending pending (unionOf inside items))
    | some c =>
      match setOperation? c with
      | some kind =>
        if (← peekSecond) == some c then
          bump
          bump
          let left := applyPending pending (unionOf inside items)
          classBody opening [] (← here) (some (kind, left)) fuel
        else
          let item ← classRange opening.span c
          classBody opening (item :: items) inside pending fuel
      | none =>
        let item ← classRange opening.span c
        classBody opening (item :: items) inside pending fuel

def characterClass : Parser Ast := do
  let opening ← openClass
  let (span, negated, tree) ←
    classBody opening opening.items opening.inside none ((← remaining) + 1)
  return .bracketed span negated tree

def flag? : Char → Option Flag
  | 'i' => some .ignoreCase
  | 'm' => some .multiLine
  | 's' => some .dotAll
  | 'U' => some .swapGreed
  | 'u' => some .unicode
  | 'R' => some .crlf
  | 'x' => some .verbose
  | _ => none

def FlagItem.clashes : FlagItem → FlagItem → Option Span
  | .flag f _, .flag g span => if f = g then some span else none
  | .negation _, .negation span => some span
  | _, _ => none

/-- A flag list up to the colon or parenthesis after it. -/
def flagItems (items : List FlagItem) : Nat → Parser (List FlagItem)
  | 0 => return items.reverse
  | fuel + 1 => do
    match ← peek with
    | none => fail .unfinishedFlags (.point (← here))
    | some c =>
      if c == ':' || c == ')' then
        if let .negation span :: _ := items then fail .danglingNegation span
        return items.reverse
      let span ← charSpan
      let item ←
        if c == '-' then pure (FlagItem.negation span)
        else match flag? c with
          | some flag => pure (FlagItem.flag flag span)
          | none => fail .unknownFlag span
      if let some earlier := items.findSome? (FlagItem.clashes item) then
        failWith (if c == '-' then .repeatedNegation else .duplicateFlag) span (some earlier)
      bump
      if ← atEnd then fail .unfinishedFlags (.point (← here))
      flagItems (item :: items) fuel

def isNameChar (first : Bool) (c : Char) : Bool :=
  if first then c == '_' || Unicode.isAlphabetic c
  else c == '_' || c == '.' || c == '[' || c == ']' || Unicode.isAlphanumeric c

def nameChars (first : Bool) : Nat → Parser (List Char)
  | 0 => return []
  | fuel + 1 => do
    match ← peek with
    | none => fail .unclosedName (.point (← here))
    | some c =>
      if c == '>' then return []
      if !isNameChar first c then fail .nameCharacter (← charSpan)
      bump
      return c :: (← nameChars false fuel)

def groupName : Parser Unit := do
  let start ← here
  let name ← nameChars true ((← remaining) + 1)
  let span ← spanFrom start
  bump
  if name.isEmpty then fail .emptyName (.point start)
  let state ← get
  if let some (_, earlier) := state.names.find? (·.1 == name) then
    failWith .duplicateName span (some earlier)
  set { state with names := (name, span) :: state.names }

def nextGroup : Parser Nat := do
  let index := (← get).groups + 1
  modify fun state => { state with groups := index }
  return index

def anyBump : List String → Parser Bool
  | [] => return false
  | expected :: rest => do
    if ← bumpIf expected then return true else anyBump rest

inductive Opening where
  | flags (span : Span) (items : List FlagItem)
  | group (span : Span) (kind : GroupKind)

def openGroup : Parser Opening := do
  let start ← here
  let span ← charSpan
  bumpSpaced
  if ← anyBump ["?=", "?!", "?<=", "?<!"] then fail .lookAround (← spanFrom start)
  let inside ← here
  if ← anyBump ["?P<", "?<"] then
    let index ← nextGroup
    groupName
    return .group span (.capture index)
  if ← bumpIf "?" then
    if ← atEnd then fail .unclosedGroup span
    let items ← flagItems [] ((← remaining) + 1)
    let closes := (← peek) == some ')'
    bump
    if closes then
      if items.isEmpty then fail .nothingToRepeat (.point inside)
      return .flags (← spanFrom start) items
    return .group span (.flags items)
  return .group span (.capture (← nextGroup))

def setVerbose (items : List FlagItem) : Parser Unit :=
  match flagState .verbose true items with
  | some value => modify fun state => { state with verbose := value }
  | none => return

/-- Alternatives up to the end or to an unmatched closing parenthesis. `items` and `branches` are
read already, the last first; they started at `itemsStart` and `start`. -/
def expression (items branches : List Ast) (itemsStart start : Position) : Nat → Parser Ast
  | 0 => fail .unclosedGroup (.point start)
  | fuel + 1 => do
    skipSpace
    match ← peek with
    | none => finish
    | some ')' => finish
    | some '|' =>
      let branch := Ast.ofItems (← spanFrom itemsStart) items.reverse
      bump
      expression [] (branch :: branches) (← here) start fuel
    | some '(' =>
      match ← openGroup with
      | .flags span flags =>
        setVerbose flags
        expression (.flags span flags :: items) branches itemsStart start fuel
      | .group span kind =>
        let verbose := (← get).verbose
        if let .flags flags := kind then setVerbose flags
        let inside ← here
        let sub ← expression [] [] inside inside fuel
        if ← atEnd then fail .unclosedGroup span
        bump
        modify fun state => { state with verbose }
        expression (.group (← spanFrom span.first) kind sub :: items) branches itemsStart start fuel
    | some '[' =>
      let tree ← characterClass
      expression (tree :: items) branches itemsStart start fuel
    | some '?' =>
      let items ← shortRepetition ⟨0, some 1⟩ items
      expression items branches itemsStart start fuel
    | some '*' =>
      let items ← shortRepetition ⟨0, none⟩ items
      expression items branches itemsStart start fuel
    | some '+' =>
      let items ← shortRepetition ⟨1, none⟩ items
      expression items branches itemsStart start fuel
    | some '{' =>
      let items ← countedRepetition items
      expression items branches itemsStart start fuel
    | some c =>
      let item ← primitive c
      expression (item.toAst :: items) branches itemsStart start fuel
where
  finish : Parser Ast := do
    let last := Ast.ofItems (← spanFrom itemsStart) items.reverse
    if branches.isEmpty then return last
    else return .alternation (← spanFrom start) (last :: branches).reverse

def nestingLimit : Nat := 250

/-- A whole pattern, not nested too deep. -/
def pattern : Parser Ast := do
  let ast ← expression [] [] .start .start ((← remaining) + 1)
  if !(← atEnd) then fail .unopenedGroup (← charSpan)
  match ast.tooDeep nestingLimit 0 with
  | some span => fail (.nestedTooDeep nestingLimit) span
  | none => return ast

end Parser

def Ast.parse (pattern : List Char) : Except LocatedFault Ast :=
  Parser.pattern.run' ⟨pattern, .start, false, 0, []⟩

end StoryScript.Pattern
