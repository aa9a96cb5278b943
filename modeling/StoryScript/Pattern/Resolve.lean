import StoryScript.Pattern.Ast
import StoryScript.Pattern.Fault
import StoryScript.Pattern.Node
import StoryScript.Unicode.PropertyName

/-! From the written form of a pattern to its meaning. Flags hold from where they are set to the end
of their group. Without the Unicode flag, classes are sets of the first 128 characters, and what
would match a part of a character is refused. -/
namespace StoryScript.Pattern

open Unicode (CharSet)

structure Flags where
  ignoreCase : Bool
  multiLine : Bool
  dotAll : Bool
  swapGreed : Bool
  unicode : Bool
  crlf : Bool
  deriving DecidableEq, Repr

namespace Flags

def apply (flags : Flags) (items : List FlagItem) : Flags where
  ignoreCase := (flagState .ignoreCase true items).getD flags.ignoreCase
  multiLine := (flagState .multiLine true items).getD flags.multiLine
  dotAll := (flagState .dotAll true items).getD flags.dotAll
  swapGreed := (flagState .swapGreed true items).getD flags.swapGreed
  unicode := (flagState .unicode true items).getD flags.unicode
  crlf := (flagState .crlf true items).getD flags.crlf

end Flags

abbrev Resolved := Except LocatedFault

def refuse {α : Type} (fault : Fault) (span : Span) : Resolved α := .error ⟨fault, span, none⟩

/-- A character literal; a byte beyond ASCII is no character. -/
def Literal.resolve (flags : Flags) (literal : Literal) : Resolved Char :=
  if !flags.unicode && literal.isByte && 0x80 ≤ literal.char.toNat then
    refuse .matchesNonText literal.span
  else .ok literal.char

/-- A character inside a class, which has to be ASCII without the Unicode flag. -/
def Literal.resolveInClass (flags : Flags) (literal : Literal) : Resolved Char := do
  let c ← literal.resolve flags
  if !flags.unicode && 0x80 ≤ c.toNat then refuse .needsUnicode literal.span else return c

/-- The set of a literal. Without the Unicode flag only ASCII letters have case. -/
def literalSet (flags : Flags) (c : Char) : CharSet :=
  if !flags.ignoreCase then .only c
  else if flags.unicode then .anyCase c
  else if c.toNat < 128 then .foldAscii (.only c)
  else .only c

def asciiSpace : CharSet := .ofRanges [('\t', '\r'), (' ', ' ')]

def Shorthand.members (unicode : Bool) : Shorthand → CharSet
  | .digit => if unicode then Unicode.decimal else Unicode.asciiDigit
  | .space => if unicode then Unicode.whiteSpace else asciiSpace
  | .word => if unicode then Unicode.word else Unicode.asciiWord

/-- A shorthand class; its complement needs the Unicode flag. -/
def Shorthand.resolve (flags : Flags) (span : Span) (negated : Bool) (kind : Shorthand) :
    Resolved CharSet :=
  if !negated then .ok (kind.members flags.unicode)
  else if flags.unicode then .ok (.compl (kind.members true))
  else refuse .matchesNonText span

def AsciiClass.members : AsciiClass → CharSet
  | .alnum => .ofRanges [('0', '9'), ('A', 'Z'), ('a', 'z')]
  | .alpha => .ofRanges [('A', 'Z'), ('a', 'z')]
  | .ascii => Unicode.ascii
  | .blank => .ofRanges [('\t', '\t'), (' ', ' ')]
  | .cntrl => .ofRanges [('\x00', '\x1f'), ('\x7f', '\x7f')]
  | .digit => Unicode.asciiDigit
  | .graph => .range '!' '~'
  | .lower => .range 'a' 'z'
  | .print => .range ' ' '~'
  | .punct => .ofRanges [('!', '/'), (':', '@'), ('[', '\x60'), ('\x7b', '~')]
  | .space => asciiSpace
  | .upper => .range 'A' 'Z'
  | .word => Unicode.asciiWord
  | .xdigit => .ofRanges [('0', '9'), ('A', 'F'), ('a', 'f')]

def closeCase (flags : Flags) (set : CharSet) : CharSet :=
  if !flags.ignoreCase then set
  else if flags.unicode then .foldCase set
  else .foldAscii set

/-- A set closed under case first and complemented then; a complement needs the Unicode flag. -/
def closeAndNegate (flags : Flags) (span : Span) (negated : Bool) (set : CharSet) :
    Resolved CharSet :=
  if !negated then .ok (closeCase flags set)
  else if flags.unicode then .ok (.compl (closeCase flags set))
  else refuse .matchesNonText span

def PropertyName.resolve (flags : Flags) (span : Span) (negated : Bool) (name : PropertyName) :
    Resolved CharSet :=
  if !flags.unicode then refuse .needsUnicode span
  else
    let members := match name with
      | .single name => Unicode.propertyNamed name
      | .valued name value => Unicode.propertyValued name value
    match members with
    | .ok set => closeAndNegate flags span negated set
    | .error .property => refuse .unknownProperty span
    | .error .value => refuse .unknownPropertyValue span

mutual

/-- The members of a class before it is closed under case and negated. -/
def ClassTree.resolve (flags : Flags) : ClassTree → Resolved CharSet
  | .empty _ => .ok .none
  | .literal l => do return .only (← l.resolveInClass flags)
  | .range _ low high => do
    return .range (← low.resolveInClass flags) (← high.resolveInClass flags)
  | .ascii span kind negated => closeAndNegate flags span negated kind.members
  | .shorthand span kind negated => kind.resolve flags span negated
  | .property span name negated => name.resolve flags span negated
  | .bracketed span negated tree => do
    closeAndNegate flags span negated (← ClassTree.resolve flags tree)
  | .union _ items => ClassTree.resolveAll flags items
  | .operation _ kind left right => do
    let a := closeCase flags (← ClassTree.resolve flags left)
    let b := closeCase flags (← ClassTree.resolve flags right)
    match kind with
    | .intersection => return .inter a b
    | .difference => return .diff a b
    | .symmetricDifference => return .symDiff a b

def ClassTree.resolveAll (flags : Flags) : List ClassTree → Resolved CharSet
  | [] => .ok .none
  | item :: rest => do
    let first ← ClassTree.resolve flags item
    return .union first (← ClassTree.resolveAll flags rest)

end

/-- The dot: any character, or any but those that end lines. -/
def dotSet (flags : Flags) (span : Span) : Resolved CharSet :=
  if !flags.unicode then refuse .matchesNonText span
  else if flags.dotAll then .ok (.compl .none)
  else if flags.crlf then .ok (.compl (.union (.only '\n') (.only '\r')))
  else .ok (.compl (.only '\n'))

def Assertion.look (flags : Flags) : Assertion → Look
  | .startLine =>
    if !flags.multiLine then .textStart else if flags.crlf then .crlfStart else .lineStart
  | .endLine => if !flags.multiLine then .textEnd else if flags.crlf then .crlfEnd else .lineEnd
  | .startText => .textStart
  | .endText => .textEnd
  | .boundary => .word .either (!flags.unicode)
  | .notBoundary => .word .neither (!flags.unicode)
  | .wordStart => .word .start (!flags.unicode)
  | .wordEnd => .word .stop (!flags.unicode)
  | .wordStartHalf => .word .startHalf (!flags.unicode)
  | .wordEndHalf => .word .stopHalf (!flags.unicode)

mutual

/-- The meaning of a part under the given flags, and the flags after it. -/
def Ast.resolve (flags : Flags) : Ast → Resolved (Node × Flags)
  | .empty _ => .ok (.empty, flags)
  | .flags _ items => .ok (.empty, flags.apply items)
  | .literal l => do return (.set (literalSet flags (← l.resolve flags)), flags)
  | .dot span => do return (.set (← dotSet flags span), flags)
  | .assertion _ kind => .ok (.look (kind.look flags), flags)
  | .shorthand span kind negated => do return (.set (← kind.resolve flags span negated), flags)
  | .property span name negated => do return (.set (← name.resolve flags span negated), flags)
  | .bracketed span negated tree => do
    return (.set (← closeAndNegate flags span negated (← tree.resolve flags)), flags)
  | .repetition _ bounds greedy sub => do
    let (node, flags) ← Ast.resolve flags sub
    return (.repeating bounds.low bounds.high (greedy != flags.swapGreed) node, flags)
  | .group _ kind sub =>
    match kind with
    | .capture index => do return (.group index (← Ast.resolve flags sub).1, flags)
    | .flags items => do return ((← Ast.resolve (flags.apply items) sub).1, flags)
  | .alternation _ branches => do
    let (nodes, flags) ← Ast.resolveAll flags branches
    return (.alternatives nodes, flags)
  | .concat _ items => do
    let (nodes, flags) ← Ast.resolveAll flags items
    return (.sequence nodes, flags)

def Ast.resolveAll (flags : Flags) : List Ast → Resolved (List Node × Flags)
  | [] => .ok ([], flags)
  | item :: rest => do
    let (node, flags) ← Ast.resolve flags item
    let (nodes, flags) ← Ast.resolveAll flags rest
    return (node :: nodes, flags)

end

end StoryScript.Pattern
