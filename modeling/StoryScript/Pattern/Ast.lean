import StoryScript.Pattern.Span

/-! The written form of a pattern: what its author wrote, with the place of every part. -/
namespace StoryScript.Pattern

inductive Flag where
  | ignoreCase | multiLine | dotAll | swapGreed | unicode | crlf | verbose
  deriving DecidableEq, Repr

/-- An entry of a flag list; the negation mark turns the flags after it off. -/
inductive FlagItem where
  | flag (flag : Flag) (span : Span)
  | negation (span : Span)
  deriving DecidableEq, Repr

/-- What a flag list says about a flag: the first mention decides. -/
def flagState (flag : Flag) : Bool → List FlagItem → Option Bool
  | _, [] => none
  | value, .flag f _ :: rest => if f = flag then some value else flagState flag value rest
  | _, .negation _ :: rest => flagState flag false rest

/-- A character of a pattern. `isByte` tells a two-digit hexadecimal escape from the rest. -/
structure Literal where
  char : Char
  isByte : Bool
  span : Span
  deriving DecidableEq, Repr

inductive Assertion where
  | startLine | endLine | startText | endText
  | boundary | notBoundary | wordStart | wordEnd | wordStartHalf | wordEndHalf
  deriving DecidableEq, Repr

/-- The classes written with a backslash and a letter. -/
inductive Shorthand where
  | digit | space | word
  deriving DecidableEq, Repr

inductive AsciiClass where
  | alnum | alpha | ascii | blank | cntrl | digit | graph | lower | print | punct | space | upper
  | word | xdigit
  deriving DecidableEq, Repr

namespace AsciiClass

def all : List (String × AsciiClass) := [
  ("alnum", alnum), ("alpha", alpha), ("ascii", ascii), ("blank", blank), ("cntrl", cntrl),
  ("digit", digit), ("graph", graph), ("lower", lower), ("print", print), ("punct", punct),
  ("space", space), ("upper", upper), ("word", word), ("xdigit", xdigit)]

def ofName? (name : List Char) : Option AsciiClass :=
  (all.find? fun entry => entry.1.toList == name).map Prod.snd

end AsciiClass

/-- A property by one name, or by a name and a value. -/
inductive PropertyName where
  | single (name : List Char)
  | valued (name value : List Char)
  deriving DecidableEq, Repr

inductive SetOperation where
  | intersection | difference | symmetricDifference
  deriving DecidableEq, Repr

inductive ClassTree where
  | empty (span : Span)
  | literal (literal : Literal)
  | range (span : Span) (low high : Literal)
  | ascii (span : Span) (kind : AsciiClass) (negated : Bool)
  | shorthand (span : Span) (kind : Shorthand) (negated : Bool)
  | property (span : Span) (name : PropertyName) (negated : Bool)
  | bracketed (span : Span) (negated : Bool) (tree : ClassTree)
  | union (span : Span) (items : List ClassTree)
  | operation (span : Span) (kind : SetOperation) (left right : ClassTree)

def ClassTree.span : ClassTree → Span
  | .empty span => span
  | .literal l => l.span
  | .range span _ _ => span
  | .ascii span _ _ => span
  | .shorthand span _ _ => span
  | .property span _ _ => span
  | .bracketed span _ _ => span
  | .union span _ => span
  | .operation span _ _ _ => span

/-- Bounds of a repetition; no upper bound means any number. -/
structure Repeats where
  low : Nat
  high : Option Nat
  deriving DecidableEq, Repr

inductive GroupKind where
  | capture (index : Nat)
  | flags (items : List FlagItem)
  deriving DecidableEq, Repr

inductive Ast where
  | empty (span : Span)
  | flags (span : Span) (items : List FlagItem)
  | literal (literal : Literal)
  | dot (span : Span)
  | assertion (span : Span) (kind : Assertion)
  | shorthand (span : Span) (kind : Shorthand) (negated : Bool)
  | property (span : Span) (name : PropertyName) (negated : Bool)
  | bracketed (span : Span) (negated : Bool) (tree : ClassTree)
  | repetition (span : Span) (repeats : Repeats) (greedy : Bool) (sub : Ast)
  | group (span : Span) (kind : GroupKind) (sub : Ast)
  | alternation (span : Span) (branches : List Ast)
  | concat (span : Span) (items : List Ast)

namespace Ast

def span : Ast → Span
  | .empty span => span
  | .flags span _ => span
  | .literal l => l.span
  | .dot span => span
  | .assertion span _ => span
  | .shorthand span _ _ => span
  | .property span _ _ => span
  | .bracketed span _ _ => span
  | .repetition span _ _ _ => span
  | .group span _ _ => span
  | .alternation span _ => span
  | .concat span _ => span

def isFlags : Ast → Bool
  | .flags .. => true
  | _ => false

def ofItems (span : Span) : List Ast → Ast
  | [] => .empty span
  | [item] => item
  | items => .concat span items

end Ast

/-! Depth of nesting: every class, union, operation, repetition, group, alternation and sequence
counts one. -/

mutual

/-- The place of the first part of a class that lies deeper than `limit`. -/
def ClassTree.tooDeep (limit depth : Nat) : ClassTree → Option Span
  | .bracketed span _ tree =>
    if limit ≤ depth then some span else ClassTree.tooDeep limit (depth + 1) tree
  | .union span items =>
    if limit ≤ depth then some span else ClassTree.anyTooDeep limit (depth + 1) items
  | .operation span _ left right =>
    if limit ≤ depth then some span
    else (ClassTree.tooDeep limit (depth + 1) left).or
      (ClassTree.tooDeep limit (depth + 1) right)
  | _ => none

def ClassTree.anyTooDeep (limit depth : Nat) : List ClassTree → Option Span
  | [] => none
  | item :: rest => (ClassTree.tooDeep limit depth item).or (ClassTree.anyTooDeep limit depth rest)

end

mutual

def Ast.tooDeep (limit depth : Nat) : Ast → Option Span
  | .bracketed span _ tree =>
    if limit ≤ depth then some span else tree.tooDeep limit (depth + 1)
  | .repetition span _ _ sub =>
    if limit ≤ depth then some span else Ast.tooDeep limit (depth + 1) sub
  | .group span _ sub =>
    if limit ≤ depth then some span else Ast.tooDeep limit (depth + 1) sub
  | .alternation span branches =>
    if limit ≤ depth then some span else Ast.anyTooDeep limit (depth + 1) branches
  | .concat span items =>
    if limit ≤ depth then some span else Ast.anyTooDeep limit (depth + 1) items
  | _ => none

def Ast.anyTooDeep (limit depth : Nat) : List Ast → Option Span
  | [] => none
  | item :: rest => (Ast.tooDeep limit depth item).or (Ast.anyTooDeep limit depth rest)

end

end StoryScript.Pattern
