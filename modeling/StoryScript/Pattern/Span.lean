/-! Places in the text of a pattern, by which its faults are pointed at. -/
namespace StoryScript.Pattern

/-- A place between two characters: how many are before it, and its line and column from 1. -/
structure Position where
  offset : Nat
  line : Nat
  column : Nat
  deriving DecidableEq, Repr

namespace Position

def start : Position := ⟨0, 1, 1⟩

def next (position : Position) (c : Char) : Position :=
  if c = '\n' then ⟨position.offset + 1, position.line + 1, 1⟩
  else ⟨position.offset + 1, position.line, position.column + 1⟩

end Position

structure Span where
  first : Position
  last : Position
  deriving DecidableEq, Repr

namespace Span

def point (position : Position) : Span := ⟨position, position⟩

def isOneLine (span : Span) : Bool := span.first.line == span.last.line

/-- Spans are ordered by their starts, then by their ends. -/
def precedes (a b : Span) : Bool :=
  a.first.offset < b.first.offset ||
    (a.first.offset == b.first.offset && a.last.offset ≤ b.last.offset)

end Span

end StoryScript.Pattern
