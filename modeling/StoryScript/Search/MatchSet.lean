import StoryScript.Text.Fingerprint

/-! The result of a search: matches in the order of the source, tagged with the query, the options
and the fingerprint of the source they were found in. A match set is never adjusted to an edit; the
search is run again. -/
namespace StoryScript.Search

structure Options where
  regex : Bool
  caseSensitive : Bool
  /-- Only whole words match; not heeded for regular expressions. -/
  wholeWord : Bool
  deriving DecidableEq, Repr

def Options.default : Options := ⟨false, false, false⟩

/-- A match on one line. Columns count characters from 1, the end is exclusive. -/
structure Match where
  line : Nat
  column : Nat
  endColumn : Nat
  matchedText : String
  lineText : String
  /-- Capture groups from the first on; `none` for one that took no part. -/
  groups : List (Option String)
  deriving DecidableEq, Repr

namespace Match

def length (m : Match) : Nat := m.endColumn - m.column

def startsAtOrAfter (m : Match) (line column : Nat) : Bool :=
  line < m.line || (line == m.line && column ≤ m.column)

end Match

structure MatchSet where
  query : String
  options : Options
  sourceHash : Fingerprint
  found : List Match
  patternError : Option String
  deriving DecidableEq, Repr

namespace MatchSet

def initial : MatchSet := ⟨"", .default, 0, [], none⟩

/-- The set was computed on a source with the same fingerprint as the given one. -/
def isCurrentFor (set : MatchSet) (source : String) : Bool :=
  set.sourceHash == Fingerprint.ofText source

/-- The index of the first match at or after a point, of the first of all if none follows. -/
def firstAtOrAfter (set : MatchSet) (line column : Nat) : Option Nat :=
  if set.found.isEmpty then none
  else some ((set.found.findIdx? (·.startsAtOrAfter line column)).getD 0)

end MatchSet

end StoryScript.Search
