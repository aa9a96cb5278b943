import StoryScript.Unicode.CharSet
import StoryScript.Unicode.Property

/-! The meaning of a pattern, free of its notation: flags are resolved, classes are sets, and only
the forms that matching tells apart are left. -/
namespace StoryScript.Pattern

open Unicode (CharSet)

inductive BoundaryKind where
  | either | neither | start | stop | startHalf | stopHalf
  deriving DecidableEq, Repr

/-- A condition on the place between two characters. -/
inductive Look where
  | textStart | textEnd
  | lineStart | lineEnd
  | crlfStart | crlfEnd
  | word (kind : BoundaryKind) (ascii : Bool)
  deriving DecidableEq, Repr

namespace Look

def wordHolds (before after : Bool) : BoundaryKind → Bool
  | .either => before != after
  | .neither => before == after
  | .start => !before && after
  | .stop => before && !after
  | .startHalf => !before
  | .stopHalf => !after

/-- Whether the condition holds between the given neighbours; there are none beyond the text. -/
def holds (look : Look) (before after : Option Char) : Bool :=
  match look with
  | .textStart => before.isNone
  | .textEnd => after.isNone
  | .lineStart => before.isNone || before == some '\n'
  | .lineEnd => after.isNone || after == some '\n'
  | .crlfStart =>
    before.isNone || before == some '\n' || (before == some '\r' && after != some '\n')
  | .crlfEnd =>
    after.isNone || after == some '\r' || (after == some '\n' && before != some '\r')
  | .word kind ascii =>
    let isWord := if ascii then Unicode.isAsciiWord else Unicode.isWord
    wordHolds (before.any isWord) (after.any isWord) kind

end Look

inductive Node where
  | empty
  | set (members : CharSet)
  | look (look : Look)
  | group (index : Nat) (sub : Node)
  | seq (first second : Node)
  | alt (first second : Node)
  | repeated (low : Nat) (high : Option Nat) (greedy : Bool) (sub : Node)

namespace Node

/-- Every match has at least one character. -/
def consumes : Node → Bool
  | empty => false
  | set _ => true
  | look _ => false
  | group _ sub => sub.consumes
  | seq a b => a.consumes || b.consumes
  | alt a b => a.consumes && b.consumes
  | repeated low _ _ sub => low != 0 && sub.consumes

/-- No match has a character. -/
def neverConsumes : Node → Bool
  | empty => true
  | set _ => false
  | look _ => true
  | group _ sub => sub.neverConsumes
  | seq a b => a.neverConsumes && b.neverConsumes
  | alt a b => a.neverConsumes && b.neverConsumes
  | repeated _ high _ sub => high == some 0 || sub.neverConsumes

/-- A repetition. What never consumes is repeated at most once, and nothing is left of what is
repeated at most zero times, its groups included. -/
def repeating (low : Nat) (high : Option Nat) (greedy : Bool) (sub : Node) : Node :=
  let low := if sub.neverConsumes then min low 1 else low
  let high := if sub.neverConsumes then some (min (high.getD 1) 1) else high
  if high = some 0 then empty
  else if low = 1 ∧ high = some 1 then sub
  else repeated low high greedy sub

def sequence : List Node → Node
  | [] => empty
  | [node] => node
  | node :: rest => seq node (sequence rest)

def alternatives : List Node → Node
  | [] => empty
  | [node] => node
  | node :: rest => alt node (alternatives rest)

/-- The largest index of a capture group, 0 without one. -/
def groups : Node → Nat
  | empty => 0
  | set _ => 0
  | look _ => 0
  | group index sub => max index sub.groups
  | seq a b => max a.groups b.groups
  | alt a b => max a.groups b.groups
  | repeated _ _ _ sub => sub.groups

/-- A text to be found as it is, between word boundaries if `wholeWord`. -/
def ofText (ignoreCase wholeWord : Bool) (text : List Char) : Node :=
  let chars := sequence (text.map fun c => set (.ofChar ignoreCase c))
  let boundary := look (.word .either false)
  if wholeWord then sequence [boundary, chars, boundary] else chars

end Node

end StoryScript.Pattern
