import StoryScript.Pattern.Node

/-! The space that the automata of a pattern need. There are two, one that reads forward and records
groups, and one that reads backward and does not. Both read the bytes of UTF-8, and every state
needs the same space apart from its transitions. -/
namespace StoryScript.Pattern

open Unicode (CharSet)

inductive Direction where
  | forward | backward
  deriving DecidableEq, Repr

def stateBytes : Nat := 32

/-- The space of one of the choices of a state that reads nothing. -/
def choiceBytes : Nat := 4

/-- The space of one of the transitions of a state that reads a byte. -/
def transitionBytes : Nat := 8

def forkBytes : Nat := stateBytes + 2 * choiceBytes

structure ByteRange where
  low : Nat
  high : Nat
  deriving DecidableEq, Repr

/-- A sequence of byte ranges stands for the texts with one byte of each range. -/
abbrev ByteRanges := List ByteRange

/-! A character is written as a byte counted from a lead on, and as digits of six bits after it. -/

/-- The weight of a digit with `count` digits after it. -/
def weight : Nat → Nat
  | 0 => 1
  | count + 1 => 64 * weight count

def anyDigits (count : Nat) : ByteRanges := List.replicate count ⟨0x80, 0xBF⟩

/-- The numbers from `low` to `high` with `count` digits after the byte counted from `lead` on. Its
values from `start` up to `stop` may be followed by any digits; the first and the last value stand
alone unless they are among those. -/
def byteRanges (lead : Nat) : Nat → Nat → Nat → List ByteRanges
  | 0, low, high => [[⟨lead + low, lead + high⟩]]
  | count + 1, low, high =>
    let unit := weight (count + 1)
    let first := low / unit
    let last := high / unit
    let start := (low + unit - 1) / unit
    let stop := (high + 1) / unit
    let under (digit low high : Nat) : List ByteRanges :=
      (byteRanges 0x80 count low high).map (⟨lead + digit, lead + digit⟩ :: ·)
    if first = last then under first (low % unit) (high % unit)
    else
      (if first < start then under first (low % unit) (unit - 1) else []) ++
        (if start < stop then [⟨lead + start, lead + stop - 1⟩ :: anyDigits (count + 1)] else []) ++
        (if stop ≤ last then under last 0 (high % unit) else [])

/-- The characters with one number of bytes, without those that stand for no character. -/
structure Window where
  first : Nat
  last : Nat
  lead : Nat
  /-- The bytes after the first one. -/
  digits : Nat

def windows : List Window := [
  ⟨0, 0x7F, 0, 0⟩, ⟨0x80, 0x7FF, 0xC0, 1⟩, ⟨0x800, 0xD7FF, 0xE0, 2⟩, ⟨0xE000, 0xFFFF, 0xE0, 2⟩,
  ⟨0x10000, 0x10FFFF, 0xF0, 3⟩]

def utf8Ranges (set : CharSet) : List ByteRanges :=
  windows.flatMap fun window =>
    (set.rangesWithin window.first window.last).flatMap fun (low, high) =>
      byteRanges window.lead window.digits low high

/-! The forward automaton of a set has a state for each list of what may still follow; equal lists
share one. -/

def heads (sequences : List ByteRanges) : List ByteRange := (sequences.filterMap List.head?).eraseDups

def tails (head : ByteRange) (sequences : List ByteRanges) : List ByteRanges :=
  sequences.filterMap fun
    | [] => none
    | first :: rest => if first = head then some rest else none

/-- The states reached within `length` bytes. -/
def reached : Nat → List ByteRanges → List (List ByteRanges)
  | 0, sequences => [sequences]
  | length + 1, sequences =>
    sequences :: (heads sequences).flatMap fun head => reached length (tails head sequences)

def forwardSpace (sequences : List ByteRanges) : Nat :=
  let states := (reached 4 sequences).eraseDups
  states.length * stateBytes + (states.flatMap heads).length * transitionBytes

/-! The backward automaton chooses a sequence and reads it from its end; sequences that start alike
share the states of their start. -/

def shared : ByteRanges → ByteRanges → Nat
  | a :: first, b :: second => if a = b then shared first second + 1 else 0
  | _, _ => 0

/-- The states of sequences that follow the given one. -/
def branching : ByteRanges → List ByteRanges → Nat
  | _, [] => 0
  | last, sequence :: rest => sequence.length - shared last sequence + branching sequence rest

def backwardSpace (sequences : List ByteRanges) : Nat :=
  if sequences.all (·.length = 1) then 2 * stateBytes + sequences.length * transitionBytes
  else (branching [] sequences + 2) * stateBytes + sequences.length * choiceBytes

/-- A single text needs one state for each byte. -/
def sequencesSpace (direction : Direction) (sequences : List ByteRanges) : Nat :=
  match sequences with
  | [] => stateBytes
  | sequence :: rest =>
    if rest = [] ∧ ∀ range ∈ sequence, range.low = range.high then sequence.length * stateBytes
    else match direction with
      | .forward => forwardSpace sequences
      | .backward => backwardSpace sequences

def setSpace (direction : Direction) : CharSet → Nat
  | .only c => c.utf8Size * stateBytes
  | set => sequencesSpace direction (utf8Ranges set)

namespace Node

/-- Alternatives of single characters are one set. -/
def toSet? : Node → Option CharSet
  | set members => some members
  | alt a b => do return .union (← a.toSet?) (← b.toSet?)
  | _ => none

/-- What stands alone needs a state even if it is empty. -/
def vacancy : Node → Nat
  | empty => stateBytes
  | _ => 0

/-- Alternatives of alternatives share the states in which they start and end. -/
def branchSpace (space : Nat) : Node → Nat
  | alt .. => space - 2 * stateBytes
  | node => space + node.vacancy + choiceBytes

def space (direction : Direction) : Node → Nat
  | empty => 0
  | set members => setSpace direction members
  | look _ => stateBytes
  | group _ sub =>
    let marks := match direction with
      | .forward => 2 * stateBytes
      | .backward => 0
    sub.space direction + sub.vacancy + marks
  | seq a b => a.space direction + b.space direction
  | alt a b =>
    match (alt a b).toSet? with
    | some members => setSpace direction members
    | none =>
      2 * stateBytes + branchSpace (a.space direction) a + branchSpace (b.space direction) b
  | repeated low none _ sub =>
    let once := sub.space direction + sub.vacancy
    if low = 0 then once + if sub.consumes then forkBytes else 2 * forkBytes + stateBytes
    else low * once + forkBytes
  | repeated low (some high) _ sub =>
    let once := sub.space direction + sub.vacancy
    if low = 0 ∧ high = 1 then once + forkBytes + stateBytes
    else if high ≤ low then low * once
    else
      low * once + (if low = 0 then stateBytes else 0) + stateBytes +
        (high - low) * (once + forkBytes)

end Node

namespace Program

def byteLimit : Nat := 10485760

/-- The space around a pattern: what skips to the start of a match, what records it, and the state
that accepts. -/
def frameBytes : Direction → Nat
  | .forward => forkBytes + (2 * stateBytes + transitionBytes) + 2 * stateBytes + stateBytes
  | .backward => forkBytes + (2 * stateBytes + transitionBytes) + stateBytes

end Program

/-- Both automata of a pattern are within the limit. -/
def Node.Fits (node : Node) : Prop :=
  ∀ direction, node.space direction + Program.frameBytes direction ≤ Program.byteLimit

instance (node : Node) : Decidable node.Fits :=
  decidable_of_iff
    ((node.space .forward + Program.frameBytes .forward ≤ Program.byteLimit) ∧
      node.space .backward + Program.frameBytes .backward ≤ Program.byteLimit)
    ⟨fun both direction => by cases direction <;> simp only [both], fun all => ⟨all _, all _⟩⟩

end StoryScript.Pattern
