import StoryScript.Unicode.CaseFolding

/-! Sets of characters, built up as a pattern writes them and asked for one character at a time.
Between two neighbouring borders of a set either all characters are members or none is, so that its
ranges follow from one question for each border. -/
namespace StoryScript.Unicode

inductive CharSet where
  | none
  | only (c : Char)
  /-- The characters equal to the given one up to case. -/
  | anyCase (c : Char)
  | range (low high : Char)
  | listed (points : CodePoints)
  | union (a b : CharSet)
  | inter (a b : CharSet)
  | diff (a b : CharSet)
  | symDiff (a b : CharSet)
  | compl (a : CharSet)
  /-- The characters equal to a member up to case. -/
  | foldCase (a : CharSet)
  /-- The same for the letters `A` to `Z` alone. -/
  | foldAscii (a : CharSet)

namespace CharSet

def mem : CharSet → Char → Bool
  | none, _ => false
  | only c, x => x == c
  | anyCase c, x => fold x == fold c
  | range low high, x => low ≤ x && x ≤ high
  | listed points, x => points.contains x
  | union a b, x => a.mem x || b.mem x
  | inter a b, x => a.mem x && b.mem x
  | diff a b, x => a.mem x && !b.mem x
  | symDiff a b, x => a.mem x != b.mem x
  | compl a, x => !a.mem x
  | foldCase a, x => (caseVariants x).any a.mem
  | foldAscii a, x => a.mem x || (x.isUpper && a.mem x.toLower) || (x.isLower && a.mem x.toUpper)

def anyOf : List CharSet → CharSet
  | [] => none
  | [set] => set
  | set :: rest => union set (anyOf rest)

def ofRanges (ranges : List (Char × Char)) : CharSet :=
  anyOf (ranges.map fun (low, high) => range low high)

def ofText (text : String) : CharSet := listed (.ofText text)

/-- A character of a pattern, with or without regard to case. -/
def ofChar (ignoreCase : Bool) (c : Char) : CharSet := if ignoreCase then anyCase c else only c

/-! Borders are kept in ascending order. -/

def insert (n : Nat) : List Nat → List Nat
  | [] => [n]
  | m :: rest => if n ≤ m then n :: m :: rest else m :: insert n rest

def ascending (points : List Nat) : List Nat := points.foldr insert []

/-- What two lists have in common is kept once. -/
def merge : List Nat → List Nat → List Nat
  | [], second => second
  | first, [] => first
  | n :: first, m :: second =>
    if n < m then n :: merge first (m :: second)
    else if m < n then m :: merge (n :: first) second
    else n :: merge first second
termination_by first second => first.length + second.length

/-- The borders of a set of single code points. -/
def around (points : List Nat) : List Nat := ascending (points.flatMap fun n => [n, n + 1])

def casedBorders : List Nat := around casedPoints

def asciiLetters : List Nat := List.range' 0x41 26 ++ List.range' 0x61 26

/-- The code points at which membership may change. -/
def borders : CharSet → List Nat
  | none => []
  | only c => around [c.toNat]
  | anyCase c => around ((caseVariants c).map Char.toNat)
  | range low high => ascending [low.toNat, high.toNat + 1]
  | listed points => ascending points.borders
  | union a b => merge a.borders b.borders
  | inter a b => merge a.borders b.borders
  | diff a b => merge a.borders b.borders
  | symDiff a b => merge a.borders b.borders
  | compl a => a.borders
  | foldCase a => merge casedBorders a.borders
  | foldAscii a => merge (around asciiLetters) a.borders

/-- The ranges of the members up to `last`, where membership changes at most at the given ascending
code points. A range that was started goes on until a border that is no member. -/
def runs (member : Nat → Bool) (last : Nat) : Option Nat → List Nat → List (Nat × Nat)
  | Option.none, [] => []
  | some low, [] => [(low, last)]
  | Option.none, next :: later =>
    if member next then runs member last (some next) later
    else runs member last Option.none later
  | some low, next :: later =>
    if member next then runs member last (some low) later
    else (low, next - 1) :: runs member last Option.none later

def rangesWithin (set : CharSet) (first last : Nat) : List (Nat × Nat) :=
  let inner := set.borders.filter fun n => first < n && n ≤ last
  runs (fun n => set.mem (Char.ofNat n)) last Option.none (first :: inner)

end CharSet

end StoryScript.Unicode
