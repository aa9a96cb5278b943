import StoryScript.Text.Digits

/-! Properties of code points as runs. A table lists, in ascending order, the code points at which
the value changes; the value at a code point is that of the last run starting at or before it. The
data modules write their runs as text, one hexadecimal start per run. -/
namespace StoryScript.Unicode

structure RunTable (α : Type) where
  runs : Array (Nat × α)

namespace RunTable

variable {α β : Type}

def map (f : α → β) (table : RunTable α) : RunTable β :=
  ⟨table.runs.map fun (start, value) => (start, f value)⟩

/-- The code points at which the value may change. -/
def borders (table : RunTable α) : List Nat := table.runs.toList.map Prod.fst

/-- How many of the runs `lo ..< hi` onwards start at or before `n`, found by bisection. -/
def position (table : RunTable α) (n lo hi : Nat) : Nat :=
  if _h : lo < hi then
    let middle := (lo + hi) / 2
    match table.runs[middle]? with
    | some (start, _) =>
      if start ≤ n then position table n (middle + 1) hi else position table n lo middle
    | none => lo
  else lo
termination_by hi - lo

/-- The value at a code point, `none` before the first run. -/
def lookup (table : RunTable α) (n : Nat) : Option α :=
  match table.position n 0 table.runs.size with
  | 0 => none
  | i + 1 => table.runs[i]?.map Prod.snd

end RunTable

def hexValue (digits : List Char) : Nat := Text.valueIn 16 digits

def words (text : String) : List (List Char) :=
  let (word, rest) := text.toList.foldr
    (fun c (word, rest) =>
      if c = ' ' ∨ c = '\n' then ([], if word.isEmpty then rest else word :: rest)
      else (c :: word, rest))
    ([], [])
  if word.isEmpty then rest else word :: rest

/-- Reads alternating starts and values. -/
def readRuns {α : Type} (value : List Char → α) :
    List (List Char) → Array (Nat × α) → Array (Nat × α)
  | start :: word :: rest, runs => readRuns value rest (runs.push (hexValue start, value word))
  | _, runs => runs

def RunTable.ofText {α : Type} (value : List Char → α) (text : String) : RunTable α :=
  ⟨readRuns value (words text) #[]⟩

/-- A set of code points as a table of its gaps and runs. -/
abbrev CodePoints := RunTable Bool

/-- Reads words such as `61` and `41-5A`, in ascending order. -/
def CodePoints.ofWords (words : List (List Char)) : CodePoints where
  runs := words.foldl (fun runs word =>
    let first := word.takeWhile (· ≠ '-')
    let last := match word.drop (first.length + 1) with
      | [] => first
      | digits => digits
    (runs.push (hexValue first, true)).push (hexValue last + 1, false)) #[]

def CodePoints.ofText (text : String) : CodePoints := .ofWords (words text)

def CodePoints.contains (set : CodePoints) (c : Char) : Bool :=
  (set.lookup c.toNat).getD false

end StoryScript.Unicode
