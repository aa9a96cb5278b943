import StoryScript.Pattern.Program

/-! Searching with a program. All ways to match are followed side by side, one character at a time,
in order of preference; a way that reaches an instruction which a preferred way has reached at the
same place is dropped. The time is bounded by the text's length times the program's. -/
namespace StoryScript.Pattern

/-- A match in the making: the next instruction, where it started, and what it has saved, the last
first. -/
structure Thread where
  address : Nat
  start : Nat
  saves : List (Nat × Nat)
  deriving DecidableEq, Repr

/-- A match: its start, the place after its end, and what it saved. -/
structure Hit where
  start : Nat
  stop : Nat
  saves : List (Nat × Nat)
  deriving DecidableEq, Repr

namespace Hit

def saved? (hit : Hit) (slot : Nat) : Option Nat := hit.saves.lookup slot

/-- The bounds of a capture group, if it took part in the match. -/
def group? (hit : Hit) (index : Nat) : Option (Nat × Nat) := do
  return (← hit.saved? (2 * index), ← hit.saved? (2 * index + 1))

end Hit

/-- A place in a text: the character before it, if any, how many are before it, and what follows. -/
structure Place where
  before : Option Char
  offset : Nat
  rest : List Char

namespace Place

def start (text : List Char) : Place := ⟨none, 0, text⟩

def after (text : List Char) (offset : Nat) : Place :=
  ⟨if offset = 0 then none else text[offset - 1]?, offset, text.drop offset⟩

end Place

namespace Program

theorem count_set_lt {seen : Array Bool} {i : Nat} (h : i < seen.size) (fresh : seen[i] = false) :
    (seen.set i true h).count false < seen.count false := by
  have mem : false ∈ seen := fresh ▸ Array.getElem_mem h
  have positive := Array.count_pos_iff.2 mem
  rw [Array.count_set]
  simp [fresh]
  omega

/-- Follows threads through the instructions that consume nothing, in order of preference. Yields
the threads that wait for a character, and the first match, below which no thread is kept. -/
def settle (program : Program) (before after : Option Char) (offset : Nat) (seen : Array Bool)
    (waiting : List Thread) : List Thread → List Thread × Option Hit
  | [] => (waiting.reverse, none)
  | thread :: others =>
    if h : thread.address < seen.size then
      if fresh : seen[thread.address] = false then
        let seen' := seen.set thread.address true h
        match program.code[thread.address]? with
        | none => settle program before after offset seen' waiting others
        | some .accept => (waiting.reverse, some ⟨thread.start, offset, thread.saves⟩)
        | some (.consume _) =>
          settle program before after offset seen' (thread :: waiting) others
        | some (.require look) =>
          if look.holds before after then
            settle program before after offset seen' waiting
              ({ thread with address := thread.address + 1 } :: others)
          else settle program before after offset seen' waiting others
        | some (.save slot) =>
          settle program before after offset seen' waiting
            ({ thread with
              address := thread.address + 1, saves := (slot, offset) :: thread.saves } :: others)
        | some (.split preferred other) =>
          settle program before after offset seen' waiting
            ({ thread with address := preferred } :: { thread with address := other } :: others)
        | some (.jump target) =>
          settle program before after offset seen' waiting
            ({ thread with address := target } :: others)
      else settle program before after offset seen waiting others
    else settle program before after offset seen waiting others
termination_by threads => (seen.count false, threads.length)
decreasing_by
  all_goals first
    | exact Prod.Lex.left _ _ (count_set_lt h fresh)
    | exact Prod.Lex.right _ (Nat.lt_succ_self _)

def advance (program : Program) (c : Char) (thread : Thread) : Option Thread :=
  match program.code[thread.address]? with
  | some (.consume set) =>
    if set.mem c then some { thread with address := thread.address + 1 } else none
  | _ => none

/-- Goes on with threads in order of preference. While nothing is found, a new thread starts at
every place, less preferred than the threads that started before it. -/
def run (program : Program) (before : Option Char) (offset : Nat) (threads : List Thread)
    (found : Option Hit) (rest : List Char) : Option Hit :=
  let threads := if found.isNone then threads ++ [⟨0, offset, []⟩] else threads
  if threads.isEmpty then found
  else
    let (waiting, hit) := settle program before rest.head? offset
      (Array.replicate program.code.size false) [] threads
    let found := hit.or found
    match rest with
    | [] => found
    | c :: rest =>
      run program (some c) (offset + 1) (waiting.filterMap (program.advance c)) found rest
termination_by structural rest

/-- The leftmost match from a place on, of those that start there the preferred one. -/
def search (program : Program) (place : Place) : Option Hit :=
  program.run place.before place.offset [] none place.rest

/-- The next match after one that ended at `offset`: an empty match there does not count. -/
def searchAfter (program : Program) (text : List Char) (offset : Nat) : Option Hit :=
  match program.search (.after text offset) with
  | some hit =>
    if hit.start = hit.stop ∧ hit.stop = offset then
      if offset < text.length then program.search (.after text (offset + 1)) else none
    else some hit
  | none => none

def matchesAfter (program : Program) (text : List Char) (offset : Nat) : List Hit :=
  match program.searchAfter text offset with
  | some hit =>
    if _h : offset < hit.stop ∧ hit.stop ≤ text.length then
      hit :: matchesAfter program text hit.stop
    else []
  | none => []
termination_by text.length - offset

/-- The matches of a program in a text, from left to right and without overlap. -/
def allMatches (program : Program) (text : List Char) : List Hit :=
  match program.search (.start text) with
  | some hit => hit :: program.matchesAfter text hit.stop
  | none => []

end Program

end StoryScript.Pattern
