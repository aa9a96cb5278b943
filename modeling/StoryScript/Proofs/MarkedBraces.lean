import StoryScript.Proofs.BlockScan

/-! Markers do not count for the balance of blocks. A marker opens a block and closes it at once, so a
scan that reads markers as blocks finds the same braces without a partner. It may take a marker for
the block that its line announces, so the kinds of blocks and the depths can differ. -/
namespace StoryScript.Script

/-- Within a marker there is no brace but the one that closes it. -/
theorem bracesFrom_of_marker? {text name after : List Char}
    (found : marker? text = some (name, after)) (line : Nat) (kind : BlockKind) :
    bracesFrom line kind text = .closing line :: bracesFrom line kind after := by
  obtain ⟨white, white', blank, blank', isName, rfl⟩ := marker?_eq_some_iff.mp found
  rw [bracesFrom_append (blank.notMem (by decide)) (blank.notMem (by decide)),
    bracesFrom_append (isName.notMem (by decide)) (isName.notMem (by decide)),
    bracesFrom_append (blank'.notMem (by decide)) (blank'.notMem (by decide))]
  rfl

/-! ### Scans that differ in the kinds of blocks -/

/-- The same braces have no partner. The blocks may be of other kinds. -/
structure Nesting.Alike (a b : Nesting) : Prop where
  unmatched : a.unmatched = b.unmatched
  lines : a.stack.map (·.line) = b.stack.map (·.line)

namespace Nesting.Alike

variable {a b : Nesting}

theorem opening (alike : Alike a b) (line : Nat) (kind kind' : BlockKind) :
    Alike (a.step (.opening ⟨line, kind⟩)) (b.step (.opening ⟨line, kind'⟩)) :=
  ⟨by simp [alike.unmatched], by simp [alike.lines]⟩

theorem closing (alike : Alike a b) (line : Nat) :
    Alike (a.step (.closing line)) (b.step (.closing line)) := by
  obtain ⟨unmatched, lines⟩ := alike
  cases stack : a.stack with
  | nil =>
    have stack' : b.stack = [] := by simpa [stack] using lines.symm
    rw [step_closing_nil stack, step_closing_nil stack']
    exact ⟨by simp [unmatched], lines⟩
  | cons block outer =>
    cases stack' : b.stack with
    | nil => simp [stack, stack'] at lines
    | cons block' outer' =>
      rw [stack, stack', List.map_cons, List.map_cons] at lines
      rw [step_closing_cons stack, step_closing_cons stack']
      exact ⟨unmatched, (List.cons.inj lines).2⟩

theorem pair (alike : Alike a b) (block : Block) (line : Nat) :
    Alike a ((b.step (.opening block)).step (.closing line)) := by
  rw [step_closing_cons (stack_step_opening b block)]
  exact ⟨by simp [alike.unmatched], alike.lines⟩

/-- A line without its markers and the line with them are read alike, whatever kinds their first
blocks are of. -/
theorem foldl_bracesFrom (alike : Alike a b) (line : Nat) (kind kind' : BlockKind)
    (text : List Char) : Alike ((bracesFrom line kind (removeMarkers text)).foldl step a)
      ((bracesFrom line kind' text).foldl step b) := by
  fun_induction removeMarkers text generalizing a b kind kind' with
  | case1 => exact alike
  | case2 c rest name after found marker _ ih =>
    have opens : c = '{' := by
      by_contra other
      simp [other] at found
    rw [opens, bracesFrom, if_pos rfl, bracesFrom_of_marker? marker, List.foldl_cons,
      List.foldl_cons]
    exact ih (alike.pair ⟨line, kind'⟩ line) kind .other
  | case3 c rest found ih =>
    rw [bracesFrom, bracesFrom]
    by_cases opens : c = '{'
    · rw [if_pos opens, if_pos opens]
      exact ih (alike.opening line kind kind') .other .other
    · rw [if_neg opens, if_neg opens]
      by_cases closes : c = '}'
      · rw [if_pos closes, if_pos closes]
        exact ih (alike.closing line) kind kind'
      · rw [if_neg closes, if_neg closes]
        exact ih alike kind kind'

end Nesting.Alike

/-- The braces of a line in which only the strings are passed over. -/
def markedBracesOn (line : Line) : List Brace :=
  bracesFrom line.number (openingKind line.text) (removeStrings line.text.toList)

def markedBracesOf (source : String) : List Brace := (uncommented source).flatMap markedBracesOn

theorem Nesting.Alike.foldl_lines {a b : Nesting} (alike : Alike a b) (lines : List Line) :
    Alike ((lines.flatMap bracesOn).foldl step a) ((lines.flatMap markedBracesOn).foldl step b) := by
  induction lines generalizing a b with
  | nil => exact alike
  | cons line rest ih =>
    rw [List.flatMap_cons, List.flatMap_cons, List.foldl_append, List.foldl_append]
    exact ih (alike.foldl_bracesFrom ..)

/-- The scan finds what a scan finds that keeps the markers: the same lines that close nothing, and
unclosed blocks on the same lines. -/
theorem scan_regardless_of_markers (source : String) :
    (Structure.ofSource source).unmatched =
      (Nesting.ofBraces (markedBracesOf source)).unmatched ∧
    (Structure.ofSource source).unclosed.map (·.line) =
      (Nesting.ofBraces (markedBracesOf source)).stack.reverse.map (·.line) := by
  have same : Nesting.Alike .start .start := ⟨rfl, rfl⟩
  obtain ⟨unmatched, lines⟩ := same.foldl_lines (uncommented source)
  rw [← bracesOf_eq] at unmatched lines
  rw [Structure.unmatched_ofSource, Structure.unclosed_ofSource, List.map_reverse, List.map_reverse]
  exact ⟨unmatched, congrArg List.reverse lines⟩

/-- The marker takes the place of the conditional block. -/
example : (Structure.ofSource "if \x7bx\x7d \x7b").openings = [⟨1, 1⟩] ∧
    (Nesting.ofBraces (markedBracesOf "if \x7bx\x7d \x7b")).stack = [⟨1, .other⟩] := by
  decide +kernel

end StoryScript.Script
