import StoryScript.Proofs.Sites
import StoryScript.Script.Structure

/-! The reading of braces follows the lines: what it records of a source is in the order in which
the lines come. -/
namespace StoryScript.Script

def Brace.line : Brace → Nat
  | .opening block => block.line
  | .closing line => line

/-- The numbers ascend, and none is beyond the bound. -/
def AscendTo (bound : Nat) (numbers : List Nat) : Prop :=
  numbers.Pairwise (· ≤ ·) ∧ ∀ number ∈ numbers, number ≤ bound

namespace AscendTo

variable {bound later : Nat} {numbers : List Nat}

theorem nil (bound : Nat) : AscendTo bound [] := ⟨List.Pairwise.nil, by simp⟩

theorem mono (ascend : AscendTo bound numbers) (le : bound ≤ later) : AscendTo later numbers :=
  ⟨ascend.1, fun number member => (ascend.2 number member).trans le⟩

theorem snoc (ascend : AscendTo bound numbers) (le : bound ≤ later) :
    AscendTo later (numbers ++ [later]) := by
  refine ⟨List.pairwise_append.mpr ⟨ascend.1, List.pairwise_singleton _ _, ?_⟩, ?_⟩
  · intro number member last final
    rw [List.mem_singleton.mp final]
    exact (ascend.mono le).2 number member
  · intro number member
    rcases List.mem_append.mp member with earlier | final
    · exact (ascend.mono le).2 number earlier
    · exact Nat.le_of_eq (List.mem_singleton.mp final)

theorem of_snoc {last : Nat} (ascend : AscendTo bound (numbers ++ [last])) :
    AscendTo bound numbers :=
  ⟨(List.pairwise_append.mp ascend.1).1, fun number member => ascend.2 number (by simp [member])⟩

end AscendTo

namespace Nesting

/-- All that is recorded is in the order of the lines, up to the given one. -/
structure InOrder (nesting : Nesting) (line : Nat) : Prop where
  openings : AscendTo line (nesting.openings.map (·.line))
  unmatched : AscendTo line nesting.unmatched
  /-- The innermost block stands first on the stack. -/
  stack : AscendTo line (nesting.stack.reverse.map (·.line))

theorem inOrder_start : start.InOrder 0 := ⟨.nil 0, .nil 0, .nil 0⟩

theorem InOrder.step {nesting : Nesting} {line : Nat} (ordered : nesting.InOrder line)
    {brace : Brace} (le : line ≤ brace.line) : (nesting.step brace).InOrder brace.line := by
  cases brace with
  | opening block =>
    change line ≤ block.line at le
    change InOrder _ block.line
    have pushed : AscendTo block.line ((block :: nesting.stack).reverse.map (·.line)) := by
      simpa using ordered.stack.snoc le
    by_cases conditional : block.kind = .conditional
    · simp only [Nesting.step, conditional, if_true]
      exact ⟨by simpa using ordered.openings.snoc le, ordered.unmatched.mono le, pushed⟩
    · simp only [Nesting.step, conditional, if_false]
      exact ⟨ordered.openings.mono le, ordered.unmatched.mono le, pushed⟩
  | closing number =>
    cases open_blocks : nesting.stack with
    | nil =>
      simp only [Nesting.step, open_blocks]
      exact ⟨ordered.openings.mono le, ordered.unmatched.snoc le, .nil number⟩
    | cons block outer =>
      have popped : AscendTo line (outer.reverse.map (·.line)) := by
        have whole := ordered.stack
        rw [open_blocks, List.reverse_cons, List.map_append] at whole
        exact whole.of_snoc
      simp only [Nesting.step, open_blocks]
      exact ⟨ordered.openings.mono le, ordered.unmatched.mono le, popped.mono le⟩

theorem InOrder.run {nesting : Nesting} {line : Nat} (ordered : nesting.InOrder line)
    {braces : List Brace} (after : ∀ brace ∈ braces, line ≤ brace.line)
    (ascend : braces.Pairwise fun a b => a.line ≤ b.line) :
    ∃ last, (braces.foldl Nesting.step nesting).InOrder last := by
  induction braces generalizing nesting line with
  | nil => exact ⟨line, ordered⟩
  | cons brace rest ih =>
    obtain ⟨below, ascend⟩ := List.pairwise_cons.mp ascend
    exact ih (ordered.step (after brace List.mem_cons_self)) below ascend

end Nesting

theorem line_of_mem_bracesFrom {line : Nat} {kind : BlockKind} {text : List Char} {brace : Brace}
    (member : brace ∈ bracesFrom line kind text) : brace.line = line := by
  fun_induction bracesFrom line kind text with
  | case1 => cases member
  | case2 _ _ ih =>
    rcases List.mem_cons.mp member with rfl | later
    · rfl
    · exact ih later
  | case3 _ _ _ ih =>
    rcases List.mem_cons.mp member with rfl | later
    · rfl
    · exact ih later
  | case4 _ _ _ _ _ ih => exact ih member

theorem bracesFrom_append {front : List Char} (noOpening : '{' ∉ front) (noClosing : '}' ∉ front)
    (line : Nat) (kind : BlockKind) (tail : List Char) :
    bracesFrom line kind (front ++ tail) = bracesFrom line kind tail := by
  induction front with
  | nil => rfl
  | cons c front ih =>
    rw [List.mem_cons, not_or] at noOpening noClosing
    rw [List.cons_append, bracesFrom, if_neg (Ne.symm noOpening.1), if_neg (Ne.symm noClosing.1),
      ih noOpening.2 noClosing.2]

def bracesOf (source : String) : List Brace := (codeOf source).flatMap bracesOn

theorem bracesOf_pairwise (source : String) :
    (bracesOf source).Pairwise fun a b => a.line ≤ b.line := by
  refine List.pairwise_flatMap.mpr ⟨?_, ?_⟩
  · intro line _
    refine List.pairwise_of_forall_mem_list fun a ofLine b ofSame => ?_
    rw [line_of_mem_bracesFrom ofLine, line_of_mem_bracesFrom ofSame]
  · refine ((uncommented_pairwise source).filter _).imp ?_
    intro first second less a ofFirst b ofSecond
    rw [line_of_mem_bracesFrom ofFirst, line_of_mem_bracesFrom ofSecond]
    exact Nat.le_of_lt less

theorem nesting_inOrder (source : String) :
    ∃ last, (Nesting.ofBraces (bracesOf source)).InOrder last :=
  Nesting.inOrder_start.run (fun _ _ => Nat.zero_le _) (bracesOf_pairwise source)

theorem openings_pairwise (source : String) :
    (Structure.ofSource source).openings.Pairwise fun a b => a.line ≤ b.line := by
  obtain ⟨_, ordered⟩ := nesting_inOrder source
  exact List.pairwise_map.mp ordered.openings.1

theorem unmatched_pairwise (source : String) :
    (Structure.ofSource source).unmatched.Pairwise (· ≤ ·) := by
  obtain ⟨_, ordered⟩ := nesting_inOrder source
  exact ordered.unmatched.1

theorem unclosed_pairwise (source : String) :
    (Structure.ofSource source).unclosed.Pairwise fun a b => a.line ≤ b.line := by
  obtain ⟨_, ordered⟩ := nesting_inOrder source
  exact List.pairwise_map.mp ordered.stack.1

end StoryScript.Script
