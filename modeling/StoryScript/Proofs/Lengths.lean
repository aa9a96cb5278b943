import Mathlib.Algebra.BigOperators.Group.List.Basic
import Mathlib.Algebra.Ring.Int.Defs
import StoryScript.Proofs.Acceptance

/-! The length of an edited text. Columns and positions count characters, and the stretches of an accepted
batch do not overlap. So a text grows by what each operation adds to its line, and all of them together
say how long the result is. -/
namespace StoryScript.Edit

open Search (Match Options)
open Text (position)

/-! ### Cuts -/

def Cut.growth (cut : Cut) : Int := cut.put.length - ((cut.stop : Int) - cut.start)

theorem Spliced.length_eq {place : Nat} {text result : List Char} {cuts : List Cut}
    (spliced : Spliced place text cuts result) :
    (result.length : Int) = text.length + (cuts.map Cut.growth).sum := by
  induction spliced with
  | rest => simp
  | @cut place kept removed text result first later start stop _ ih =>
    have growth : first.growth = first.put.length - removed.length := by
      rw [Cut.growth]
      omega
    simp only [List.map_cons, List.sum_cons, List.length_append, Int.natCast_add, growth, ih]
    omega

namespace Operation.InRange

variable {source : String} {operation : Operation} (inRange : operation.InRange source)

include inRange

/-- What an operation adds to its line, it adds to the source. -/
theorem growth_cut : (operation.cut source).growth = operation.lengthDelta := by
  have start := inRange.start.positive
  have stop := inRange.stop.positive
  rw [Cut.growth, Operation.lengthDelta, Operation.cut, ← String.length_toList]
  simp only [position]
  omega

/-- An operation takes away no more than there is, and adds no more than it puts in. -/
theorem lengthDelta_bounds : -(source.length : Int) ≤ operation.lengthDelta ∧
    operation.lengthDelta ≤ operation.replacement.length := by
  have order := inRange.order
  have positive := inRange.start.positive
  have stop := inRange.stop.position_le
  rw [position, String.length_toList] at stop
  rw [Operation.lengthDelta]
  omega

end Operation.InRange

/-! ### Batches -/

section

variable {source text : String} {operations : List Operation}

theorem inRange_of_apply_ok (accepted : apply source operations = .ok text) :
    ∀ operation ∈ operations, operation.InRange source := by
  obtain ⟨_, resolved, _⟩ := apply_eq_ok_iff.mp accepted
  obtain ⟨ordered, perm, inRange, _⟩ := resolve_eq_ok_iff.mp resolved
  exact fun operation given => inRange operation (perm.mem_iff.mp given)

/-- The operations of a batch add up, in whatever order they are written. -/
theorem length_of_apply_ok (accepted : apply source operations = .ok text) :
    (text.length : Int) = source.length + (operations.map Operation.lengthDelta).sum := by
  obtain ⟨ordered, perm, _, _, spliced⟩ := spliced_of_apply_ok accepted
  have grown : (ordered.map (·.cut source)).map Cut.growth = ordered.map Operation.lengthDelta := by
    rw [List.map_map]
    refine List.map_congr_left fun operation given => ?_
    exact (inRange_of_apply_ok accepted operation (perm.mem_iff.mpr given)).growth_cut
  rw [← String.length_toList, ← String.length_toList, spliced.length_eq, grown,
    (perm.map Operation.lengthDelta).sum_eq]

end

/-! ### Replacing all matches -/

theorem lengthDelta_operationFor {source : String} {m : Match} (stands : m.StandsIn source)
    (options : Options) (replacement : String) :
    (operationFor options replacement m).lengthDelta =
      (operationFor options replacement m).replacement.length - m.length := by
  have nonempty := stands.nonempty
  have span : ((operationFor options replacement m).endColumn : Int) -
      (operationFor options replacement m).startColumn = m.length := by
    simp only [operationFor, Match.length]
    omega
  rw [Operation.lengthDelta, span]

theorem apply_of_replaceAll_ok {source query replacement : String} {options : Options}
    {outcome : Outcome} (replaced : replaceAll source query options replacement = .ok outcome) :
    apply source (planAll (Search.find source query options) replacement) = .ok outcome.text := by
  obtain ⟨text, applied, _⟩ := apply_planAll_find source query options replacement
  unfold replaceAll at replaced
  dsimp only at replaced
  split at replaced
  · cases replaced
  · rw [applied] at replaced ⊢
    cases replaced
    rfl

/-- Lengths add up. In an accepted batch no operation ends before it starts, and what it adds to its line
lies between what the source has and what is put in. The result is as long as the source and all that the
operations add. Replacing all matches therefore adds, for each match, the difference between what is put
in its place and its own length. -/
theorem lengths_add_up (source : String) :
    (∀ (operations : List Operation) (text : String), apply source operations = .ok text →
      (∀ operation ∈ operations, operation.startColumn ≤ operation.endColumn ∧
        -(source.length : Int) ≤ operation.lengthDelta ∧
        operation.lengthDelta ≤ operation.replacement.length) ∧
      (text.length : Int) = source.length + (operations.map Operation.lengthDelta).sum) ∧
    ∀ (query : String) (options : Options) (replacement : String) (outcome : Outcome),
      replaceAll source query options replacement = .ok outcome →
      (outcome.text.length : Int) = source.length +
        ((Search.find source query options).found.map fun m =>
          ((operationFor options replacement m).replacement.length : Int) - m.length).sum := by
  refine ⟨fun operations text accepted => ⟨fun operation given => ?_, length_of_apply_ok accepted⟩,
    fun query options replacement outcome replaced => ?_⟩
  · have inRange := inRange_of_apply_ok accepted operation given
    exact ⟨inRange.order, inRange.lengthDelta_bounds⟩
  · have perm := planAll_find_perm source query options replacement
    have deltas : ((Search.find source query options).found.map (operationFor options replacement)).map
        Operation.lengthDelta = (Search.find source query options).found.map fun m =>
          ((operationFor options replacement m).replacement.length : Int) - m.length := by
      rw [List.map_map]
      refine List.map_congr_left fun m found => ?_
      exact lengthDelta_operationFor (Search.find_standsIn _ _ _ found) options replacement
    rw [length_of_apply_ok (apply_of_replaceAll_ok replaced),
      (perm.map Operation.lengthDelta).sum_eq, deltas]

end StoryScript.Edit
