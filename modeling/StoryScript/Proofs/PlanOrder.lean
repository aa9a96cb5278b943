import StoryScript.Proofs.ReplaceAll
import StoryScript.Proofs.StableSorting

/-! The order of a plan. The plan for all matches holds the plans for the single matches, whatever the
matches are and in whatever order they come. It goes from the end of the source to its start, and where
two operations start at one place they stay in the order of their matches. The matches of a search start
at different places and in order, so their plan has them the other way round. -/
namespace StoryScript.Edit

open Search (Match MatchSet Options)

theorem comesFirst_iff {a b : Operation} : comesFirst a b ↔
    b.line < a.line ∨ a.line = b.line ∧ b.startColumn ≤ a.startColumn := by
  simp [comesFirst]

theorem comesFirst_trans (a b c : Operation) (ab : comesFirst a b) (bc : comesFirst b c) :
    comesFirst a c := by
  rw [comesFirst_iff] at *
  omega

theorem comesFirst_total (a b : Operation) : (comesFirst a b || comesFirst b a) = true := by
  rw [Bool.or_eq_true, comesFirst_iff, comesFirst_iff]
  omega

/-- The plan for the matches of a source has them in the opposite order. -/
theorem planAll_find_eq_reverse (source query : String) (options : Options) (replacement : String) :
    planAll (Search.find source query options) replacement =
      ((Search.find source query options).found.map (operationFor options replacement)).reverse := by
  have perm := planAll_find_perm source query options replacement
  -- No two operations of the plan start at one place.
  have increasing : ((Search.find source query options).found.map
      (operationFor options replacement)).Pairwise fun a b =>
        a.line < b.line ∨ a.line = b.line ∧ a.startColumn < b.startColumn :=
    List.pairwise_map.mpr (Search.find_ascending source query options)
  refine List.Perm.eq_of_pairwise ?_ (List.pairwise_mergeSort comesFirst_trans comesFirst_total _) ?_
    (perm.trans (List.reverse_perm _).symm)
  · intro a b memberA memberB ab ba
    rw [comesFirst_iff] at ab ba
    rw [perm.mem_iff] at memberA
    rw [List.mem_reverse] at memberB
    exact eq_of_pairwise increasing memberA memberB (by omega) (by omega)
  · rw [List.pairwise_reverse]
    refine increasing.imp fun before => ?_
    rw [comesFirst_iff]
    omega

def Operation.startsAt (line column : Nat) (operation : Operation) : Bool :=
  operation.line == line && operation.startColumn == column

def singlePlans (set : MatchSet) (replacement : String) : List (Option Operation) :=
  (List.range set.found.length).map (planOne set · replacement)

section

variable (set : MatchSet) (replacement : String)

theorem singlePlans_eq :
    singlePlans set replacement = (set.found.map (operationFor set.options replacement)).map some := by
  refine List.ext_getElem (by simp [singlePlans]) fun index inside _ => ?_
  have found : index < set.found.length := by simpa [singlePlans] using inside
  simp [singlePlans, planOne, found]

theorem planAll_pairwise : (planAll set replacement).Pairwise fun a b =>
    b.line < a.line ∨ b.line = a.line ∧ b.startColumn ≤ a.startColumn := by
  refine (List.pairwise_mergeSort comesFirst_trans comesFirst_total _).imp fun first => ?_
  rcases comesFirst_iff.mp first with later | ⟨same, le⟩
  · exact .inl later
  · exact .inr ⟨same.symm, le⟩

/-- Operations that start at one place come in the order of their matches. -/
theorem filter_planAll (line column : Nat) :
    (planAll set replacement).filter (·.startsAt line column) =
      (set.found.map (operationFor set.options replacement)).filter (·.startsAt line column) := by
  rw [planAll, filter_mergeSort comesFirst_trans comesFirst_total]
  apply List.mergeSort_of_pairwise
  refine List.pairwise_of_forall_mem_list fun a memberA b memberB => ?_
  simp only [List.mem_filter, Operation.startsAt, Bool.and_eq_true, beq_iff_eq] at memberA memberB
  rw [comesFirst_iff]
  omega

end

/-- The plan for all matches of a search is made of the plans for its single matches, from the last to
the first. For any set of matches it has the same plans, later lines first and on a line later columns,
and those that start at one place in the order of their matches. -/
theorem planAll_eq_singlePlans (source query : String) (options : Options) (replacement : String) :
    (planAll (Search.find source query options) replacement).map some =
        (singlePlans (Search.find source query options) replacement).reverse ∧
    ∀ set : MatchSet,
      ((planAll set replacement).map some).Perm (singlePlans set replacement) ∧
      (planAll set replacement).Pairwise (fun a b =>
        b.line < a.line ∨ b.line = a.line ∧ b.startColumn ≤ a.startColumn) ∧
      ∀ line column, ((planAll set replacement).filter (·.startsAt line column)).map some =
        (singlePlans set replacement).filter (·.any (·.startsAt line column)) := by
  constructor
  · rw [planAll_find_eq_reverse, singlePlans_eq, Search.find_options, List.map_reverse]
  · intro set
    refine ⟨?_, planAll_pairwise set replacement, fun line column => ?_⟩
    · rw [singlePlans_eq]
      exact (planAll_perm set replacement).map some
    · rw [filter_planAll, singlePlans_eq]
      generalize set.found.map _ = operations
      rw [List.filter_map]
      rfl

end StoryScript.Edit
