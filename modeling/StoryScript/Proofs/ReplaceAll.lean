import StoryScript.Edit.Replacement
import StoryScript.Proofs.Matches
import StoryScript.Proofs.Splicing

/-! Replacing all matches of a query. The operations for the matches of a source are in range and
follow one another, so a plan made for the source it is applied to is never refused. -/
namespace StoryScript.Edit

open Search (Match MatchSet Options)
open Text (position)

section

variable {source : String} {options : Options} {replacement : String}

theorem inRange_of_standsIn {m : Match} (stands : m.StandsIn source) (text : String) :
    Operation.InRange source ⟨m.line, m.column, m.endColumn, text⟩ := by
  have order := Nat.le_of_lt stands.nonempty
  have positive := stands.column
  exact ⟨order, stands.hasColumn positive order,
    stands.hasColumn (Nat.le_trans positive order) (Nat.le_refl _)⟩

theorem operationFor_inRange {m : Match} (stands : m.StandsIn source) :
    (operationFor options replacement m).InRange source :=
  inRange_of_standsIn stands _

theorem operationFor_before {a b : Match} (stands : a.StandsIn source) (precedes : a.Precedes b) :
    Operation.Before source (operationFor options replacement a)
      (operationFor options replacement b) := by
  have positive := stands.column
  have nonempty := stands.nonempty
  have apart : position source a.line a.endColumn ≤ position source b.line b.column := by
    rcases precedes with less | ⟨same, le⟩
    · exact (stands.hasColumn (by omega) (Nat.le_refl _)).position_le_of_line_lt less _
    · rw [same, position, position]
      omega
  have longer : position source a.line a.column < position source a.line a.endColumn := by
    rw [position, position]
    omega
  exact ⟨apart, Nat.lt_of_lt_of_le longer apart⟩

end

/-- Cuts that put back what they take out leave a text as it is. -/
theorem Spliced.eq_self {whole text result : List Char} {place : Nat} {cuts : List Cut}
    (spliced : Spliced place text cuts result) (behind : text = whole.drop place)
    (same : ∀ cut ∈ cuts, cut.put = Search.slice whole cut.start cut.stop) : result = text := by
  induction spliced with
  | rest => rfl
  | @cut place kept removed text result first later start stop _ ih =>
    have atStart : whole.drop first.start = removed ++ text := by
      rw [← start, ← List.drop_drop, ← behind, List.append_assoc, List.drop_left]
    have atStop : text = whole.drop first.stop := by
      rw [← stop, ← List.drop_drop, atStart, List.drop_left]
    have put : first.put = removed := by
      rw [same first List.mem_cons_self, Search.slice, atStart, ← stop, Nat.add_sub_cancel_left,
        List.take_left]
    rw [put, ih atStop fun cut member => same cut (List.mem_cons_of_mem _ member)]

theorem planAll_perm (set : MatchSet) (replacement : String) :
    (planAll set replacement).Perm (set.found.map (operationFor set.options replacement)) :=
  List.mergeSort_perm _ _

@[simp] theorem length_planAll (set : MatchSet) (replacement : String) :
    (planAll set replacement).length = set.found.length := by
  simp [(planAll_perm set replacement).length_eq]

theorem planAll_eq_nil {set : MatchSet} (none : set.found = []) (replacement : String) :
    planAll set replacement = [] := by
  simp [planAll, none]

theorem replaceAll_of_usable {source query : String} {options : Options}
    (usable : Search.Usable query options) {replacement text : String}
    (applied : apply source (planAll (Search.find source query options) replacement) = .ok text) :
    replaceAll source query options replacement =
      .ok ⟨text, (Search.find source query options).found.length, true⟩ := by
  have sound := (Search.find_patternError_eq_none_iff source query options).mpr usable
  simp only [replaceAll, sound, applied, bind, Except.bind, length_planAll]
  rfl

section

variable (source query : String) (options : Options) (replacement : String)

theorem find_operations_inRange :
    ∀ operation ∈ (Search.find source query options).found.map (operationFor options replacement),
      operation.InRange source := by
  intro operation member
  obtain ⟨m, found, rfl⟩ := List.mem_map.mp member
  exact operationFor_inRange (Search.find_standsIn _ _ _ found)

theorem find_operations_pairwise :
    ((Search.find source query options).found.map (operationFor options replacement)).Pairwise
      (Operation.Before source) :=
  List.pairwise_map.mpr ((Search.find_pairwise source query options).imp_of_mem
    fun member _ precedes => operationFor_before (Search.find_standsIn _ _ _ member) precedes)

def cutFor (m : Match) : Cut :=
  ⟨position source m.line m.column, position source m.line m.endColumn,
    (if options.regex then expand replacement m else replacement).toList⟩

theorem operationFor_cut (m : Match) :
    (operationFor options replacement m).cut source = cutFor source options replacement m := rfl

theorem planAll_find_perm :
    (planAll (Search.find source query options) replacement).Perm
      ((Search.find source query options).found.map (operationFor options replacement)) := by
  have perm := planAll_perm (Search.find source query options) replacement
  rwa [Search.find_options] at perm

theorem apply_planAll_find_eq :
    apply source (planAll (Search.find source query options) replacement) =
      .ok (String.ofList (weave 0 source.toList
        (((Search.find source query options).found.map (operationFor options replacement)).map
          (·.resolved source)))) :=
  apply_eq_weave (planAll_find_perm source query options replacement)
    (find_operations_inRange source query options replacement)
    (find_operations_pairwise source query options replacement)

theorem apply_planAll_find :
    ∃ text, apply source (planAll (Search.find source query options) replacement) = .ok text ∧
      Spliced 0 source.toList
        ((Search.find source query options).found.map (cutFor source options replacement))
        text.toList := by
  obtain ⟨text, applied, spliced⟩ := apply_of_perm
    (planAll_find_perm source query options replacement)
    (find_operations_inRange source query options replacement)
    (find_operations_pairwise source query options replacement)
  exact ⟨text, applied, by simpa [Function.comp_def, operationFor_cut] using spliced⟩

theorem apply_planOne_find {source query : String} {options : Options} {index : Nat}
    {replacement : String} {operation : Operation}
    (planned : planOne (Search.find source query options) index replacement = some operation) :
    ∃ text, apply source [operation] = .ok text := by
  obtain ⟨m, found, rfl⟩ := Option.map_eq_some_iff.mp planned
  have stands := Search.find_standsIn _ _ _ (List.mem_of_getElem? found)
  obtain ⟨text, applied, _⟩ := apply_of_perm (List.Perm.refl [operationFor _ replacement m])
    (List.forall_mem_singleton.mpr (operationFor_inRange stands)) (List.pairwise_singleton _ _)
  exact ⟨text, applied⟩

/-- Replacing all matches fails exactly for a query that cannot be used, and with its error. Otherwise
each match, which stands inside the text of its line, is replaced and all else is kept. -/
theorem replaceAll_exact :
    (∀ error, replaceAll source query options replacement = .error error ↔
      query ≠ "" ∧ ∃ fault, Search.compile query options = .error fault ∧
        error = .invalidQuery (Search.invalidPattern fault.message)) ∧
    ∀ outcome, replaceAll source query options replacement = .ok outcome →
      outcome.count = (Search.find source query options).found.length ∧
      (∀ m ∈ (Search.find source query options).found, m.StandsIn source) ∧
      Spliced 0 source.toList
        ((Search.find source query options).found.map (cutFor source options replacement))
        outcome.text.toList := by
  obtain ⟨text, applied, spliced⟩ := apply_planAll_find source query options replacement
  have blamed := Search.find_patternError_eq_some_iff source query options
  unfold replaceAll
  dsimp only
  cases failed : (Search.find source query options).patternError with
  | some reason =>
    obtain ⟨nonempty, fault, notCompiled, rfl⟩ := (blamed reason).mp failed
    constructor
    · intro error
      simp [nonempty, notCompiled, eq_comm]
    · intro outcome succeeded
      cases succeeded
  | none =>
    simp only [applied, bind, Except.bind, pure, Except.pure]
    constructor
    · intro error
      simp only [reduceCtorEq, false_iff]
      rintro ⟨nonempty, fault, notCompiled, _⟩
      have := (blamed _).mpr ⟨nonempty, fault, notCompiled, rfl⟩
      rw [failed] at this
      cases this
    · rintro _ ⟨⟩
      exact ⟨length_planAll _ _, fun m member => Search.find_standsIn _ _ _ member, spliced⟩

end

end StoryScript.Edit
