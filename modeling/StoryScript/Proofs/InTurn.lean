import StoryScript.Proofs.EditedLines
import StoryScript.Proofs.Literals
import StoryScript.Proofs.PlanOrder

/-! Applying a plan one operation at a time. The plan for all matches goes from the end of the source
to its start, so what was replaced already does not move what is still to be replaced. Yet a match
that ends with a carriage return can be lost: if the text behind it goes, or begins with a newline
now, the carriage return becomes part of the line's end and can no longer be edited. -/
namespace StoryScript.Edit

open Search (Match MatchSet Options)
open Text (position HasColumn LineEndsAt)

/-- Applies operations one after the other, each to the text that the one before it has left. -/
def applyInTurn (source : String) (operations : List Operation) : Except Error String :=
  operations.foldlM (fun text operation => apply text [operation]) source

theorem applyInTurn_append (source : String) (first later : List Operation) :
    applyInTurn source (first ++ later) = applyInTurn source first >>= (applyInTurn · later) :=
  List.foldlM_append

@[simp] theorem applyInTurn_singleton (source : String) (operation : Operation) :
    applyInTurn source [operation] = apply source [operation] := by
  simp [applyInTurn]

/-! ### One operation after the later ones -/

/-- The stretch of the operation ends with a carriage return, and its line ends there once the later
operations are applied. -/
def Operation.Exposed (source : String) (operation : Operation) (later : List Operation) : Prop :=
  source.toList[(operation.cut source).stop - 1]? = some '\r' ∧
    ∃ text, apply source later = .ok text ∧ LineEndsAt text.toList (operation.cut source).stop

theorem apply_of_not_inRange {source : String} {operation : Operation}
    (outside : ¬ operation.InRange source) :
    apply source [operation] =
      .error (.outOfRange operation.line operation.startColumn operation.endColumn) := by
  have unresolved : operation.resolve? (Text.lines source) = none := by
    rw [Option.eq_none_iff_forall_not_mem]
    intro edit resolved
    exact outside ((Operation.resolve?_eq_some_iff source operation edit).mp resolved).1
  simp only [apply, resolve, List.mapM_cons, Operation.resolve, unresolved, bind, Except.bind]

section

variable {source text : String} {first : Operation} {later : List Operation}

theorem take_eq_of_apply (inRange : ∀ operation ∈ first :: later, operation.InRange source)
    (apart : (first :: later).Pairwise (Operation.Before source))
    (applied : apply source later = .ok text) :
    text.toList.take (first.cut source).stop = source.toList.take (first.cut source).stop := by
  obtain ⟨_, inRange⟩ := List.forall_mem_cons.mp inRange
  obtain ⟨before, apart⟩ := List.pairwise_cons.mp apart
  refine (spliced_of_apply inRange apart applied).take_eq fun cut member => ?_
  obtain ⟨operation, planned, rfl⟩ := List.mem_map.mp member
  exact (before operation planned).apart

/-- After the later operations the first one is in range, unless it is exposed by them. -/
theorem inRange_iff_not_exposed (inRange : ∀ operation ∈ first :: later, operation.InRange source)
    (apart : (first :: later).Pairwise (Operation.Before source))
    (nonempty : first.startColumn < first.endColumn) (applied : apply source later = .ok text) :
    (first.InRange text ↔ ¬ first.Exposed source later) ∧ first.cut text = first.cut source := by
  have same := take_eq_of_apply inRange apart applied
  obtain ⟨order, start, stop⟩ := inRange first List.mem_cons_self
  have past : 1 < first.endColumn := Nat.lt_of_le_of_lt start.positive nonempty
  have positions := Text.position_of_take_eq stop past same
  have column := Text.hasColumn_iff_of_take_eq stop past same
  constructor
  · constructor
    · rintro ⟨_, _, stop'⟩ ⟨carriageReturn, text', applied', ends⟩
      obtain rfl := Except.ok.inj (applied.symm.trans applied')
      exact column.mp stop' ⟨carriageReturn, ends⟩
    · intro sheltered
      have stop' : HasColumn text first.line first.endColumn :=
        column.mpr fun exposed => sheltered ⟨exposed.1, text, applied, exposed.2⟩
      obtain ⟨line, found, inside⟩ := stop'.inside
      exact ⟨order, ⟨start.positive, line, found, Nat.le_trans order inside⟩, stop'⟩
  · simp only [Operation.cut, positions]

/-- The first operation, applied after the later ones, completes the batch. -/
theorem apply_first_last (inRange : ∀ operation ∈ first :: later, operation.InRange source)
    (apart : (first :: later).Pairwise (Operation.Before source))
    (nonempty : first.startColumn < first.endColumn) (applied : apply source later = .ok text)
    (sheltered : ¬ first.Exposed source later) :
    apply text [first] = apply source (first :: later) := by
  obtain ⟨still, cut⟩ := inRange_iff_not_exposed inRange apart nonempty applied
  obtain ⟨whole, appliedAll, all⟩ := apply_of_perm (List.Perm.refl _) inRange apart
  obtain ⟨result, appliedFirst, one⟩ := apply_of_perm (List.Perm.refl [first])
    (List.forall_mem_singleton.mpr (still.mpr sheltered)) (List.pairwise_singleton _ _)
  have others := spliced_of_apply (List.forall_mem_cons.mp inRange).2
    (List.pairwise_cons.mp apart).2 applied
  rw [List.map_singleton, cut] at one
  rw [appliedFirst, appliedAll, String.toList_inj.mp (one.unique (all.first_last others))]

end

/-! ### All operations -/

section

variable {source : String} {ordered : List Operation}

/-- Operations that are never exposed can be applied from the back, one at a time. -/
theorem applyInTurn_of_sheltered (inRange : ∀ operation ∈ ordered, operation.InRange source)
    (apart : ordered.Pairwise (Operation.Before source))
    (nonempty : ∀ operation ∈ ordered, operation.startColumn < operation.endColumn)
    (sheltered : ∀ operation later, operation :: later <:+ ordered →
      ¬ operation.Exposed source later) :
    applyInTurn source ordered.reverse = apply source ordered := by
  induction ordered with
  | nil => simp [applyInTurn, pure, Except.pure]
  | cons first later ih =>
    obtain ⟨_, inRange'⟩ := List.forall_mem_cons.mp inRange
    obtain ⟨_, apart'⟩ := List.pairwise_cons.mp apart
    obtain ⟨nonemptyFirst, nonempty'⟩ := List.forall_mem_cons.mp nonempty
    obtain ⟨text, applied, _⟩ := apply_of_perm (List.Perm.refl later) inRange' apart'
    have others : applyInTurn source later.reverse = .ok text := by
      rw [← applied]
      exact ih inRange' apart' nonempty' fun operation rest suffix =>
        sheltered operation rest (suffix.trans (List.suffix_cons _ _))
    have completed := apply_first_last inRange apart nonemptyFirst applied
      (sheltered first later (List.suffix_refl _))
    rw [List.reverse_cons, applyInTurn_append, others, ← completed]
    exact applyInTurn_singleton text first

/-- Of the operations that are exposed, the last one in the source is refused. -/
theorem applyInTurn_of_exposed (inRange : ∀ operation ∈ ordered, operation.InRange source)
    (apart : ordered.Pairwise (Operation.Before source))
    (nonempty : ∀ operation ∈ ordered, operation.startColumn < operation.endColumn)
    {operation : Operation} {later : List Operation} (suffix : operation :: later <:+ ordered)
    (exposed : operation.Exposed source later)
    (sheltered : ∀ other rest, other :: rest <:+ later → ¬ other.Exposed source rest) :
    applyInTurn source ordered.reverse =
      .error (.outOfRange operation.line operation.startColumn operation.endColumn) := by
  obtain ⟨earlier, rfl⟩ := suffix
  have inRange' := (List.forall_mem_append.mp inRange).2
  have apart' := (List.pairwise_append.mp apart).2.1
  obtain ⟨nonemptyFirst, nonempty'⟩ :=
    List.forall_mem_cons.mp (List.forall_mem_append.mp nonempty).2
  obtain ⟨_, inRangeLater⟩ := List.forall_mem_cons.mp inRange'
  obtain ⟨_, apartLater⟩ := List.pairwise_cons.mp apart'
  obtain ⟨text, applied, _⟩ := apply_of_perm (List.Perm.refl later) inRangeLater apartLater
  have others := applyInTurn_of_sheltered inRangeLater apartLater nonempty' sheltered
  have outside : ¬ operation.InRange text := fun inside =>
    (inRange_iff_not_exposed inRange' apart' nonemptyFirst applied).1.mp inside exposed
  rw [List.reverse_append, List.reverse_cons, applyInTurn_append, applyInTurn_append, others, applied]
  simp only [bind, Except.bind, applyInTurn_singleton, apply_of_not_inRange outside]

end

/-- A property of an entry and those behind it holds for none, or there is a last entry it holds
for. -/
theorem none_or_last {α : Type} (holds : α → List α → Prop) (entries : List α) :
    (∀ entry later, entry :: later <:+ entries → ¬ holds entry later) ∨
    ∃ entry later, entry :: later <:+ entries ∧ holds entry later ∧
      ∀ other rest, other :: rest <:+ later → ¬ holds other rest := by
  induction entries with
  | nil => exact .inl (by simp)
  | cons first others ih =>
    rcases ih with none | ⟨entry, later, suffix, holding, last⟩
    · by_cases held : holds first others
      · exact .inr ⟨first, others, List.suffix_refl _, held, none⟩
      · refine .inl fun entry later suffix => ?_
        rcases List.suffix_cons_iff.mp suffix with same | further
        · cases same
          exact held
        · exact none entry later further
    · exact .inr ⟨entry, later, suffix.trans (List.suffix_cons _ _), holding, last⟩

section

variable (source : String) (options : Options) (replacement : String)

/-- The match ends with a carriage return, and its line ends there once the later matches are
replaced. -/
def ExposedMatch (m : Match) (later : List Match) : Prop :=
  m.matchedText.toList.getLast? = some '\r' ∧
    ∃ text, apply source (later.map (operationFor options replacement)) = .ok text ∧
      LineEndsAt text.toList (position source m.line m.endColumn)

variable {source options replacement}

theorem getLast?_matchedText {m : Match} (stands : m.StandsIn source) :
    m.matchedText.toList.getLast? = source.toList[position source m.line m.endColumn - 1]? := by
  obtain ⟨line, found, text⟩ := Option.map_eq_some_iff.mp stands.line
  obtain ⟨_, piece, atPiece, rfl⟩ := (Text.line?_eq_some_iff ..).mp found
  have column := stands.column
  have nonempty := stands.nonempty
  have inside := stands.inside
  rw [← text, String.length_ofList] at inside
  rw [Text.getElem?_position_sub_one atPiece (by omega) inside, stands.matched, ← text,
    String.toList_ofList, Search.slice,
    Text.getLast?_take_of_le (by omega) (by rw [List.length_drop]; omega), List.getElem?_drop]
  congr 1
  omega

theorem exposedMatch_iff {m : Match} (stands : m.StandsIn source) (later : List Match) :
    ExposedMatch source options replacement m later ↔
      (operationFor options replacement m).Exposed source
        (later.map (operationFor options replacement)) := by
  rw [ExposedMatch, getLast?_matchedText stands]
  rfl

theorem not_exposed_of_matches {found : List Match} (stands : ∀ m ∈ found, m.StandsIn source)
    (sheltered : ∀ m later, m :: later <:+ found →
      ¬ ExposedMatch source options replacement m later)
    (operation : Operation) (later : List Operation)
    (suffix : operation :: later <:+ found.map (operationFor options replacement)) :
    ¬ operation.Exposed source later := by
  obtain ⟨rest, behind, mapped⟩ := List.suffix_map_iff.mp suffix
  obtain ⟨m, more, rfl, rfl, rfl⟩ := List.map_eq_cons_iff.mp mapped.symm
  rw [← exposedMatch_iff (stands m (behind.mem List.mem_cons_self))]
  exact sheltered m more behind

end

section

variable {source query : String} {options : Options} {replacement : String}

theorem find_operations_nonempty :
    ∀ operation ∈ (Search.find source query options).found.map (operationFor options replacement),
      operation.startColumn < operation.endColumn := by
  intro operation member
  obtain ⟨m, found, rfl⟩ := List.mem_map.mp member
  exact (Search.find_standsIn _ _ _ found).nonempty

theorem applyInTurn_planAll_of_sheltered
    (sheltered : ∀ m later, m :: later <:+ (Search.find source query options).found →
      ¬ ExposedMatch source options replacement m later) :
    applyInTurn source (planAll (Search.find source query options) replacement) =
      apply source (planAll (Search.find source query options) replacement) := by
  have inRange := find_operations_inRange source query options replacement
  have apart := find_operations_pairwise source query options replacement
  have stands : ∀ m ∈ (Search.find source query options).found, m.StandsIn source :=
    fun _ => Search.find_standsIn source query options
  rw [planAll_find_eq_reverse, apply_eq_of_perm (List.reverse_perm _) inRange apart]
  exact applyInTurn_of_sheltered inRange apart find_operations_nonempty
    (not_exposed_of_matches stands sheltered)

theorem applyInTurn_planAll_of_exposed {m : Match} {later : List Match}
    (suffix : m :: later <:+ (Search.find source query options).found)
    (exposed : ExposedMatch source options replacement m later)
    (last : ∀ other rest, other :: rest <:+ later →
      ¬ ExposedMatch source options replacement other rest) :
    applyInTurn source (planAll (Search.find source query options) replacement) =
      .error (.outOfRange m.line m.column m.endColumn) := by
  have stands : ∀ other ∈ m :: later, other.StandsIn source :=
    fun _ member => Search.find_standsIn source query options (suffix.mem member)
  rw [planAll_find_eq_reverse]
  refine applyInTurn_of_exposed (find_operations_inRange source query options replacement)
    (find_operations_pairwise source query options replacement) find_operations_nonempty
    (suffix.map _) ((exposedMatch_iff (stands m List.mem_cons_self) later).mp exposed) ?_
  exact not_exposed_of_matches
    (fun other member => stands other (List.mem_cons_of_mem _ member)) last

end

/-- One at a time, from the end of the source to its start, the operations for all matches give what
they give as a batch, which is always accepted; unless a match is exposed by the replacements behind
it. Then the last match to which this happens is refused. -/
theorem applyInTurn_planAll (source query : String) (options : Options) (replacement : String) :
    let found := (Search.find source query options).found
    let plan := planAll (Search.find source query options) replacement
    ∃ text, apply source plan = .ok text ∧
      (∀ result, applyInTurn source plan = .ok result ↔
        result = text ∧ ∀ m later, m :: later <:+ found →
          ¬ ExposedMatch source options replacement m later) ∧
      ∀ error, applyInTurn source plan = .error error ↔
        ∃ m later, m :: later <:+ found ∧ ExposedMatch source options replacement m later ∧
          (∀ other rest, other :: rest <:+ later →
            ¬ ExposedMatch source options replacement other rest) ∧
          error = .outOfRange m.line m.column m.endColumn := by
  intro found plan
  obtain ⟨text, batch, _⟩ := apply_planAll_find source query options replacement
  refine ⟨text, batch, ?_⟩
  rcases none_or_last (ExposedMatch source options replacement) found with
    none | ⟨m, later, suffix, exposed, last⟩
  · have done : applyInTurn source plan = .ok text :=
      (applyInTurn_planAll_of_sheltered none).trans batch
    constructor
    · intro result
      rw [done, Except.ok.injEq, eq_comm]
      exact ⟨fun same => ⟨same, none⟩, And.left⟩
    · intro error
      rw [done]
      refine ⟨nofun, ?_⟩
      rintro ⟨m, later, suffix, exposed, _⟩
      exact absurd exposed (none m later suffix)
  · have refused : applyInTurn source plan = .error (.outOfRange m.line m.column m.endColumn) :=
      applyInTurn_planAll_of_exposed suffix exposed last
    constructor
    · intro result
      rw [refused]
      exact ⟨nofun, fun accepted => absurd exposed (accepted.2 m later suffix)⟩
    · intro error
      constructor
      · intro failed
        rw [refused] at failed
        exact ⟨m, later, suffix, exposed, last, (Except.error.inj failed).symm⟩
      · rintro ⟨m, later, suffix, exposed, last, rfl⟩
        exact applyInTurn_planAll_of_exposed suffix exposed last

/-- Two carriage returns are replaced by newlines: the second newline makes a line's end of the first
carriage return, which can then no longer be replaced. -/
theorem applyInTurn_refuses_carriage_return :
    let plan := planAll (Search.find "\r\rx" "\r" .default) "\n"
    apply "\r\rx" plan = .ok "\n\nx" ∧
      applyInTurn "\r\rx" plan = .error (.outOfRange 1 1 2) := by
  have found : (Search.find "\r\rx" "\r" .default).found =
      [⟨1, 1, 2, "\r", "\r\rx", []⟩, ⟨1, 2, 3, "\r", "\r\rx", []⟩] := by
    rw [Search.find_literal "\r\rx" rfl (by decide) (by decide +kernel)]
    decide +kernel
  have planned : planAll (Search.find "\r\rx" "\r" .default) "\n" =
      [⟨1, 2, 3, "\n"⟩, ⟨1, 1, 2, "\n"⟩] := by
    rw [planAll_find_eq_reverse, found]
    rfl
  have batch : apply "\r\rx" (planAll (Search.find "\r\rx" "\r" .default) "\n") = .ok "\n\nx" := by
    rw [apply_planAll_find_eq, found]
    decide +kernel
  have second : apply "\r\rx" [⟨1, 2, 3, "\n"⟩] = .ok "\r\nx" := by
    rw [apply_singleton]
    decide +kernel
  have first : apply "\r\nx" [⟨1, 1, 2, "\n"⟩] = .error (.outOfRange 1 1 2) := by
    rw [apply_singleton]
    decide +kernel
  intro plan
  refine ⟨batch, ?_⟩
  simp only [plan, planned, applyInTurn, List.foldlM_cons, second, first, bind, Except.bind]

end StoryScript.Edit
