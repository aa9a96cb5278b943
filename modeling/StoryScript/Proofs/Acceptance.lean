import StoryScript.Proofs.Batches
import StoryScript.Proofs.EditedLines

/-! Which batches of edits are accepted, and what does not depend on the order in which a batch is
written. Only neighbours in the order of the source are compared, yet a batch is accepted exactly when
all its operations are in range and any two of them are apart. Different columns stand at different
bytes, so a collision is reported at the same column whatever the order of the batch. -/
namespace StoryScript

/-! ### Columns and bytes -/

namespace Text

/-- A line that another one follows ends with a newline, which is not part of its text. -/
theorem length_body_lt {text piece : List Char} {index : Nat}
    (found : (pieces text)[index]? = some piece) (more : index + 1 < (pieces text).length) :
    (body piece).length < piece.length := by
  rcases pieces_cases text with ⟨_, ⟨_, none⟩ | ⟨_, one⟩⟩ | ⟨inside, later, _, made, split⟩
  · rw [none] at more
    cases more
  · rw [one, List.length_singleton] at more
    omega
  · rw [split] at found more
    cases index with
    | zero =>
      obtain rfl := Option.some.inj found
      have short := (dropFinal_isPrefix '\r' inside).length_le
      rw [body_append_newline, List.length_append, List.length_singleton]
      omega
    | succ index =>
      have shorter : later.length < text.length := by
        rw [made, List.length_append, List.length_cons]
        omega
      rw [List.getElem?_cons_succ] at found
      rw [List.length_cons] at more
      exact length_body_lt found (by omega)
termination_by text.length

section

variable {source : String} {line column line' column' : Nat}

theorem HasColumn.exists_piece (has : HasColumn source line column) :
    1 ≤ line ∧ ∃ piece, (pieces source.toList)[line - 1]? = some piece ∧
      column ≤ (body piece).length + 1 := by
  obtain ⟨found, lineFound, inside⟩ := has.inside
  obtain ⟨positive, piece, atPiece, rfl⟩ := (line?_eq_some_iff ..).mp lineFound
  exact ⟨positive, piece, atPiece, by simpa using inside⟩

/-- Between the columns of two lines there is at least the newline of the first. -/
theorem HasColumn.position_lt_of_line_lt (has : HasColumn source line column)
    (has' : HasColumn source line' column') (less : line < line') :
    position source line column < position source line' column' := by
  obtain ⟨positive, piece, atPiece, inside⟩ := has.exists_piece
  obtain ⟨_, _, atPiece', _⟩ := has'.exists_piece
  have bound := (List.getElem?_eq_some_iff.mp atPiece').1
  have longer := length_body_lt atPiece (by omega)
  obtain ⟨k, rfl⟩ := Nat.exists_eq_add_of_lt less
  have next : line + k + 1 - 1 = line - 1 + 1 + k := by omega
  simp only [position, next, List.take_add, List.take_one, List.head?_drop, atPiece,
    List.flatten_append, List.length_append, Option.toList, List.flatten_singleton]
  omega

theorem HasColumn.eq_of_position_eq (has : HasColumn source line column)
    (has' : HasColumn source line' column')
    (same : position source line column = position source line' column') :
    line = line' ∧ column = column' := by
  have positive := has.positive
  have positive' := has'.positive
  rcases Nat.lt_trichotomy line line' with less | rfl | less
  · have := has.position_lt_of_line_lt has' less
    omega
  · simp only [position] at same
    exact ⟨rfl, by omega⟩
  · have := has'.position_lt_of_line_lt has less
    omega

theorem HasColumn.eq_of_bytes_eq (has : HasColumn source line column)
    (has' : HasColumn source line' column')
    (same : byteLength (source.toList.take (position source line column)) =
      byteLength (source.toList.take (position source line' column'))) :
    line = line' ∧ column = column' := by
  apply has.eq_of_position_eq has'
  rcases Nat.lt_trichotomy (position source line column) (position source line' column') with
    less | eq | less
  · have := byteLength_take_lt source.toList less has'.position_le
    exact absurd same (Nat.ne_of_lt this)
  · exact eq
  · have := byteLength_take_lt source.toList less has.position_le
    exact absurd same (Nat.ne_of_gt this)

end

end Text

namespace Edit

section

variable {source : String}

/-- Operations in range that start at the same byte start at the same column of the same line. -/
theorem Operation.column_eq_of_start_eq {a b : Operation} (inRangeA : a.InRange source)
    (inRangeB : b.InRange source) (same : (a.resolved source).start = (b.resolved source).start) :
    a.line = b.line ∧ a.startColumn = b.startColumn :=
  inRangeA.start.eq_of_bytes_eq inRangeB.start same

theorem Operation.InRange.resolved_order {operation : Operation}
    (inRange : operation.InRange source) :
    (operation.resolved source).start ≤ (operation.resolved source).stop :=
  Text.byteLength_take_le _ inRange.cut_order

structure Operation.OnLine (source : String) (operation : Operation) : Prop where
  line : 1 ≤ operation.line ∧ operation.line ≤ (Text.lines source).length
  start : 1 ≤ operation.startColumn
  order : operation.startColumn ≤ operation.endColumn
  stop : ∀ line, (Text.lines source)[operation.line - 1]? = some line →
    operation.endColumn ≤ line.text.length + 1

theorem Operation.inRange_iff_onLine (operation : Operation) (source : String) :
    operation.InRange source ↔ operation.OnLine source := by
  constructor
  · rintro ⟨order, ⟨start, line, found, _⟩, ⟨_, line', found', stop⟩⟩
    have numbered : operation.line ≠ 0 := by
      have := ((Text.line?_eq_some_iff ..).mp found).1
      omega
    rw [Text.line?, if_neg numbered] at found found'
    have bound := (List.getElem?_eq_some_iff.mp found).1
    refine ⟨⟨by omega, by omega⟩, start, order, fun other atLine => ?_⟩
    obtain rfl := Option.some.inj (found'.symm.trans atLine)
    exact stop
  · rintro ⟨⟨first, last⟩, start, order, stop⟩
    obtain ⟨line, atLine⟩ : ∃ line, (Text.lines source)[operation.line - 1]? = some line :=
      ⟨_, List.getElem?_eq_getElem (by omega)⟩
    have found : Text.line? source operation.line = some line := by
      rw [Text.line?, if_neg (by omega), atLine]
    have inside := stop line atLine
    exact ⟨order, ⟨start, line, found, by omega⟩, ⟨by omega, line, found, inside⟩⟩

end

/-! ### Operations out of range -/

section

variable {source : String} {operations : List Operation}

theorem Operation.resolve_eq_error_iff {operation : Operation} {error : Error} :
    operation.resolve (Text.lines source) = .error error ↔ ¬ operation.OnLine source ∧
      error = .outOfRange operation.line operation.startColumn operation.endColumn := by
  have accepted := Operation.resolve?_eq_some_iff source operation
  simp only [Operation.inRange_iff_onLine] at accepted
  rw [Operation.resolve]
  cases found : operation.resolve? (Text.lines source) with
  | some edit =>
    have onLine := ((accepted edit).mp found).1
    simp [onLine]
  | none =>
    have outside : ¬ operation.OnLine source := fun onLine => by
      rw [(accepted _).mpr ⟨onLine, rfl⟩] at found
      cases found
    simp [outside, eq_comm]

structure FirstOutside (source : String) (operations : List Operation) (operation : Operation) :
    Prop where
  outside : ¬ operation.OnLine source
  first : ∃ before after, operations = before ++ operation :: after ∧
    ∀ earlier ∈ before, earlier.OnLine source

theorem firstOutside_cons {first operation : Operation} {later : List Operation} :
    FirstOutside source (first :: later) operation ↔
      (¬ first.OnLine source ∧ operation = first) ∨
        (first.OnLine source ∧ FirstOutside source later operation) := by
  constructor
  · rintro ⟨outside, before, after, split, onLine⟩
    cases before with
    | nil =>
      obtain ⟨rfl, _⟩ := List.cons.inj split
      exact .inl ⟨outside, rfl⟩
    | cons other before =>
      obtain ⟨rfl, rest⟩ := List.cons.inj split
      obtain ⟨inside, onLine⟩ := List.forall_mem_cons.mp onLine
      exact .inr ⟨inside, outside, before, after, rest, onLine⟩
  · rintro (⟨outside, rfl⟩ | ⟨inside, outside, before, after, rfl, onLine⟩)
    · exact ⟨outside, [], later, rfl, by simp⟩
    · exact ⟨outside, first :: before, after, rfl, List.forall_mem_cons.mpr ⟨inside, onLine⟩⟩

theorem not_firstOutside_nil (operation : Operation) : ¬ FirstOutside source [] operation := by
  rintro ⟨_, before, _, split, _⟩
  cases before <;> cases split

theorem exists_firstOutside_iff :
    (∃ operation, FirstOutside source operations operation) ↔
      ∃ operation ∈ operations, ¬ operation.OnLine source := by
  induction operations with
  | nil => simp [not_firstOutside_nil]
  | cons first later ih =>
    by_cases onLine : first.OnLine source <;> simp [firstOutside_cons, onLine, ih]

/-- Operations are resolved from the front, so the first one out of range is the one reported. -/
theorem mapM_resolve_eq_error_iff {error : Error} :
    operations.mapM (·.resolve (Text.lines source)) = .error error ↔
      ∃ operation, FirstOutside source operations operation ∧
        error = .outOfRange operation.line operation.startColumn operation.endColumn := by
  induction operations with
  | nil =>
    simp only [not_firstOutside_nil, false_and, exists_false, iff_false]
    rintro ⟨⟩
  | cons first later ih =>
    rw [List.mapM_cons]
    by_cases onLine : first.OnLine source
    · rw [((first.inRange_iff_onLine source).mpr onLine).resolve_eq]
      have rest : (do
            let edit ← Except.ok (first.resolved source)
            let edits ← later.mapM (·.resolve (Text.lines source))
            pure (edit :: edits)) = Except.error error ↔
          later.mapM (·.resolve (Text.lines source)) = .error error := by
        cases later.mapM (·.resolve (Text.lines source)) <;>
          simp [bind, Except.bind, pure, Except.pure]
      rw [rest, ih]
      simp [firstOutside_cons, onLine]
    · have failed : first.resolve (Text.lines source) =
          .error (.outOfRange first.line first.startColumn first.endColumn) :=
        Operation.resolve_eq_error_iff.mpr ⟨onLine, rfl⟩
      rw [failed]
      simp [firstOutside_cons, onLine, bind, Except.bind, eq_comm]

end

/-! ### Collisions -/

namespace Resolved

def span (edit : Resolved) : Nat × Nat := (edit.start, edit.stop)

/-- Two edits start at different bytes, and one of them ends before the other starts. -/
structure Apart (a b : Resolved) : Prop where
  starts : a.start ≠ b.start
  disjoint : a.stop ≤ b.start ∨ b.stop ≤ a.start

theorem Apart.symm {a b : Resolved} (apart : a.Apart b) : b.Apart a :=
  ⟨apart.starts.symm, apart.disjoint.symm⟩

/-- Of two edits in order that are apart, the first ends before the second starts. -/
theorem not_collides_of_apart {a b : Resolved} (precedes : a.precedes b) (apart : a.Apart b)
    (order : b.start ≤ b.stop) : a.collides b = false := by
  have starts := apart.starts
  have disjoint := apart.disjoint
  simp only [Resolved.precedes, Bool.or_eq_true, Bool.and_eq_true, decide_eq_true_eq,
    beq_iff_eq] at precedes
  simp only [collides, Bool.or_eq_false_iff, beq_eq_false_iff_ne, ne_eq, decide_eq_false_iff_not]
  omega

theorem collides_congr {a b c d : Resolved} (first : a.span = c.span) (second : b.span = d.span) :
    a.collides b = c.collides d := by
  obtain ⟨starts, stops⟩ := Prod.mk.inj first
  obtain ⟨starts', _⟩ := Prod.mk.inj second
  rw [collides, collides, starts, stops, starts']

end Resolved

section

variable {edits others : List Resolved}

/-- Which neighbours collide first is decided by their bytes. -/
theorem map_span_firstCollision (same : edits.map Resolved.span = others.map Resolved.span) :
    (firstCollision edits).map Resolved.span = (firstCollision others).map Resolved.span := by
  fun_induction firstCollision edits generalizing others with
  | case1 earlier later rest collides =>
    obtain ⟨earlier', _, rfl, first, more⟩ := List.map_eq_cons_iff.mp same.symm
    obtain ⟨later', rest', rfl, second, _⟩ := List.map_eq_cons_iff.mp more
    rw [firstCollision, Resolved.collides_congr first second, if_pos collides, Option.map_some,
      Option.map_some, second]
  | case2 earlier later rest apart ih =>
    obtain ⟨earlier', _, rfl, first, more⟩ := List.map_eq_cons_iff.mp same.symm
    obtain ⟨later', rest', rfl, second, _⟩ := List.map_eq_cons_iff.mp more
    rw [firstCollision, Resolved.collides_congr first second, if_neg apart]
    exact ih more.symm
  | case3 edits short =>
    have size := congrArg List.length same
    rw [List.length_map, List.length_map] at size
    cases others with
    | nil => rfl
    | cons earlier' more' =>
      cases more' with
      | nil => rfl
      | cons later' rest' =>
        obtain ⟨earlier, _, rfl, _, more⟩ := List.map_eq_cons_iff.mp same
        obtain ⟨later, rest, rfl, _, _⟩ := List.map_eq_cons_iff.mp more
        exact absurd rfl (short earlier later rest)

/-- Sorting puts the same bytes at the same places, in whatever order the edits were given. -/
theorem map_span_mergeSort (perm : edits.Perm others) :
    (edits.mergeSort Resolved.precedes).map Resolved.span =
      (others.mergeSort Resolved.precedes).map Resolved.span := by
  have sorted (given : List Resolved) :
      ((given.mergeSort Resolved.precedes).map Resolved.span).Pairwise
        fun a b => a.1 < b.1 ∨ a.1 = b.1 ∧ a.2 ≤ b.2 := by
    refine List.pairwise_map.mpr
      ((List.pairwise_mergeSort precedes_trans precedes_total given).imp fun {a b} before => ?_)
    simpa only [Resolved.span, Resolved.precedes, Bool.or_eq_true, Bool.and_eq_true,
      decide_eq_true_eq, beq_iff_eq] using before
  have permuted := (((List.mergeSort_perm edits Resolved.precedes).trans perm).trans
    (List.mergeSort_perm others Resolved.precedes).symm).map Resolved.span
  refine List.Perm.eq_of_pairwise ?_ (sorted edits) (sorted others) permuted
  intro a b _ _ ab ba
  exact Prod.ext (by omega) (by omega)

end

/-! ### Batches -/

section

variable {source : String} {operations permuted : List Operation}

def sortedEdits (source : String) (operations : List Operation) : List Resolved :=
  (operations.map (·.resolved source)).mergeSort Resolved.precedes

theorem mem_sortedEdits {edit : Resolved} :
    edit ∈ sortedEdits source operations ↔
      ∃ operation ∈ operations, operation.resolved source = edit := by
  rw [sortedEdits, List.mem_mergeSort, List.mem_map]

theorem resolve_of_onLine (onLine : ∀ operation ∈ operations, operation.OnLine source) :
    resolve source operations = match firstCollision (sortedEdits source operations) with
      | some edit => .error (.overlapping edit.operation.line edit.operation.startColumn)
      | none => .ok (sortedEdits source operations) := by
  have inRange (operation : Operation) (given : operation ∈ operations) :=
    (operation.inRange_iff_onLine source).mpr (onLine operation given)
  rw [resolve, mapM_resolve inRange]
  rfl

theorem FirstOutside.resolve_eq {operation : Operation}
    (first : FirstOutside source operations operation) : resolve source operations =
      .error (.outOfRange operation.line operation.startColumn operation.endColumn) := by
  rw [resolve, mapM_resolve_eq_error_iff.mpr ⟨operation, first, rfl⟩]
  rfl

/-- A batch is refused for its first operation out of range, or for a collision if there is none. -/
theorem resolve_cases (source : String) (operations : List Operation) :
    (∃ operation, FirstOutside source operations operation ∧ resolve source operations =
      .error (.outOfRange operation.line operation.startColumn operation.endColumn)) ∨
    ((∀ operation ∈ operations, operation.OnLine source) ∧
      resolve source operations = match firstCollision (sortedEdits source operations) with
        | some edit => .error (.overlapping edit.operation.line edit.operation.startColumn)
        | none => .ok (sortedEdits source operations)) := by
  by_cases onLine : ∀ operation ∈ operations, operation.OnLine source
  · exact .inr ⟨onLine, resolve_of_onLine onLine⟩
  · obtain ⟨outer, given, outside⟩ : ∃ operation ∈ operations, ¬ operation.OnLine source := by
      simpa using onLine
    obtain ⟨operation, first⟩ := exists_firstOutside_iff.mpr ⟨outer, given, outside⟩
    exact .inl ⟨operation, first, first.resolve_eq⟩

theorem resolve_eq_outOfRange_iff {line startColumn endColumn : Nat} :
    resolve source operations = .error (.outOfRange line startColumn endColumn) ↔
      ∃ operation, FirstOutside source operations operation ∧ operation.line = line ∧
        operation.startColumn = startColumn ∧ operation.endColumn = endColumn := by
  constructor
  · intro failed
    rcases resolve_cases source operations with ⟨operation, first, eq⟩ | ⟨_, eq⟩
    · rw [eq] at failed
      cases failed
      exact ⟨operation, first, rfl, rfl, rfl⟩
    · rw [eq] at failed
      split at failed <;> cases failed
  · rintro ⟨operation, first, rfl, rfl, rfl⟩
    exact first.resolve_eq

theorem resolve_eq_overlapping_iff {line column : Nat} :
    resolve source operations = .error (.overlapping line column) ↔
      (∀ operation ∈ operations, operation.OnLine source) ∧
        ∃ edit, firstCollision (sortedEdits source operations) = some edit ∧
          edit.operation.line = line ∧ edit.operation.startColumn = column := by
  constructor
  · intro failed
    rcases resolve_cases source operations with ⟨_, _, eq⟩ | ⟨onLine, eq⟩
    · rw [eq] at failed
      cases failed
    · rw [eq] at failed
      split at failed
      · rename_i edit found
        cases failed
        exact ⟨onLine, edit, found, rfl, rfl⟩
      · cases failed
  · rintro ⟨onLine, edit, found, rfl, rfl⟩
    rw [resolve_of_onLine onLine, found]

theorem mem_of_firstCollision {edits : List Resolved} {edit : Resolved}
    (found : firstCollision edits = some edit) : edit ∈ edits := by
  fun_induction firstCollision edits with
  | case1 earlier later rest _ =>
    obtain rfl := Option.some.inj found
    simp
  | case2 earlier later rest _ ih => exact List.mem_cons_of_mem _ (ih found)
  | case3 => cases found

/-- A collision is reported at the same place in whatever order the batch is written: the edits that
may stand in for one another have the same bytes, and so start at the same column. -/
theorem resolve_overlapping_of_perm (perm : permuted.Perm operations) {line column : Nat}
    (failed : resolve source operations = .error (.overlapping line column)) :
    resolve source permuted = .error (.overlapping line column) := by
  obtain ⟨onLine, edit, found, rfl, rfl⟩ := resolve_eq_overlapping_iff.mp failed
  have onLine' (operation : Operation) (given : operation ∈ permuted) : operation.OnLine source :=
    onLine operation (perm.mem_iff.mp given)
  have spans := map_span_firstCollision (map_span_mergeSort (perm.map (·.resolved source)))
  rw [← sortedEdits, ← sortedEdits, found, Option.map_some] at spans
  obtain ⟨edit', found', span⟩ := Option.map_eq_some_iff.mp spans
  obtain ⟨a, givenA, rfl⟩ := mem_sortedEdits.mp (mem_of_firstCollision found')
  obtain ⟨b, givenB, rfl⟩ := mem_sortedEdits.mp (mem_of_firstCollision found)
  have column := Operation.column_eq_of_start_eq
    ((a.inRange_iff_onLine source).mpr (onLine' a givenA))
    ((b.inRange_iff_onLine source).mpr (onLine b givenB)) (Prod.mk.inj span).1
  exact resolve_eq_overlapping_iff.mpr ⟨onLine', _, found', column⟩

/-- An accepted batch is accepted in any order, with the same edits. -/
theorem resolve_ok_of_perm (perm : permuted.Perm operations) {edits : List Resolved}
    (accepted : resolve source operations = .ok edits) : resolve source permuted = .ok edits := by
  obtain ⟨ordered, given, inRange, apart, rfl⟩ := resolve_eq_ok_iff.mp accepted
  exact resolve_of_perm (perm.trans given) inRange apart

/-- A batch is accepted exactly when its operations are in range and any two of them are apart. -/
theorem exists_resolve_eq_ok_iff :
    (∃ edits, resolve source operations = .ok edits) ↔
      (∀ operation ∈ operations, operation.OnLine source) ∧
        operations.Pairwise fun a b => (a.resolved source).Apart (b.resolved source) := by
  constructor
  · rintro ⟨edits, accepted⟩
    obtain ⟨ordered, perm, inRange, apart, _⟩ := resolve_eq_ok_iff.mp accepted
    refine ⟨fun operation given => ?_, ?_⟩
    · exact (operation.inRange_iff_onLine source).mp (inRange operation (perm.mem_iff.mp given))
    · refine (perm.pairwise_iff fun apart => apart.symm).mpr ?_
      refine (List.pairwise_map.mp (resolved_pairwise inRange apart)).imp fun follow => ?_
      exact ⟨Nat.ne_of_lt follow.2, .inl follow.1⟩
  · rintro ⟨onLine, apart⟩
    have perm := List.mergeSort_perm (operations.map (·.resolved source)) Resolved.precedes
    have sorted : (sortedEdits source operations).Pairwise (·.precedes ·) :=
      List.pairwise_mergeSort precedes_trans precedes_total _
    have everywhere : (sortedEdits source operations).Pairwise Resolved.Apart :=
      (perm.pairwise_iff fun apart => apart.symm).mpr (List.pairwise_map.mpr apart)
    have free : firstCollision (sortedEdits source operations) = none := by
      refine firstCollision_eq_none ((sorted.and everywhere).imp_of_mem ?_)
      intro a b _ memberB both
      obtain ⟨operation, given, rfl⟩ := mem_sortedEdits.mp memberB
      have inRange := (operation.inRange_iff_onLine source).mpr (onLine operation given)
      exact Resolved.not_collides_of_apart both.1 both.2 inRange.resolved_order
    exact ⟨_, by rw [resolve_of_onLine onLine, free]⟩

theorem apply_eq_map (source : String) (operations : List Operation) :
    apply source operations = (resolve source operations).map fun edits =>
      String.ofList (weave 0 source.toList edits) := by
  rw [apply]
  cases resolve source operations <;> rfl

theorem apply_eq_error_iff {error : Error} :
    apply source operations = .error error ↔ resolve source operations = .error error := by
  rw [apply_eq_map]
  cases resolve source operations <;> simp [Except.map]

theorem apply_eq_ok_iff {text : String} :
    apply source operations = .ok text ↔ ∃ edits, resolve source operations = .ok edits ∧
      String.ofList (weave 0 source.toList edits) = text := by
  rw [apply_eq_map]
  cases resolve source operations <;> simp [Except.map]

theorem apply_ok_of_perm (perm : permuted.Perm operations) {text : String}
    (accepted : apply source operations = .ok text) : apply source permuted = .ok text := by
  obtain ⟨edits, resolved, woven⟩ := apply_eq_ok_iff.mp accepted
  exact apply_eq_ok_iff.mpr ⟨edits, resolve_ok_of_perm perm resolved, woven⟩

/-- The text that an accepted batch gives is the source with the bytes of each operation replaced and
all else kept. -/
theorem spliced_of_apply_ok {text : String} (accepted : apply source operations = .ok text) :
    ∃ ordered, operations.Perm ordered ∧ ordered.Pairwise (Operation.Before source) ∧
      resolve source operations = .ok (ordered.map (·.resolved source)) ∧
      Spliced 0 source.toList (ordered.map (·.cut source)) text.toList := by
  obtain ⟨_, resolved, _⟩ := apply_eq_ok_iff.mp accepted
  obtain ⟨ordered, perm, inRange, apart, rfl⟩ := resolve_eq_ok_iff.mp resolved
  refine ⟨ordered, perm, apart, resolved, ?_⟩
  exact spliced_of_apply inRange apart (apply_ok_of_perm perm.symm accepted)

theorem exists_apply_eq_outOfRange_iff :
    (∃ line startColumn endColumn,
      apply source operations = .error (.outOfRange line startColumn endColumn)) ↔
      ∃ operation ∈ operations, ¬ operation.OnLine source := by
  rw [← exists_firstOutside_iff]
  constructor
  · rintro ⟨_, _, _, failed⟩
    obtain ⟨operation, first, _⟩ := resolve_eq_outOfRange_iff.mp (apply_eq_error_iff.mp failed)
    exact ⟨operation, first⟩
  · rintro ⟨operation, first⟩
    exact ⟨_, _, _, apply_eq_error_iff.mpr first.resolve_eq⟩

end

/-- What a batch does is said without regard to its order. An operation resolves if it names columns
of a line, and to the bytes before them. The batch is accepted exactly when all operations do so and
any two are apart, and then each stretch is replaced and all else kept. Written in another order it
gives the same edits and the same text, or is refused again: an operation out of range is reported
before any collision, the first of the batch if there are more, and a collision at the same place. -/
theorem apply_exact_in_any_order (source : String) (operations : List Operation) :
    (∀ (operation : Operation) (edit : Resolved),
      operation.resolve (Text.lines source) = .ok edit ↔
        operation.OnLine source ∧ edit = operation.resolved source) ∧
    ((∃ text, apply source operations = .ok text) ↔
      (∀ operation ∈ operations, operation.OnLine source) ∧
        operations.Pairwise fun a b => (a.resolved source).Apart (b.resolved source)) ∧
    (∀ text, apply source operations = .ok text →
      ∃ ordered, operations.Perm ordered ∧ ordered.Pairwise (Operation.Before source) ∧
        resolve source operations = .ok (ordered.map (·.resolved source)) ∧
        Spliced 0 source.toList (ordered.map (·.cut source)) text.toList) ∧
    (∀ permuted : List Operation, permuted.Perm operations →
      (∀ edits, resolve source permuted = .ok edits ↔ resolve source operations = .ok edits) ∧
      (∀ text, apply source permuted = .ok text ↔ apply source operations = .ok text) ∧
      ∀ line column, apply source permuted = .error (.overlapping line column) ↔
        apply source operations = .error (.overlapping line column)) ∧
    (∀ line startColumn endColumn,
      apply source operations = .error (.outOfRange line startColumn endColumn) ↔
        ∃ operation, FirstOutside source operations operation ∧ operation.line = line ∧
          operation.startColumn = startColumn ∧ operation.endColumn = endColumn) ∧
    ((∃ line startColumn endColumn,
      apply source operations = .error (.outOfRange line startColumn endColumn)) ↔
        ∃ operation ∈ operations, ¬ operation.OnLine source) ∧
    ∀ error, apply source operations = .error error →
      (∃ line startColumn endColumn, error = .outOfRange line startColumn endColumn) ∨
        ∃ line column, error = .overlapping line column := by
  refine ⟨fun operation edit => ?_, ?_, fun text => spliced_of_apply_ok, fun permuted perm => ?_,
    fun line startColumn endColumn => ?_, exists_apply_eq_outOfRange_iff, fun error failed => ?_⟩
  · rw [Operation.resolve_eq_ok_iff, Operation.inRange_iff_onLine]
  · rw [← exists_resolve_eq_ok_iff]
    constructor
    · rintro ⟨text, accepted⟩
      obtain ⟨edits, resolved, _⟩ := apply_eq_ok_iff.mp accepted
      exact ⟨edits, resolved⟩
    · rintro ⟨edits, resolved⟩
      exact ⟨_, apply_eq_ok_iff.mpr ⟨edits, resolved, rfl⟩⟩
  · refine ⟨fun edits => ?_, fun text => ?_, fun line column => ?_⟩
    · exact ⟨resolve_ok_of_perm perm.symm, resolve_ok_of_perm perm⟩
    · exact ⟨apply_ok_of_perm perm.symm, apply_ok_of_perm perm⟩
    · rw [apply_eq_error_iff, apply_eq_error_iff]
      exact ⟨resolve_overlapping_of_perm perm.symm, resolve_overlapping_of_perm perm⟩
  · rw [apply_eq_error_iff, resolve_eq_outOfRange_iff]
  · rw [apply_eq_error_iff] at failed
    rcases resolve_cases source operations with ⟨operation, _, eq⟩ | ⟨_, eq⟩
    · rw [eq] at failed
      cases failed
      exact .inl ⟨_, _, _, rfl⟩
    · rw [eq] at failed
      split at failed
      · cases failed
        exact .inr ⟨_, _, rfl⟩
      · cases failed

end Edit

end StoryScript
