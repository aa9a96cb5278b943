import StoryScript.Edit.Operation
import StoryScript.Proofs.Positions

/-! What applying edits does to a text. An operation in range cuts a stretch of characters out of the
source. Operations whose stretches follow one another are accepted in any order, and the result is
the source with each stretch replaced and everything else kept. -/
namespace StoryScript.Edit

open Text (position HasColumn byteLength)

/-- A stretch of a text between two positions, and what is put in its place. -/
structure Cut where
  start : Nat
  stop : Nat
  put : List Char
  deriving DecidableEq, Repr

/-- `Spliced place text cuts result`: the text, which starts at a place of the source, becomes the
result when each cut is made in turn and everything between the cuts is kept. -/
inductive Spliced : Nat → List Char → List Cut → List Char → Prop where
  | rest {place : Nat} {text : List Char} : Spliced place text [] text
  | cut {place : Nat} {kept removed text result : List Char} {cut : Cut} {later : List Cut} :
      place + kept.length = cut.start → cut.start + removed.length = cut.stop →
      Spliced cut.stop text later result →
      Spliced place (kept ++ removed ++ text) (cut :: later) (kept ++ cut.put ++ result)

theorem Spliced.of_positions {text result : List Char} {place : Nat} {cut : Cut} {later : List Cut}
    (start : place ≤ cut.start) (order : cut.start ≤ cut.stop) (stop : cut.stop ≤ text.length)
    (next : Spliced cut.stop (text.drop cut.stop) later result) :
    Spliced place (text.drop place) (cut :: later)
      ((text.drop place).take (cut.start - place) ++ cut.put ++ result) := by
  have atStart : text.drop cut.start = (text.drop place).drop (cut.start - place) := by
    rw [List.drop_drop, Nat.add_sub_cancel' start]
  have atStop : text.drop cut.stop = (text.drop cut.start).drop (cut.stop - cut.start) := by
    rw [List.drop_drop, Nat.add_sub_cancel' order]
  have whole : (text.drop place).take (cut.start - place) ++
      (text.drop cut.start).take (cut.stop - cut.start) ++ text.drop cut.stop =
        text.drop place := by
    rw [List.append_assoc, atStop, List.take_append_drop, atStart, List.take_append_drop]
  have made : Spliced place ((text.drop place).take (cut.start - place) ++
      (text.drop cut.start).take (cut.stop - cut.start) ++ text.drop cut.stop) (cut :: later)
      ((text.drop place).take (cut.start - place) ++ cut.put ++ result) :=
    .cut (by rw [List.length_take, List.length_drop]; omega)
      (by rw [List.length_take, List.length_drop]; omega) next
  rwa [whole] at made

theorem Spliced.unique {place : Nat} {text result other : List Char} {cuts : List Cut}
    (spliced : Spliced place text cuts result) (again : Spliced place text cuts other) :
    result = other := by
  induction spliced generalizing other with
  | rest =>
    cases again
    rfl
  | @cut place kept removed text result first later start stop _ ih =>
    generalize whole : kept ++ removed ++ text = joined at again
    cases again with
    | @cut _ kept' removed' text' _ _ _ start' stop' next' =>
      rw [List.append_assoc, List.append_assoc] at whole
      obtain ⟨sameKept, tails⟩ := List.append_inj whole (by omega)
      obtain ⟨_, sameText⟩ := List.append_inj tails (by omega)
      rw [sameKept, ih (sameText ▸ next')]

/-- What stands before the place where cutting begins is kept. -/
theorem Spliced.append_left {place : Nat} {text result : List Char} {cuts : List Cut}
    (spliced : Spliced place text cuts result) {front : Nat} {kept : List Char}
    (size : front + kept.length = place) : Spliced front (kept ++ text) cuts (kept ++ result) := by
  cases spliced with
  | rest => exact .rest
  | @cut _ more removed text result first later start stop next =>
    have start' : front + (kept ++ more).length = first.start := by
      rw [List.length_append]
      omega
    simpa [List.append_assoc] using Spliced.cut start' stop next

/-- A text and its result begin alike up to the first cut. -/
theorem Spliced.take_eq {text result : List Char} {cuts : List Cut}
    (spliced : Spliced 0 text cuts result) {size : Nat} (ahead : ∀ cut ∈ cuts, size ≤ cut.start) :
    result.take size = text.take size := by
  cases spliced with
  | rest => rfl
  | @cut _ kept removed text result first later start _ _ =>
    have := ahead first (by simp)
    have inside : size ≤ kept.length := by omega
    rw [List.append_assoc, List.append_assoc, List.take_append_of_le_length inside,
      List.take_append_of_le_length inside]

/-- Cuts can be made from the back: the first one is left for the text that the others give. -/
theorem Spliced.first_last {text between result : List Char} {cut : Cut} {later : List Cut}
    (all : Spliced 0 text (cut :: later) result) (others : Spliced 0 text later between) :
    Spliced 0 between [cut] result := by
  cases all with
  | @cut _ kept removed text result _ _ start stop next =>
    have size : 0 + (kept ++ removed).length = cut.stop := by
      rw [List.length_append]
      omega
    rw [others.unique (next.append_left size)]
    exact .cut start stop .rest

namespace Operation

def cut (source : String) (operation : Operation) : Cut :=
  ⟨position source operation.line operation.startColumn,
    position source operation.line operation.endColumn, operation.replacement.toList⟩

/-- The columns of the operation exist, and are in order. -/
structure InRange (source : String) (operation : Operation) : Prop where
  order : operation.startColumn ≤ operation.endColumn
  start : HasColumn source operation.line operation.startColumn
  stop : HasColumn source operation.line operation.endColumn

def resolved (source : String) (operation : Operation) : Resolved :=
  ⟨byteLength (source.toList.take (operation.cut source).start),
    byteLength (source.toList.take (operation.cut source).stop), operation⟩

theorem InRange.cut_order {source : String} {operation : Operation}
    (inRange : operation.InRange source) :
    (operation.cut source).start ≤ (operation.cut source).stop := by
  have := inRange.order
  simp only [cut, position]
  omega

/-- An operation resolves exactly when it is in range, and then to the positions it names. -/
theorem resolve?_eq_some_iff (source : String) (operation : Operation) (edit : Resolved) :
    operation.resolve? (Text.lines source) = some edit ↔
      operation.InRange source ∧ edit = operation.resolved source := by
  unfold resolve?
  simp only [Option.bind_eq_bind, Option.pure_def]
  split
  · rename_i outside
    simp only [reduceCtorEq, false_iff, not_and]
    intro inRange
    obtain ⟨line, found, _⟩ := inRange.start.inside
    have := ((Text.line?_eq_some_iff ..).mp found).1
    have := inRange.order
    omega
  · rename_i inside
    have line?_eq : (Text.lines source)[operation.line - 1]? = Text.line? source operation.line := by
      rw [Text.line?, if_neg (fun zero => inside (.inl zero))]
    simp only [line?_eq, Option.bind_eq_some_iff, Text.byteOfColumn_eq_some_iff, Option.some.injEq]
    constructor
    · rintro ⟨line, found, _, ⟨positive, start, rfl⟩, _, ⟨positive', stop, rfl⟩, rfl⟩
      refine ⟨⟨by omega, ⟨positive, line, found, start⟩, ⟨positive', line, found, stop⟩⟩, ?_⟩
      rw [Text.offset_add_byteLength found start, Text.offset_add_byteLength found stop]
      rfl
    · rintro ⟨⟨_, ⟨positive, line, found, start⟩, ⟨positive', line', found', stop⟩⟩, rfl⟩
      obtain rfl : line' = line := Option.some.inj (found'.symm.trans found)
      refine ⟨line', found, _, ⟨positive, start, rfl⟩, _, ⟨positive', stop, rfl⟩, ?_⟩
      rw [Text.offset_add_byteLength found start, Text.offset_add_byteLength found stop]
      rfl

theorem InRange.resolve_eq {source : String} {operation : Operation}
    (inRange : operation.InRange source) :
    operation.resolve (Text.lines source) = .ok (operation.resolved source) := by
  rw [resolve, (resolve?_eq_some_iff source operation _).mpr ⟨inRange, rfl⟩]

end Operation

theorem mapM_resolve {source : String} {operations : List Operation}
    (inRange : ∀ operation ∈ operations, operation.InRange source) :
    operations.mapM (·.resolve (Text.lines source)) =
      .ok (operations.map (·.resolved source)) := by
  induction operations with
  | nil => rfl
  | cons first later ih =>
    rw [List.mapM_cons, (inRange first (by simp)).resolve_eq,
      ih fun operation member => inRange operation (by simp [member])]
    rfl

theorem firstCollision_eq_none {edits : List Resolved}
    (apart : edits.Pairwise fun a b => a.collides b = false) : firstCollision edits = none := by
  fun_induction firstCollision edits with
  | case1 earlier later rest collision =>
    have := (List.pairwise_cons.mp apart).1 later (by simp)
    simp_all
  | case2 earlier later rest _ ih => exact ih (List.pairwise_cons.mp apart).2
  | case3 => rfl

theorem precedes_trans (a b c : Resolved) (ab : a.precedes b) (bc : b.precedes c) :
    a.precedes c := by
  simp only [Resolved.precedes, Bool.or_eq_true, Bool.and_eq_true, decide_eq_true_eq, beq_iff_eq] at *
  omega

theorem precedes_total (a b : Resolved) : (a.precedes b || b.precedes a) = true := by
  simp only [Resolved.precedes, Bool.or_eq_true, Bool.and_eq_true, decide_eq_true_eq, beq_iff_eq]
  omega

/-- One operation's stretch ends before another's starts, which starts later. -/
structure Operation.Before (source : String) (a b : Operation) : Prop where
  apart : (a.cut source).stop ≤ (b.cut source).start
  later : (a.cut source).start < (b.cut source).start

/-- Of two entries of an ordered list one comes before the other, unless they are the same. -/
theorem eq_of_pairwise {α : Type} {before : α → α → Prop} {entries : List α}
    (ordered : entries.Pairwise before) {a b : α} (memberA : a ∈ entries) (memberB : b ∈ entries)
    (notBefore : ¬ before a b) (notAfter : ¬ before b a) : a = b := by
  induction ordered with
  | nil => cases memberA
  | cons first _ ih =>
    rcases List.mem_cons.mp memberA with rfl | laterA
    · rcases List.mem_cons.mp memberB with rfl | laterB
      · rfl
      · exact absurd (first b laterB) notBefore
    · rcases List.mem_cons.mp memberB with rfl | laterB
      · exact absurd (first a laterA) notAfter
      · exact ih laterA laterB

section

variable {source : String} {ordered : List Operation}

/-- Bytes follow one another as the positions do. -/
theorem resolved_pairwise (inRange : ∀ operation ∈ ordered, operation.InRange source)
    (apart : ordered.Pairwise (Operation.Before source)) :
    (ordered.map (·.resolved source)).Pairwise fun a b => a.stop ≤ b.start ∧ a.start < b.start := by
  refine List.pairwise_map.mpr (apart.imp_of_mem ?_)
  intro a b _ memberB before
  have inside := (inRange b memberB).start.position_le
  exact ⟨Text.byteLength_take_le _ before.apart, Text.byteLength_take_lt _ before.later inside⟩

/-- Operations whose stretches follow one another are accepted, in whatever order they come, and
resolved in the order of the source. -/
theorem resolve_of_perm {operations : List Operation} (perm : operations.Perm ordered)
    (inRange : ∀ operation ∈ ordered, operation.InRange source)
    (apart : ordered.Pairwise (Operation.Before source)) :
    resolve source operations = .ok (ordered.map (·.resolved source)) := by
  have follow := resolved_pairwise inRange apart
  have sorted : (operations.map (·.resolved source)).mergeSort Resolved.precedes =
      ordered.map (·.resolved source) := by
    refine List.Perm.eq_of_pairwise ?_ (List.pairwise_mergeSort precedes_trans precedes_total _)
      (follow.imp fun before => by simp [Resolved.precedes, before.2])
      ((List.mergeSort_perm _ _).trans (perm.map _))
    intro a b memberA memberB ab ba
    rw [List.mem_mergeSort, (perm.map _).mem_iff] at memberA
    simp only [Resolved.precedes, Bool.or_eq_true, Bool.and_eq_true, decide_eq_true_eq,
      beq_iff_eq] at ab ba
    exact eq_of_pairwise (follow.imp And.right) memberA memberB (by omega) (by omega)
  have free : firstCollision (ordered.map (·.resolved source)) = none := by
    refine firstCollision_eq_none (follow.imp fun before => ?_)
    simp only [Resolved.collides, Bool.or_eq_false_iff, beq_eq_false_iff_ne, ne_eq,
      decide_eq_false_iff_not]
    omega
  rw [resolve, mapM_resolve fun operation member => inRange operation (perm.mem_iff.mp member)]
  simp only [bind, Except.bind, sorted, free]

/-- Weaving edits into what stands after a place of the source makes their cuts. -/
theorem weave_spliced {place : Nat} (inRange : ∀ operation ∈ ordered, operation.InRange source)
    (apart : ordered.Pairwise (Operation.Before source))
    (ahead : ∀ operation ∈ ordered, place ≤ (operation.cut source).start) :
    Spliced place (source.toList.drop place) (ordered.map (·.cut source))
      (weave (byteLength (source.toList.take place)) (source.toList.drop place)
        (ordered.map (·.resolved source))) := by
  induction ordered generalizing place with
  | nil => exact .rest
  | cons first later ih =>
    have start := ahead first (by simp)
    have order := (inRange first (by simp)).cut_order
    have stop := (inRange first (by simp)).stop.position_le
    obtain ⟨after, apart⟩ := List.pairwise_cons.mp apart
    have next := ih (fun operation member => inRange operation (by simp [member])) apart
      (fun operation member => (after operation member).apart)
    -- Offsets from the place on are sizes of what stands between it and a position.
    have between (position : Nat) (le : place ≤ position) :
        byteLength (source.toList.take position) - byteLength (source.toList.take place) =
          byteLength ((source.toList.drop place).take (position - place)) := by
      conv => lhs; rw [← Nat.add_sub_cancel' le, Text.byteLength_take_add]
      omega
    simp only [List.map_cons, weave, Operation.resolved]
    rw [between _ start, between _ (Nat.le_trans start order), Text.takeBytes_take,
      Text.dropBytes_take, List.drop_drop, Nat.add_sub_cancel' (Nat.le_trans start order)]
    exact .of_positions start order stop next

theorem apply_eq_weave {operations : List Operation} (perm : operations.Perm ordered)
    (inRange : ∀ operation ∈ ordered, operation.InRange source)
    (apart : ordered.Pairwise (Operation.Before source)) :
    apply source operations =
      .ok (String.ofList (weave 0 source.toList (ordered.map (·.resolved source)))) := by
  rw [apply, resolve_of_perm perm inRange apart]
  rfl

/-- Applying operations whose stretches follow one another makes their cuts in the source. -/
theorem apply_of_perm {operations : List Operation} (perm : operations.Perm ordered)
    (inRange : ∀ operation ∈ ordered, operation.InRange source)
    (apart : ordered.Pairwise (Operation.Before source)) :
    ∃ text, apply source operations = .ok text ∧
      Spliced 0 source.toList (ordered.map (·.cut source)) text.toList := by
  refine ⟨_, apply_eq_weave perm inRange apart, ?_⟩
  have spliced := weave_spliced inRange apart fun _ _ => Nat.zero_le _
  simpa [byteLength] using spliced

end

theorem spliced_of_apply {source text : String} {ordered : List Operation}
    (inRange : ∀ operation ∈ ordered, operation.InRange source)
    (apart : ordered.Pairwise (Operation.Before source)) (applied : apply source ordered = .ok text) :
    Spliced 0 source.toList (ordered.map (·.cut source)) text.toList := by
  obtain ⟨_, again, spliced⟩ := apply_of_perm (List.Perm.refl ordered) inRange apart
  rwa [← Except.ok.inj (applied.symm.trans again)] at spliced

theorem apply_eq_of_perm {source : String} {operations ordered : List Operation}
    (perm : operations.Perm ordered) (inRange : ∀ operation ∈ ordered, operation.InRange source)
    (apart : ordered.Pairwise (Operation.Before source)) :
    apply source operations = apply source ordered := by
  rw [apply_eq_weave perm inRange apart, apply_eq_weave (.refl ordered) inRange apart]

@[simp] theorem apply_nil (source : String) : apply source [] = .ok source := by
  simp [apply, resolve, firstCollision, weave, bind, Except.bind, pure, Except.pure]

theorem apply_singleton (source : String) (operation : Operation) :
    apply source [operation] = (operation.resolve (Text.lines source)).map fun edit =>
      String.ofList (weave 0 source.toList [edit]) := by
  cases resolved : operation.resolve (Text.lines source) <;>
    simp [apply, resolve, resolved, firstCollision, bind, Except.bind, pure, Except.pure, Except.map]

end StoryScript.Edit
