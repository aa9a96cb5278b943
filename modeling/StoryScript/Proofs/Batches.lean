import StoryScript.Proofs.Desk
import StoryScript.Proofs.Undo

/-! Batches of edits. The stretches of an accepted batch follow one another. So they can be replaced
one by one from the back, each in the text that the ones behind it have left, and it is the same
whether they are counted in bytes or in characters. A buffer and the planner therefore take the same
batches and make the same text of them. -/
namespace StoryScript

namespace Edit

open Text (byteLength)

/-! ### What is accepted -/

section

variable {source : String} {operations : List Operation} {edits : List Resolved}

theorem Operation.resolve_eq_ok_iff {operation : Operation} {edit : Resolved} :
    operation.resolve (Text.lines source) = .ok edit ↔
      operation.InRange source ∧ edit = operation.resolved source := by
  rw [← Operation.resolve?_eq_some_iff, Operation.resolve]
  cases operation.resolve? (Text.lines source) <;> simp

theorem mapM_resolve_ok (resolved : operations.mapM (·.resolve (Text.lines source)) = .ok edits) :
    (∀ operation ∈ operations, operation.InRange source) ∧
      edits = operations.map (·.resolved source) := by
  induction operations generalizing edits with
  | nil =>
    cases resolved
    simp
  | cons first later ih =>
    rw [List.mapM_cons] at resolved
    cases one : first.resolve (Text.lines source) with
    | error error =>
      rw [one] at resolved
      cases resolved
    | ok edit =>
      cases others : later.mapM (·.resolve (Text.lines source)) with
      | error error =>
        rw [one, others] at resolved
        cases resolved
      | ok more =>
        rw [one, others] at resolved
        cases resolved
        obtain ⟨inside, rfl⟩ := Operation.resolve_eq_ok_iff.mp one
        obtain ⟨inRange, rfl⟩ := ih others
        exact ⟨List.forall_mem_cons.mpr ⟨inside, inRange⟩, rfl⟩

theorem pairwise_of_firstCollision (sorted : edits.Pairwise (·.precedes ·))
    (order : ∀ edit ∈ edits, edit.start ≤ edit.stop) (free : firstCollision edits = none) :
    edits.Pairwise fun a b => a.stop ≤ b.start ∧ a.start < b.start := by
  fun_induction firstCollision edits with
  | case1 => cases free
  | case2 earlier later rest apart ih =>
    obtain ⟨before, sorted⟩ := List.pairwise_cons.mp sorted
    have follow := ih sorted (fun edit member => order edit (by simp [member])) free
    have next : earlier.stop ≤ later.start ∧ earlier.start < later.start := by
      have := before later (by simp)
      simp only [Resolved.precedes, Resolved.collides, Bool.or_eq_true, Bool.and_eq_true,
        decide_eq_true_eq, beq_iff_eq, not_or] at this apart
      omega
    refine List.pairwise_cons.mpr ⟨fun edit member => ?_, follow⟩
    rcases List.mem_cons.mp member with rfl | member
    · exact next
    · have := (List.pairwise_cons.mp follow).1 edit member
      have := order later (by simp)
      omega
  | case3 edits short =>
    cases edits with
    | nil => exact .nil
    | cons edit others =>
      cases others with
      | nil => exact List.pairwise_singleton _ edit
      | cons later rest => exact absurd rfl (short edit later rest)

theorem Operation.before_of_resolved {a b : Operation} (inRange : a.InRange source)
    (follow : (a.resolved source).stop ≤ (b.resolved source).start ∧
      (a.resolved source).start < (b.resolved source).start) : a.Before source b where
  apart := by
    refine Nat.le_of_not_lt fun crossing => ?_
    have := Text.byteLength_take_lt source.toList crossing inRange.stop.position_le
    exact Nat.not_le.mpr this follow.1
  later := by
    refine Nat.lt_of_not_le fun crossing => ?_
    have := Text.byteLength_take_le source.toList crossing
    exact Nat.not_lt.mpr this follow.2

/-- Edits in order that do not collide come from operations whose stretches follow one another. -/
theorem before_of_firstCollision (sorted : edits.Pairwise (·.precedes ·))
    (origin : ∀ edit ∈ edits, edit.operation.InRange source ∧
      edit = edit.operation.resolved source)
    (free : firstCollision edits = none) :
    (edits.map (·.operation)).Pairwise (Operation.Before source) := by
  have order (edit : Resolved) (member : edit ∈ edits) : edit.start ≤ edit.stop := by
    rw [(origin edit member).2]
    exact Text.byteLength_take_le _ (origin edit member).1.cut_order
  have follow := pairwise_of_firstCollision sorted order free
  refine List.pairwise_map.mpr (follow.imp_of_mem fun memberA memberB between => ?_)
  rw [(origin _ memberA).2, (origin _ memberB).2] at between
  exact Operation.before_of_resolved (origin _ memberA).1 between

/-- A batch is accepted exactly when its stretches can be put in an order in which they follow one
another. -/
theorem resolve_eq_ok_iff :
    resolve source operations = .ok edits ↔
      ∃ ordered, operations.Perm ordered ∧ (∀ operation ∈ ordered, operation.InRange source) ∧
        ordered.Pairwise (Operation.Before source) ∧ edits = ordered.map (·.resolved source) := by
  constructor
  · intro accepted
    rw [resolve] at accepted
    cases mapped : operations.mapM (·.resolve (Text.lines source)) with
    | error error =>
      rw [mapped] at accepted
      cases accepted
    | ok unsorted =>
      obtain ⟨inRange, rfl⟩ := mapM_resolve_ok mapped
      rw [mapped] at accepted
      simp only [bind, Except.bind] at accepted
      split at accepted
      · cases accepted
      · rename_i free
        cases accepted
        have perm := List.mergeSort_perm (operations.map (·.resolved source)) Resolved.precedes
        have sorted := List.pairwise_mergeSort precedes_trans precedes_total
          (operations.map (·.resolved source))
        generalize (operations.map (·.resolved source)).mergeSort Resolved.precedes = edits
          at perm sorted free
        have origin (edit : Resolved) (member : edit ∈ edits) :
            edit.operation.InRange source ∧ edit = edit.operation.resolved source := by
          obtain ⟨operation, given, rfl⟩ := List.mem_map.mp (perm.mem_iff.mp member)
          exact ⟨inRange operation given, rfl⟩
        -- The operations in the order of their edits.
        refine ⟨edits.map (·.operation), ?_, ?_, before_of_firstCollision sorted origin free, ?_⟩
        · have given := (perm.map (·.operation)).symm
          rwa [List.map_map, show (·.operation) ∘ (Operation.resolved source) = id from rfl,
            List.map_id] at given
        · intro operation member
          obtain ⟨edit, resolved, rfl⟩ := List.mem_map.mp member
          exact (origin edit resolved).1
        · rw [List.map_map]
          exact (List.map_id edits).symm.trans
            (List.map_congr_left fun edit member => (origin edit member).2)
  · rintro ⟨ordered, perm, inRange, apart, rfl⟩
    exact resolve_of_perm perm inRange apart

end

/-! ### Replacing from the back -/

namespace Resolved

/-- Replaces the edit's bytes in a text. They have to begin and end between characters. -/
def replaceBytes (edit : Resolved) (text : List Char) : Option (List Char) :=
  let kept := Text.takeBytes text edit.start
  if edit.start ≤ edit.stop ∧ byteLength kept = edit.start ∧
      byteLength (Text.takeBytes text edit.stop) = edit.stop then
    some (kept ++ edit.operation.replacement.toList ++ Text.dropBytes text edit.stop)
  else none

/-- Removes the characters that the edit's bytes make up, and inserts the replacement there. -/
def replaceChars (edit : Resolved) (chars : List Char) : Option (List Char) :=
  let start := Text.charsBefore chars edit.start
  let stop := Text.charsBefore chars edit.stop
  if start ≤ stop ∧ stop ≤ chars.length then
    let left := chars.take start ++ chars.drop stop
    some (left.take start ++ edit.operation.replacement.toList ++ left.drop start)
  else none

/-- A way to replace the stretch of an edit, where its bytes are whole characters. -/
def Replaces (replace : Resolved → List Char → Option (List Char)) : Prop :=
  ∀ (edit : Resolved) (kept removed after : List Char), edit.start = byteLength kept →
    edit.stop = byteLength (kept ++ removed) →
    replace edit (kept ++ removed ++ after) =
      some (kept ++ edit.operation.replacement.toList ++ after)

theorem replaces_replaceBytes : Replaces replaceBytes := by
  intro edit kept removed after start stop
  have first : Text.takeBytes (kept ++ removed ++ after) edit.start = kept := by
    rw [start, List.append_assoc, Text.takeBytes_append]
  have both : Text.takeBytes (kept ++ removed ++ after) edit.stop = kept ++ removed := by
    rw [stop, Text.takeBytes_append]
  have order : edit.start ≤ edit.stop := by
    rw [start, stop, Text.byteLength_append]
    omega
  rw [replaceBytes, first, both, if_pos ⟨order, start.symm, stop.symm⟩, stop, Text.dropBytes_append]

theorem replaces_replaceChars : Replaces replaceChars := by
  intro edit kept removed after start stop
  have first : Text.charsBefore (kept ++ removed ++ after) edit.start = kept.length := by
    rw [start, List.append_assoc, Text.charsBefore_append]
  have both : Text.charsBefore (kept ++ removed ++ after) edit.stop = (kept ++ removed).length := by
    rw [stop, Text.charsBefore_append]
  have inside : kept.length ≤ (kept ++ removed).length ∧
      (kept ++ removed).length ≤ (kept ++ removed ++ after).length := by
    simp only [List.length_append]
    omega
  simp only [replaceChars, first, both]
  rw [if_pos inside, List.drop_left, List.append_assoc kept removed after, List.take_left,
    List.take_left, List.drop_left]

end Resolved

section

variable {source : String} {ordered : List Operation}
  {replace : Resolved → List Char → Option (List Char)} (replaces : Resolved.Replaces replace)

include replaces

/-- An edit can be made in a text that is still the source up to the end of its stretch. -/
theorem replace_resolved {operation : Operation} {text result : List Char}
    (one : Spliced 0 text [operation.cut source] result)
    (untouched : text.take (operation.cut source).stop =
      source.toList.take (operation.cut source).stop) :
    replace (operation.resolved source) text = some result := by
  generalize made : operation.cut source = cut at one untouched
  cases one with
  | @cut _ kept removed after _ _ _ start stop next =>
    cases next
    rw [Nat.zero_add] at start
    have stops : source.toList.take cut.stop = kept ++ removed := by
      rw [← untouched, ← stop, ← start, ← List.length_append, List.take_left]
    have starts : source.toList.take cut.start = kept := by
      have := congrArg (List.take cut.start) stops
      rwa [List.take_take, Nat.min_eq_left (by omega), ← start, List.take_left, start] at this
    have bytes := replaces (operation.resolved source) kept removed after
      (by rw [Operation.resolved, made, starts]) (by rw [Operation.resolved, made, stops])
    rw [bytes, ← made]
    rfl

/-- Replacing from the back makes all cuts: what is behind an edit does not move its bytes. -/
theorem foldrM_spliced (inRange : ∀ operation ∈ ordered, operation.InRange source)
    (apart : ordered.Pairwise (Operation.Before source)) :
    ∃ result, (ordered.map (·.resolved source)).foldrM replace source.toList = some result ∧
      Spliced 0 source.toList (ordered.map (·.cut source)) result := by
  induction ordered with
  | nil => exact ⟨source.toList, rfl, .rest⟩
  | cons first later ih =>
    obtain ⟨_, _, all⟩ := apply_of_perm (List.Perm.refl _) inRange apart
    obtain ⟨after, apart⟩ := List.pairwise_cons.mp apart
    obtain ⟨between, others, spliced⟩ := ih (List.forall_mem_cons.mp inRange).2 apart
    have untouched := spliced.take_eq fun cut member => by
      obtain ⟨operation, given, rfl⟩ := List.mem_map.mp member
      exact (after operation given).apart
    refine ⟨_, ?_, all⟩
    rw [List.map_cons, List.foldrM_cons, others]
    exact replace_resolved replaces (all.first_last spliced) untouched

theorem apply_eq_foldrM {operations : List Operation} {text : String}
    (applied : apply source operations = .ok text) :
    ∃ edits, resolve source operations = .ok edits ∧
      edits.foldrM replace source.toList = some text.toList := by
  cases accepted : resolve source operations with
  | error error =>
    rw [apply, accepted] at applied
    cases applied
  | ok edits =>
    obtain ⟨ordered, perm, inRange, apart, rfl⟩ := resolve_eq_ok_iff.mp accepted
    obtain ⟨_, applied', spliced⟩ := apply_of_perm perm inRange apart
    obtain ⟨result, folded, spliced'⟩ := foldrM_spliced replaces inRange apart
    obtain rfl := Except.ok.inj (applied'.symm.trans applied)
    exact ⟨_, rfl, by rw [folded, spliced'.unique spliced]⟩

end

end Edit

namespace Editor

open Edit (Operation Resolved)

/-- The text before a change is the first to be gone back to, in front of texts that were kept. -/
theorem Buffer.earlier_changed_cons {buffer : Buffer} (keeps : 0 < buffer.undoLimit)
    (text : String) :
    ∃ kept, kept <+: buffer.earlier ∧ (buffer.changed text).earlier = buffer.text :: kept := by
  simp only [changed, earlier, withSnapshot, if_neg (Nat.ne_of_gt keeps)]
  split
  · exact ⟨_, List.IsPrefix.map _ (List.dropLast_prefix _), rfl⟩
  · exact ⟨_, List.prefix_rfl, rfl⟩

/-- A batch does to a buffer what it does to the buffer's text. It is refused with the planner's
error, and then nothing changes; or the buffer gets the planner's text, which both make by replacing
from the back. -/
theorem Desk.edit_agrees_with_apply (desk : Desk) (operations : List Operation) :
    let buffer := desk.buffer
    match Edit.apply buffer.text operations with
    | .error error =>
      buffer.applyEdits operations = .error error ∧ desk.step (.edit operations) = desk
    | .ok text => ∃ edited, buffer.applyEdits operations = .ok edited ∧
      desk.step (.edit operations) = { desk with buffer := edited } ∧ edited.text = text ∧
      edited.undoLimit = buffer.undoLimit ∧
      (operations = [] → edited = buffer) ∧
      (operations ≠ [] → edited.selection = none ∧
        (buffer.undoLimit = 0 → edited.earlier = buffer.earlier) ∧
        (0 < buffer.undoLimit →
          ∃ kept, kept <+: buffer.earlier ∧ edited.earlier = buffer.text :: kept)) ∧
      ∃ edits, Edit.resolve buffer.text operations = .ok edits ∧
        edits.foldrM Resolved.replaceChars buffer.chars = some edited.chars ∧
        edits.foldrM Resolved.replaceBytes buffer.text.toList = some text.toList := by
  intro buffer
  have taken := buffer.applyEdits_eq operations
  cases applied : Edit.apply buffer.text operations with
  | error error =>
    rw [applied, Except.map] at taken
    exact ⟨taken, by rw [step, taken]⟩
  | ok text =>
    obtain ⟨edits, accepted, inChars⟩ :=
      Edit.apply_eq_foldrM Resolved.replaces_replaceChars applied
    obtain ⟨_, accepted', inBytes⟩ := Edit.apply_eq_foldrM Resolved.replaces_replaceBytes applied
    obtain rfl := Except.ok.inj (accepted.symm.trans accepted')
    rw [applied, Except.map] at taken
    rw [Buffer.toList_text] at inChars
    by_cases empty : operations = []
    · subst empty
      rw [Edit.apply_nil] at applied
      obtain rfl := Except.ok.inj applied
      rw [if_pos rfl] at taken
      refine ⟨buffer, taken, by rw [step, taken], rfl, rfl, fun _ => rfl, fun some_edit => ?_, edits,
        accepted, by rw [inChars, Buffer.toList_text], inBytes⟩
      exact absurd rfl some_edit
    · rw [if_neg empty] at taken
      refine ⟨buffer.changed text, taken, by rw [step, taken], buffer.text_changed text, rfl,
        fun none => absurd none empty, fun _ => ⟨rfl, fun unkept => ?_, fun keeps => ?_⟩, edits,
        accepted, inChars, inBytes⟩
      · simp only [Buffer.earlier, Buffer.changed, Buffer.withSnapshot, if_pos unkept]
      · exact Buffer.earlier_changed_cons keeps text

end Editor

end StoryScript
