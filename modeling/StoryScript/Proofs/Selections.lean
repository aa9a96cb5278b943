import StoryScript.Proofs.Batches
import StoryScript.Proofs.MatchSets

/-! Selections and edits name the places of a source alike, although each resolves lines and columns in
its own way. What is selected on a line is encoded by the bytes that an operation on the same columns
would replace. -/
namespace StoryScript

namespace Text

theorem byteLength_take_add_slice (text : List Char) {i j : Nat} (order : i ≤ j) :
    byteLength (text.take i) + byteLength (Search.slice text i j) = byteLength (text.take j) := by
  obtain ⟨size, rfl⟩ := Nat.exists_eq_add_of_le order
  rw [Search.slice, Nat.add_sub_cancel_left, ← byteLength_take_add]

theorem extract_bytes (text : String) {i j : Nat} (order : i ≤ j) :
    text.toByteArray.extract (byteLength (text.toList.take i)) (byteLength (text.toList.take j)) =
      (String.ofList (Search.slice text.toList i j)).toByteArray := by
  have whole : String.ofList (text.toList.take i) ++
      (String.ofList (Search.slice text.toList i j) ++ String.ofList (text.toList.drop j)) = text := by
    have rest : text.toList.drop j = (text.toList.drop i).drop (j - i) := by
      rw [List.drop_drop, Nat.add_sub_cancel' order]
    rw [← String.ofList_append, ← String.ofList_append, Search.slice, rest, List.take_append_drop,
      List.take_append_drop, String.ofList_toList]
  have between := extract_append (.ofList (text.toList.take i))
    (.ofList (Search.slice text.toList i j)) (.ofList (text.toList.drop j))
  rwa [whole, ← byteLength_eq_utf8ByteSize, ← byteLength_eq_utf8ByteSize,
    byteLength_take_add_slice text.toList order] at between

end Text

namespace Edit

theorem resolve_singleton_eq_ok_iff {source : String} {operation : Operation} {edits : List Resolved} :
    resolve source [operation] = .ok edits ↔
      operation.InRange source ∧ edits = [operation.resolved source] := by
  rw [resolve_eq_ok_iff]
  constructor
  · rintro ⟨ordered, perm, inRange, _, rfl⟩
    obtain rfl := List.singleton_perm.mp perm
    exact ⟨inRange operation (List.mem_singleton.mpr rfl), rfl⟩
  · rintro ⟨inRange, rfl⟩
    exact ⟨[operation], .refl _, List.forall_mem_singleton.mpr inRange, List.pairwise_singleton _ _, rfl⟩

/-- An operation that puts back what it takes out leaves the source as it is. -/
theorem apply_singleton_eq_self {source : String} {operation : Operation}
    (inRange : operation.InRange source)
    (same : operation.replacement.toList = Search.slice source.toList
      (operation.cut source).start (operation.cut source).stop) :
    apply source [operation] = .ok source := by
  obtain ⟨text, applied, spliced⟩ := apply_of_perm (.refl [operation])
    (List.forall_mem_singleton.mpr inRange) (List.pairwise_singleton _ _)
  have kept : text.toList = source.toList := by
    refine spliced.eq_self List.drop_zero.symm fun cut member => ?_
    rw [List.map_singleton, List.mem_singleton] at member
    rw [member]
    exact same
  rw [applied, String.toList_inj.mp kept]

end Edit

namespace Editor.Selection

open Text (HasColumn position)

def replacedBy (selection : Selection) (text : String) : Edit.Operation :=
  ⟨selection.startLine, selection.startColumn, selection.endColumn, text⟩

variable {selection : Selection} {source text : String}

/-- No text is looked up for a selection over several lines, nor for an empty one. -/
theorem isEmpty_or_spread_iff : (!selection.isSingleLine || selection.isEmpty) = true ↔
    ¬ (selection.startLine = selection.endLine ∧ selection.startColumn < selection.endColumn) := by
  simp only [isEmpty, isSingleLine, Bool.or_eq_true, Bool.not_eq_true', beq_eq_false_iff_ne,
    Bool.and_eq_true, beq_iff_eq, decide_eq_true_eq]
  omega

/-- A selection has a text if it is not empty and lies between columns of one line, and then the text is
what stands between them. -/
theorem singleLineText_eq_some_iff : selection.singleLineText source = some text ↔
    selection.startLine = selection.endLine ∧ selection.startColumn < selection.endColumn ∧
    HasColumn source selection.startLine selection.startColumn ∧
    HasColumn source selection.startLine selection.endColumn ∧
    text.toList = Search.slice source.toList
      (position source selection.startLine selection.startColumn)
      (position source selection.startLine selection.endColumn) := by
  unfold singleLineText
  split
  · rename_i refused
    have := isEmpty_or_spread_iff.mp refused
    simp only [reduceCtorEq, false_iff]
    exact fun ⟨single, order, _⟩ => this ⟨single, order⟩
  · rename_i taken
    obtain ⟨single, order⟩ := Decidable.not_not.mp (mt isEmpty_or_spread_iff.mpr taken)
    have le := Nat.le_of_lt order
    simp only [Option.bind_eq_bind, Option.bind_eq_some_iff, Option.pure_def, Option.some.injEq,
      Text.byteOfColumn_eq_some_iff]
    constructor
    · rintro ⟨line, found, _, ⟨positive, _, rfl⟩, _, ⟨positive', inside, rfl⟩, rfl⟩
      refine ⟨single, order, ⟨positive, line, found, by omega⟩, ⟨positive', line, found, inside⟩, ?_⟩
      rw [String.toList_ofList, Search.slice_position found positive le inside]
      exact Text.bytesBetween_take line.text.toList (Nat.sub_le_sub_right le 1)
    · rintro ⟨_, _, ⟨positive, line, found, _⟩, ⟨positive', line', found', inside⟩, same⟩
      obtain rfl : line' = line := Option.some.inj (found'.symm.trans found)
      rw [Search.slice_position found positive le inside,
        ← Text.bytesBetween_take line'.text.toList (Nat.sub_le_sub_right le 1)] at same
      refine ⟨line', found, _, ⟨positive, by omega, rfl⟩, _, ⟨positive', inside, rfl⟩, ?_⟩
      rw [← String.toList_inj, String.toList_ofList, same]
      rfl

/-- Selections and edits read the same coordinates. A selection has a text exactly if it is a non-empty
stretch of one line that an operation could replace. The text is then what the bytes that the operation
resolves to encode, and putting it in their place changes nothing. -/
theorem singleLineText_agrees_with_edits (source : String) (selection : Selection) :
    (∀ replacement, (∃ text, selection.singleLineText source = some text) ↔
      selection.startLine = selection.endLine ∧ selection.startColumn < selection.endColumn ∧
      ∃ edits, Edit.resolve source [selection.replacedBy replacement] = .ok edits) ∧
    ∀ text, selection.singleLineText source = some text →
      (∀ replacement, ∃ edit, Edit.resolve source [selection.replacedBy replacement] = .ok [edit] ∧
        edit.start + text.utf8ByteSize = edit.stop ∧
        source.toByteArray.extract edit.start edit.stop = text.toByteArray) ∧
      Edit.apply source [selection.replacedBy text] = .ok source := by
  refine ⟨fun replacement => ⟨?_, ?_⟩, fun text selected => ?_⟩
  · rintro ⟨text, selected⟩
    obtain ⟨single, order, start, stop, _⟩ := singleLineText_eq_some_iff.mp selected
    exact ⟨single, order, _,
      Edit.resolve_singleton_eq_ok_iff.mpr ⟨⟨Nat.le_of_lt order, start, stop⟩, rfl⟩⟩
  · rintro ⟨single, order, edits, accepted⟩
    obtain ⟨inRange, _⟩ := Edit.resolve_singleton_eq_ok_iff.mp accepted
    exact ⟨_, singleLineText_eq_some_iff.mpr
      ⟨single, order, inRange.start, inRange.stop, String.toList_ofList⟩⟩
  · obtain ⟨_, order, start, stop, same⟩ := singleLineText_eq_some_iff.mp selected
    have inRange (replacement : String) : (selection.replacedBy replacement).InRange source :=
      ⟨Nat.le_of_lt order, start, stop⟩
    refine ⟨fun replacement => ?_, Edit.apply_singleton_eq_self (inRange text) same⟩
    refine ⟨_, Edit.resolve_singleton_eq_ok_iff.mpr ⟨inRange replacement, rfl⟩, ?_, ?_⟩
    · have size := Text.byteLength_take_add_slice source.toList (inRange replacement).cut_order
      rwa [Edit.Operation.cut, replacedBy, ← same, Text.byteLength_toList] at size
    · have bytes := Text.extract_bytes source (inRange replacement).cut_order
      rwa [Edit.Operation.cut, replacedBy, ← same, String.ofList_toList] at bytes

-- A carriage return at the end of a line is not part of it, and can be neither selected nor replaced.
example : (onLine 1 2 3).singleLineText "né\r\nx" = some "é" ∧
    (onLine 1 2 4).singleLineText "né\r\nx" = none := by
  decide +kernel

end Editor.Selection

end StoryScript
