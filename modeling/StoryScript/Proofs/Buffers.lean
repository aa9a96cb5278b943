import StoryScript.Editor.Buffer
import StoryScript.Proofs.Splicing

/-! The buffer of an editor under edits. It counts characters where the planner counts bytes, and both
make the same text of a batch. -/
namespace StoryScript.Editor.Buffer

open Edit (Operation)

@[simp] theorem toList_text (buffer : Buffer) : buffer.text.toList = buffer.chars := by
  simp [text]

@[simp] theorem text_ofText (source : String) : (ofText source).text = source := by
  simp [text, ofText]

theorem replaceSpans_eq_weave (offset : Nat) (chars : List Char) (edits : List Edit.Resolved) :
    replaceSpans offset chars edits = Edit.weave offset chars edits := by
  induction edits generalizing offset chars with
  | nil => rfl
  | cons edit later ih =>
    simp only [replaceSpans, Edit.weave, Text.take_charsBefore, Text.drop_charsBefore, ih]

/-- The buffer with a new text in place of the old one, which can be gone back to. -/
def changed (buffer : Buffer) (text : String) : Buffer :=
  { buffer with chars := text.toList, selection := none, snapshots := buffer.withSnapshot }

@[simp] theorem text_changed (buffer : Buffer) (text : String) : (buffer.changed text).text = text := by
  simp [changed, Buffer.text]

/-- A batch is accepted by a buffer as it is by the planner, with the same text and the same error. -/
theorem applyEdits_eq (buffer : Buffer) (operations : List Operation) :
    buffer.applyEdits operations = (Edit.apply buffer.text operations).map fun text =>
      if operations = [] then buffer else buffer.changed text := by
  cases operations with
  | nil => simp [applyEdits, pure, Except.pure, Except.map]
  | cons first later =>
    simp only [applyEdits, Edit.apply, List.isEmpty_cons, replaceSpans_eq_weave, toList_text]
    cases Edit.resolve buffer.text (first :: later) with
    | error error => rfl
    | ok edits => simp [bind, Except.bind, pure, Except.pure, Except.map, changed]

/-- An accepted batch is empty and changes nothing, or gives the buffer the planner's text. -/
theorem applyEdits_ok {buffer edited : Buffer} {operations : List Operation}
    (accepted : buffer.applyEdits operations = .ok edited) :
    operations = [] ∧ edited = buffer ∨
    operations ≠ [] ∧ ∃ text, Edit.apply buffer.text operations = .ok text ∧
      edited = buffer.changed text := by
  rw [applyEdits_eq] at accepted
  cases applied : Edit.apply buffer.text operations with
  | error error =>
    rw [applied] at accepted
    cases accepted
  | ok text =>
    rw [applied] at accepted
    by_cases empty : operations = []
    · rw [Except.map, if_pos empty] at accepted
      exact .inl ⟨empty, (Except.ok.inj accepted).symm⟩
    · rw [Except.map, if_neg empty] at accepted
      exact .inr ⟨empty, text, rfl, (Except.ok.inj accepted).symm⟩

end StoryScript.Editor.Buffer
