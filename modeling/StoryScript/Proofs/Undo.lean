import StoryScript.Proofs.Buffers

/-! Going back to earlier texts. A journal records the text before every batch that was accepted and
not undone since, and nothing is dropped from it. While the limit of a buffer stays, the texts that
the buffer keeps are the latest ones of its journal. A new limit, though, leaves the oldest. -/
namespace StoryScript.Editor

open Edit (Operation)

namespace Buffer

variable (buffer : Buffer)

/-- The texts that can be gone back to, newest first. -/
def earlier : List String := buffer.snapshots.map String.ofList

@[simp] theorem length_earlier : buffer.earlier.length = buffer.undoDepth := by
  simp [earlier, undoDepth]

theorem earlier_withUndoLimit (limit : Nat) :
    (buffer.withUndoLimit limit).earlier = buffer.earlier.drop (buffer.undoDepth - limit) := by
  simp [earlier, withUndoLimit, undoDepth]

theorem undo?_eq_none_iff : buffer.undo? = none ↔ buffer.undoDepth = 0 := by
  unfold undo? undoDepth
  cases buffer.snapshots <;> simp

theorem undo?_eq_some {restored : Buffer} (undone : buffer.undo? = some restored) :
    buffer.earlier = restored.text :: restored.earlier ∧
      buffer.undoDepth = restored.undoDepth + 1 ∧ restored.undoLimit = buffer.undoLimit := by
  unfold undo? at undone
  split at undone
  · cases undone
  · rename_i chars older kept
    cases undone
    simp [earlier, undoDepth, text, kept]

/-- A new text puts the old one on top of those that are kept, as far as the limit allows. -/
theorem earlier_changed (text : String) (bounded : buffer.undoDepth ≤ buffer.undoLimit) :
    (buffer.changed text).earlier = (buffer.text :: buffer.earlier).take buffer.undoLimit := by
  unfold undoDepth at bounded
  simp only [changed, earlier, withSnapshot]
  by_cases none : buffer.undoLimit = 0
  · have empty : buffer.snapshots = [] := List.length_eq_zero_iff.mp (by omega)
    simp [none, empty]
  · obtain ⟨room, limit⟩ := Nat.exists_eq_succ_of_ne_zero none
    rw [if_neg none]
    by_cases full : buffer.snapshots.length = buffer.undoLimit
    · have kept : buffer.snapshots.dropLast = buffer.snapshots.take room := by
        rw [List.dropLast_eq_take, full, limit, Nat.succ_sub_one]
      simp [full, kept, limit, Buffer.text]
    · rw [if_neg full, limit, List.take_succ_cons, List.take_of_length_le]
      · rfl
      · rw [List.length_map]
        omega

end Buffer

/-! ### Runs under one limit -/

inductive Action where
  | edit (operations : List Operation)
  | undo
  | select (selection : Option Selection)
  | reveal (line startColumn endColumn : Nat)

structure Journal where
  buffer : Buffer
  /-- The texts before the batches that were accepted and not undone since, the latest first. -/
  before : List String

namespace Journal

def start (text : String) (limit : Nat) : Journal := ⟨(Buffer.ofText text).withUndoLimit limit, []⟩

def perform (journal : Journal) : Action → Journal
  | .edit operations =>
    match journal.buffer.applyEdits operations with
    | .ok buffer =>
      ⟨buffer, if operations = [] then journal.before else journal.buffer.text :: journal.before⟩
    | .error _ => journal
  | .undo =>
    match journal.buffer.undo? with
    | some buffer => ⟨buffer, journal.before.tail⟩
    | none => journal
  | .select selection => { journal with buffer := journal.buffer.select selection }
  | .reveal line startColumn endColumn =>
    { journal with buffer := journal.buffer.reveal line startColumn endColumn }

def run : List Action → Journal → Journal
  | [], journal => journal
  | action :: later, journal => run later (journal.perform action)

/-- The buffer keeps the latest texts of the journal, not more than its limit. -/
structure Kept (limit : Nat) (journal : Journal) : Prop where
  limited : journal.buffer.undoLimit = limit
  latest : journal.buffer.earlier <+: journal.before
  bounded : journal.buffer.undoDepth ≤ limit

variable {limit : Nat} {journal : Journal}

theorem kept_start (text : String) (limit : Nat) : (start text limit).Kept limit := by
  have nothing : (start text limit).buffer.earlier = [] := by
    rw [start, Buffer.earlier_withUndoLimit]
    exact List.drop_nil
  refine ⟨rfl, ?_, ?_⟩
  · rw [nothing]
    exact List.nil_prefix
  · rw [← Buffer.length_earlier, nothing]
    exact Nat.zero_le limit

theorem Kept.earlier_changed (kept : journal.Kept limit) (text : String) :
    (journal.buffer.changed text).earlier =
      (journal.buffer.text :: journal.buffer.earlier).take limit := by
  have bounded := kept.bounded
  rw [← kept.limited] at bounded ⊢
  exact journal.buffer.earlier_changed text bounded

theorem Kept.edit (kept : journal.Kept limit) (operations : List Operation) :
    (journal.perform (.edit operations)).Kept limit := by
  simp only [perform]
  cases accepted : journal.buffer.applyEdits operations with
  | error error => exact kept
  | ok edited =>
    rcases Buffer.applyEdits_ok accepted with ⟨rfl, rfl⟩ | ⟨some_edit, text, _, rfl⟩
    · exact kept
    · simp only [some_edit, if_false]
      have earlier := kept.earlier_changed text
      refine ⟨kept.limited, ?_, ?_⟩
      · rw [earlier]
        exact (List.take_prefix _ _).trans (List.cons_prefix_cons.mpr ⟨rfl, kept.latest⟩)
      · rw [← Buffer.length_earlier, earlier]
        exact List.length_take_le _ _

theorem Kept.undo (kept : journal.Kept limit) : (journal.perform .undo).Kept limit := by
  simp only [perform]
  cases undone : journal.buffer.undo? with
  | none => exact kept
  | some restored =>
    obtain ⟨earlier, depth, limited⟩ := journal.buffer.undo?_eq_some undone
    have bounded : restored.undoDepth ≤ limit := by
      have := kept.bounded
      omega
    obtain ⟨older, before⟩ := kept.latest
    rw [earlier, List.cons_append] at before
    refine ⟨limited.trans kept.limited, ⟨older, ?_⟩, bounded⟩
    rw [← before, List.tail_cons]

theorem Kept.perform (kept : journal.Kept limit) (action : Action) :
    (journal.perform action).Kept limit := by
  cases action with
  | edit operations => exact kept.edit operations
  | undo => exact kept.undo
  | select _ | reveal _ _ _ => exact { kept with }

theorem Kept.run (kept : journal.Kept limit) (actions : List Action) :
    (Journal.run actions journal).Kept limit := by
  induction actions generalizing journal with
  | nil => exact kept
  | cons action later ih => exact ih (kept.perform action)

/-- An accepted batch loses a text only when the limit is reached. -/
theorem Kept.undoDepth_of_applyEdits (kept : journal.Kept limit) {operations : List Operation}
    (some_edit : operations ≠ []) {edited : Buffer}
    (accepted : journal.buffer.applyEdits operations = .ok edited) :
    edited.undoDepth = min limit (journal.buffer.undoDepth + 1) := by
  rcases Buffer.applyEdits_ok accepted with ⟨empty, _⟩ | ⟨_, text, _, rfl⟩
  · exact absurd empty some_edit
  · rw [← Buffer.length_earlier, kept.earlier_changed, List.length_take, List.length_cons,
      Buffer.length_earlier]

/-- After every run under one limit the buffer keeps exactly the top of its journal. So undoing
restores the text before the latest batch not yet undone, and fails only when nothing is kept; and
nothing is lost before the limit is reached. -/
theorem run_keeps_latest (text : String) (limit : Nat) (actions : List Action) :
    let journal := run actions (start text limit)
    journal.buffer.earlier = journal.before.take journal.buffer.undoDepth ∧
    journal.buffer.undoDepth ≤ limit ∧
    (∀ restored, journal.buffer.undo? = some restored →
      journal.before.head? = some restored.text ∧
      restored.undoDepth + 1 = journal.buffer.undoDepth) ∧
    (journal.buffer.undo? = none ↔ journal.buffer.undoDepth = 0) ∧
    (journal.buffer.undo? = none → journal.perform .undo = journal) ∧
    ∀ operations edited, operations ≠ [] → journal.buffer.applyEdits operations = .ok edited →
      edited.undoDepth = min limit (journal.buffer.undoDepth + 1) := by
  intro journal
  have kept : journal.Kept limit := (kept_start text limit).run actions
  refine ⟨?_, kept.bounded, ?_, Buffer.undo?_eq_none_iff _, ?_, ?_⟩
  · rw [← Buffer.length_earlier]
    exact List.prefix_iff_eq_take.mp kept.latest
  · intro restored undone
    obtain ⟨earlier, depth, _⟩ := journal.buffer.undo?_eq_some undone
    obtain ⟨older, before⟩ := kept.latest
    refine ⟨?_, depth.symm⟩
    rw [← before, earlier]
    rfl
  · intro exhausted
    simp only [perform, exhausted]
  · intro operations edited some_edit accepted
    exact kept.undoDepth_of_applyEdits some_edit accepted

end Journal

/-! ### A new limit -/

/-- The last entries of a list are its first ones exactly if each of these equals the entry that
stands further on by as many as are left out. -/
theorem take_eq_drop_iff {α : Type} (entries : List α) (limit : Nat) :
    entries.take limit = entries.drop (entries.length - limit) ↔
      ∀ i < limit, entries[i]? = entries[i + (entries.length - limit)]? := by
  constructor
  · intro same i less
    have entry := congrArg (·[i]?) same
    simpa [List.getElem?_take, List.getElem?_drop, less, Nat.add_comm] using entry
  · intro same
    apply List.ext_getElem?
    intro i
    rw [List.getElem?_drop, List.getElem?_take, Nat.add_comm]
    split
    · exact same i ‹_›
    · exact (List.getElem?_eq_none (by omega)).symm

namespace Buffer

/-- `buffer.Undoes texts`: undoing again and again restores these texts in turn, and then fails. -/
inductive Undoes : Buffer → List String → Prop where
  | done {buffer : Buffer} : buffer.undo? = none → Undoes buffer []
  | back {buffer restored : Buffer} {texts : List String} :
      buffer.undo? = some restored → Undoes restored texts → Undoes buffer (restored.text :: texts)

variable {buffer : Buffer}

theorem Undoes.eq_earlier {texts : List String} (undoes : buffer.Undoes texts) :
    texts = buffer.earlier := by
  induction undoes with
  | done exhausted =>
    have depth := (undo?_eq_none_iff _).mp exhausted
    rw [← length_earlier] at depth
    exact (List.length_eq_zero_iff.mp depth).symm
  | back undone _ ih => rw [ih, (undo?_eq_some _ undone).1]

theorem undoes_earlier (buffer : Buffer) : buffer.Undoes buffer.earlier := by
  obtain ⟨chars, selection, snapshots, undoLimit⟩ := buffer
  induction snapshots generalizing chars selection with
  | nil => exact .done rfl
  | cons newest older ih => exact .back rfl (ih newest none)

theorem undoes_iff (buffer : Buffer) (texts : List String) :
    buffer.Undoes texts ↔ texts = buffer.earlier := by
  constructor
  · exact Undoes.eq_earlier
  · rintro rfl
    exact undoes_earlier buffer

/-- A new limit changes neither text nor selection. Of the texts that can be gone back to the oldest
stay, which are the newest exactly if each of the newest equals the one that stays in its place, as
when nothing has to be dropped. -/
theorem withUndoLimit_keeps_oldest (buffer : Buffer) (limit : Nat) :
    (buffer.withUndoLimit limit).text = buffer.text ∧
    (buffer.withUndoLimit limit).selection = buffer.selection ∧
    (∀ texts, (buffer.withUndoLimit limit).Undoes texts ↔
      texts = buffer.earlier.drop (buffer.undoDepth - limit)) ∧
    ((buffer.withUndoLimit limit).Undoes (buffer.earlier.take limit) ↔
      ∀ i < limit, buffer.earlier[i]? = buffer.earlier[i + (buffer.undoDepth - limit)]?) := by
  refine ⟨rfl, rfl, ?_, ?_⟩
  · intro texts
    rw [undoes_iff, earlier_withUndoLimit]
  · rw [undoes_iff, earlier_withUndoLimit, ← length_earlier]
    exact take_eq_drop_iff buffer.earlier limit

/-- With two texts to go back to and room for one, the newer one is lost. -/
theorem withUndoLimit_drops_newest :
    let buffer :=
      (Journal.run [.edit [⟨1, 1, 2, "b"⟩], .edit [⟨1, 1, 2, "c"⟩]] (.start "a" 100)).buffer
    buffer.earlier = ["b", "a"] ∧ (buffer.withUndoLimit 1).Undoes ["a"] ∧
      ¬ (buffer.withUndoLimit 1).Undoes (buffer.earlier.take 1) := by
  intro buffer
  have earlier : buffer.earlier = ["b", "a"] := by decide +kernel
  have depth : buffer.undoDepth = 2 := by rw [← length_earlier, earlier]; rfl
  refine ⟨earlier, ?_, ?_⟩
  · rw [undoes_iff, earlier_withUndoLimit, earlier, depth]
    rfl
  · rw [undoes_iff, earlier_withUndoLimit, earlier, depth]
    decide

end Buffer

end StoryScript.Editor
