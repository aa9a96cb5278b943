import Mathlib.Algebra.BigOperators.Ring.Finset
import StoryScript.Proofs.Marks
import StoryScript.Proofs.Sites
import StoryScript.Report.Analysis

/-! A line is of one kind at most. Each kind has words of its own that its lines start with behind
white space, and none of these words starts with one of another kind. So what is counted line by line
is counted on different lines, and a report can be compared with the number of lines of code. -/
namespace StoryScript.Script

inductive LineKind where
  | comment | definition | choice | assignment | branch
  deriving DecidableEq, Repr

namespace LineKind

def holds (line : String) : LineKind → Bool
  | comment => isComment line
  | definition => (sceneDefinition? line).isSome
  | choice => isChoice line
  | assignment => (assignment? line).isSome
  | branch => isConditionalBranch line

def openings : LineKind → List (List Char)
  | comment => [['/', '/'], ['#']]
  | definition => [['s', 'c', 'e', 'n', 'e']]
  | choice => [['c', 'h', 'o', 'i', 'c', 'e']]
  | assignment => [['s', 'e', 't']]
  | branch => [['}'], ['i', 'f'], ['e', 'l', 'i', 'f'], ['e', 'l', 's', 'e']]

/-- The line starts with a word of the kind, behind white space. -/
def Opens (kind : LineKind) (line : String) : Prop :=
  ∃ word ∈ kind.openings, word <+: skipWhite line.toList

/-- An opening of one kind never starts with one of another, and none is empty. -/
theorem openings_apart : ∀ kind other : LineKind, ∀ word ∈ kind.openings,
    word ≠ [] ∧ ∀ word' ∈ other.openings, word <+: word' → kind = other := by
  intro kind other
  cases kind <;> cases other <;> decide

theorem Opens.unique {kind other : LineKind} {line : String} (opens : kind.Opens line)
    (opens' : other.Opens line) : kind = other := by
  obtain ⟨word, member, starts⟩ := opens
  obtain ⟨word', member', starts'⟩ := opens'
  rcases List.prefix_or_prefix_of_prefix starts starts' with short | short
  · exact (openings_apart kind other word member).2 word' member' short
  · exact ((openings_apart other kind word' member').2 word member short).symm

end LineKind

/-! ### Openings of lines -/

section

variable {line : String}

theorem prefix_of_afterWord? {word text rest : List Char} (found : afterWord? word text = some rest) :
    word <+: text :=
  ⟨rest, (afterWord?_eq_some_iff.mp found).symm⟩

theorem opens_of_isComment (comment : isComment line) : LineKind.comment.Opens line := by
  unfold isComment isCommentChars at comment
  split at comment
  · rename_i rest start
    exact ⟨['/', '/'], by decide, rest, start.symm⟩
  · rename_i rest start
    exact ⟨['#'], by decide, rest, start.symm⟩
  · cases comment

theorem opens_of_sceneDefinition? {mark : Mark} (found : sceneDefinition? line = some mark) :
    LineKind.definition.Opens line := by
  simp only [sceneDefinition?, Option.bind_eq_bind, Option.bind_eq_some_iff] at found
  obtain ⟨rest, word, _⟩ := found
  exact ⟨_, List.mem_singleton_self _, prefix_of_afterWord? word⟩

theorem opens_of_isChoice (choice : isChoice line) : LineKind.choice.Opens line := by
  unfold isChoice at choice
  split at choice
  · rename_i rest word
    exact ⟨_, List.mem_singleton_self _, prefix_of_afterWord? word⟩
  · cases choice

theorem opens_of_assignment? {mark : Mark} (found : assignment? line = some mark) :
    LineKind.assignment.Opens line := by
  simp only [assignment?, Option.bind_eq_bind, Option.bind_eq_some_iff] at found
  obtain ⟨rest, word, _⟩ := found
  exact ⟨_, List.mem_singleton_self _, prefix_of_afterWord? word⟩

theorem startsWithWord_iff {words : List (List Char)} {text : List Char} :
    startsWithWord words text = true ↔
      ∃ word ∈ words, ∃ rest, text = word ++ rest ∧ atWordEnd rest = true := by
  simp [startsWithWord, Option.any_eq_true, afterWord?_eq_some_iff]

theorem afterClosing_cases (text : List Char) :
    (∃ rest, skipWhite text = '}' :: rest) ∨ afterClosing text = skipWhite text := by
  unfold afterClosing
  split
  · rename_i rest closing
    exact .inl ⟨rest, closing⟩
  · exact .inr rfl

theorem opens_of_opensConditional (opens : opensConditional line) : LineKind.branch.Opens line := by
  obtain ⟨word, member, rest, start, _⟩ := startsWithWord_iff.mp opens
  rcases afterClosing_cases line.toList with ⟨rest, closing⟩ | same
  · exact ⟨['}'], by decide, rest, closing.symm⟩
  · exact ⟨word, List.mem_cons_of_mem _ member, rest, by rw [← same, start]⟩

theorem atWordEnd_of_afterWhite? {text rest : List Char} (white : afterWhite? text = some rest) :
    atWordEnd text = true := by
  cases text with
  | nil => rfl
  | cons c text =>
    simp only [afterWhite?, Option.ite_none_right_eq_some] at white
    simp [atWordEnd, Unicode.isWord_of_isWhite white.1]

/-- A branch with a condition opens a conditional block, also after `else`. -/
theorem opensConditional_of_isConditionalBranch (branch : isConditionalBranch line) :
    opensConditional line := by
  unfold isConditionalBranch at branch
  unfold opensConditional
  generalize afterClosing line.toList = start at branch ⊢
  cases after : (afterWord? ['e', 'l', 's', 'e'] start).bind afterWhite? with
  | none =>
    simp only [after, Option.getD_none] at branch
    obtain ⟨word, member, rest⟩ := startsWithWord_iff.mp branch
    exact startsWithWord_iff.mpr ⟨word, List.mem_append_left [['e', 'l', 's', 'e']] member, rest⟩
  | some text =>
    obtain ⟨rest, word, white⟩ := Option.bind_eq_some_iff.mp after
    exact startsWithWord_iff.mpr ⟨['e', 'l', 's', 'e'], by decide, rest,
      afterWord?_eq_some_iff.mp word, atWordEnd_of_afterWhite? white⟩

theorem LineKind.opens_of_holds {kind : LineKind} (held : kind.holds line) : kind.Opens line := by
  cases kind with
  | comment => exact opens_of_isComment held
  | definition => exact opens_of_sceneDefinition? (Option.eq_some_of_isSome held)
  | choice => exact opens_of_isChoice held
  | assignment => exact opens_of_assignment? (Option.eq_some_of_isSome held)
  | branch => exact opens_of_opensConditional (opensConditional_of_isConditionalBranch held)

theorem LineKind.holds_unique {kind other : LineKind} (held : kind.holds line)
    (held' : other.holds line) : kind = other :=
  (opens_of_holds held).unique (opens_of_holds held')

theorem LineKind.isBlank_of_holds (kind : LineKind) (held : kind.holds line) :
    Text.isBlank line = false := by
  obtain ⟨word, member, starts⟩ := opens_of_holds held
  refine Bool.eq_false_iff.mpr fun blank => ?_
  have nothing : skipWhite line.toList = [] := Blank.skipWhite_eq_nil (List.all_eq_true.mp blank)
  rw [nothing, List.prefix_nil] at starts
  exact (openings_apart kind kind word member).1 starts

theorem isChoice_of_choiceTarget? (found : (choiceTarget? line).isSome) : isChoice line := by
  obtain ⟨mark, target⟩ := Option.isSome_iff_exists.mp found
  simp only [choiceTarget?, Option.ite_none_right_eq_some] at target
  exact target.1

theorem openingKind_of_isConditionalBranch (branch : isConditionalBranch line) :
    openingKind line = .conditional :=
  if_pos (opensConditional_of_isConditionalBranch branch)

theorem openingKind_of_sceneDefinition? (found : (sceneDefinition? line).isSome) :
    openingKind line = .scene := by
  have scene : LineKind.definition.Opens line := LineKind.opens_of_holds found
  have other : ¬ opensConditional line := fun opens =>
    nomatch scene.unique (opens_of_opensConditional opens)
  rw [openingKind, if_neg other, if_pos found]

end

/-! ### Counting lines -/

/-- Lines of different kinds are different lines. -/
theorem LineKind.sum_countP_le_length (kinds : Finset LineKind) (lines : List Line) :
    ∑ kind ∈ kinds, lines.countP (fun line => kind.holds line.text) ≤ lines.length := by
  induction lines with
  | nil => simp
  | cons line rest ih =>
    have one : (kinds.filter fun kind => kind.holds line.text).card ≤ 1 := by
      refine Finset.card_le_one.mpr fun kind first other second => ?_
      exact holds_unique (Finset.mem_filter.mp first).2 (Finset.mem_filter.mp second).2
    simp only [List.countP_cons, Finset.sum_add_distrib, Finset.sum_boole, Nat.cast_id,
      List.length_cons]
    omega

/-- Of readings that see nothing on a blank line, the lines of code are counted. -/
theorem countP_uncommented {holds : String → Bool}
    (visible : ∀ text, holds text → Text.isBlank text = false) (source : String) :
    (uncommented source).countP (fun line => holds line.text) =
      (codeOf source).countP fun line => holds line.text := by
  rw [codeOf, List.countP_filter]
  refine List.countP_congr fun line _ => ?_
  by_cases held : holds line.text
  · simp [held, visible _ held]
  · simp [held]

theorem length_sitesOf_toList (mark? : String → Option Mark) (lines : List Line) :
    (sitesOf (fun line => (mark? line).toList) lines).length =
      lines.countP fun line => (mark? line.text).isSome := by
  induction lines with
  | nil => rfl
  | cons line rest ih =>
    cases found : mark? line.text <;> simp [sitesOf, found] at ih ⊢ <;> omega

theorem length_sites_of_visible {mark? : String → Option Mark}
    (visible : ∀ text, (mark? text).isSome → Text.isBlank text = false) (source : String) :
    (sitesOf (fun line => (mark? line).toList) (uncommented source)).length =
      (codeOf source).countP fun line => (mark? line.text).isSome := by
  rw [length_sitesOf_toList]
  exact countP_uncommented visible source

theorem length_definitions (source : String) : (Scenes.ofSource source).definitions.length =
    (codeOf source).countP fun line => LineKind.definition.holds line.text := by
  rw [Scenes.definitions_ofSource]
  exact length_sites_of_visible (fun _ => LineKind.isBlank_of_holds .definition) source

theorem length_assignments (source : String) : (Variables.ofSource source).assignments.length =
    (codeOf source).countP fun line => LineKind.assignment.holds line.text := by
  rw [Variables.assignments_ofSource]
  exact length_sites_of_visible (fun _ => LineKind.isBlank_of_holds .assignment) source

theorem length_references_le (source : String) : (Scenes.ofSource source).references.length ≤
    (codeOf source).countP fun line => isChoice line.text := by
  have visible (text : String) (found : (choiceTarget? text).isSome) : Text.isBlank text = false :=
    LineKind.isBlank_of_holds .choice (isChoice_of_choiceTarget? found)
  rw [Scenes.references_ofSource, length_sites_of_visible visible]
  exact List.countP_mono_left fun line _ => isChoice_of_choiceTarget?

theorem length_codeOf_add_le (source : String) : (codeOf source).length +
    (Text.lines source).countP (fun line => isComment line.text) ≤ (Text.lines source).length := by
  have code : (codeOf source).length ≤ (uncommented source).length := List.length_filter_le _ _
  have whole := List.length_eq_countP_add_countP (fun line : Line => isComment line.text)
    (l := Text.lines source)
  simp only [uncommented, ← List.countP_eq_length_filter, Bool.not_eq_true,
    Bool.decide_eq_false] at code whole
  omega

/-- A line is of one kind at most, a target makes it a choice, and the kinds of the blocks that it opens
go with its own. So the scenes, choices, branches and assignments of a source are on different
lines of code, these are no comments, and there are no more references than choices. -/
theorem lines_unambiguous (line : String) (config : Report.Config) (source : String) :
    (∀ kind other : LineKind, kind.holds line → other.holds line → kind = other) ∧
    ((choiceTarget? line).isSome → isChoice line) ∧
    (isConditionalBranch line → openingKind line = .conditional) ∧
    ((sceneDefinition? line).isSome → openingKind line = .scene) ∧
    (analyze config source).complexity.score + (Variables.ofSource source).assignments.length ≤
      (analyze config source).metrics.codeLines ∧
    (analyze config source).metrics.codeLines + (analyze config source).metrics.commentLines ≤
      (analyze config source).metrics.totalLines ∧
    (Scenes.ofSource source).references.length ≤ (analyze config source).complexity.choices := by
  refine ⟨fun _ _ => LineKind.holds_unique, isChoice_of_choiceTarget?,
    openingKind_of_isConditionalBranch, openingKind_of_sceneDefinition?, ?_, ?_, ?_⟩
  · have apart := LineKind.sum_countP_le_length
      {.definition, .choice, .branch, .assignment} (codeOf source)
    simp only [Finset.mem_insert, Finset.mem_singleton, reduceCtorEq, or_self, not_false_eq_true,
      Finset.sum_insert, Finset.sum_singleton] at apart
    simp only [analyze, length_definitions, length_assignments, Structure.ofSource, Metrics.ofSource]
    simp only [LineKind.holds] at apart ⊢
    omega
  · exact length_codeOf_add_le source
  · exact length_references_le source

end StoryScript.Script
