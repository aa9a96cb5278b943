import StoryScript.Proofs.Matches
import StoryScript.Proofs.Phrases
import StoryScript.Proofs.Space

/-! Searching for a text as it is. Its program is that of a phrase with a set for each character, and
the matches of a source are the occurrences that a greedy scan finds on each of its lines. -/
namespace StoryScript.Pattern

open Unicode (CharSet)

/-- A node that is one instruction wherever it is placed, and no group. -/
structure Node.Single (node : Node) (inst : Inst) : Prop where
  groups : node.groups = 0
  emit : ∀ start, node.emit start = [inst]

/-- Nodes of one instruction in a row are their instructions in a row. -/
theorem Node.sequence_singles {α : Type} {node : α → Node} {inst : α → Inst}
    (single : ∀ entry, (node entry).Single (inst entry)) (entries : List α) :
    (sequence (entries.map node)).groups = 0 ∧
      ∀ start, (sequence (entries.map node)).emit start = entries.map inst := by
  induction entries with
  | nil => exact ⟨rfl, fun _ => rfl⟩
  | cons first more ih =>
    obtain ⟨firstGroups, firstEmit⟩ := single first
    cases more with
    | nil => exact ⟨firstGroups, firstEmit⟩
    | cons second more =>
      obtain ⟨groups, emit⟩ := ih
      have unfolded : sequence ((first :: second :: more).map node) =
        seq (node first) (sequence ((second :: more).map node)) := rfl
      rw [unfolded]
      refine ⟨?_, fun start => ?_⟩
      · rw [Node.groups, groups, firstGroups, Nat.max_self]
      · rw [Node.emit, emit, firstEmit]
        rfl

theorem Node.sequence_sets (sets : List CharSet) :
    (sequence (sets.map set)).groups = 0 ∧
      ∀ start, (sequence (sets.map set)).emit start = sets.map .consume :=
  sequence_singles (fun _ => ⟨rfl, fun _ => rfl⟩) sets

/-- Whole words start and end at word boundaries. -/
def wordBorder (wholeWord : Bool) : Option Look :=
  if wholeWord then some (.word .either false) else none

def Phrase.ofText (ignoreCase wholeWord : Bool) (text : List Char) (nonempty : text ≠ []) : Phrase where
  sets := text.map (.ofChar ignoreCase)
  opens before after := (wordBorder wholeWord).all (·.holds before after)
  closes before after := (wordBorder wholeWord).all (·.holds before after)
  nonempty := by simpa using nonempty

theorem Program.ofNode_ofText (ignoreCase wholeWord : Bool) (text : List Char) (nonempty : text ≠ []) :
    Program.ofNode (Node.ofText ignoreCase wholeWord text) =
      (Phrase.ofText ignoreCase wholeWord text nonempty).program (wordBorder wholeWord) := by
  obtain ⟨groups, emit⟩ := Node.sequence_sets (text.map (.ofChar ignoreCase))
  rw [List.map_map, Function.comp_def] at groups emit
  cases wholeWord <;>
    simp [Program.ofNode, Node.ofText, Node.sequence, Node.emit, Node.groups, emit, groups,
      Phrase.program, Phrase.code, wordBorder, Phrase.ofText]

end StoryScript.Pattern

namespace StoryScript.Search

open Pattern (Phrase Program Node wordBorder)
open Unicode (CharSet)

/-- A search takes the two characters for the same. -/
def Options.identifies (options : Options) (a b : Char) : Bool :=
  if options.caseSensitive then a == b else Unicode.fold a == Unicode.fold b

theorem mem_ofChar (options : Options) (c x : Char) :
    (CharSet.ofChar (!options.caseSensitive) c).mem x = options.identifies x c := by
  cases sensitive : options.caseSensitive <;>
    simp [CharSet.ofChar, CharSet.mem, Options.identifies, sensitive]

section

variable {query : String} {options : Options}

/-- The query is not too long to be searched for as it is. -/
def Fits (query : String) (options : Options) : Prop :=
  (Node.ofText (!options.caseSensitive) options.wholeWord query.toList).Fits

instance : Decidable (Fits query options) := inferInstanceAs (Decidable (Node.Fits _))

/-- A text that can be looked for has a state for each character. -/
theorem Fits.length_le (fits : Fits query options) :
    query.length * Pattern.stateBytes ≤ Program.byteLimit := by
  have each : query.length * Pattern.stateBytes ≤ (query.toList.map fun c =>
      Pattern.setSpace .forward (.ofChar (!options.caseSensitive) c)).sum := by
    rw [← String.length_toList]
    induction query.toList with
    | nil => exact Nat.zero_le _
    | cons c rest ih =>
      have one := Pattern.utf8Size_le_setSpace
        ((mem_ofChar options c c).trans (by simp [Options.identifies])) .forward
      have state := Nat.mul_le_mul_right Pattern.stateBytes c.utf8Size_pos
      simp only [List.length_cons, List.map_cons, List.sum_cons, Nat.add_mul]
      omega
  have space := fits .forward
  rw [Node.space_ofText] at space
  omega

def phraseOf (query : String) (options : Options) (nonempty : query ≠ "") : Phrase :=
  .ofText (!options.caseSensitive) options.wholeWord query.toList (by simpa using nonempty)

theorem within_phraseOf (options : Options) (nonempty : query ≠ "") :
    (phraseOf query options nonempty).Within (wordBorder options.wholeWord) :=
  ⟨fun _ _ => rfl, fun _ _ => rfl⟩

@[simp] theorem width_phraseOf (options : Options) (nonempty : query ≠ "") :
    (phraseOf query options nonempty).width = query.length := by
  simp [phraseOf, Phrase.ofText, Phrase.width, String.length_toList]

variable (literal : options.regex = false) (nonempty : query ≠ "")

include literal

/-- Any text can be searched for, unless it is too long. -/
theorem compile_literal :
    compile query options =
      if Fits query options then
        .ok ((phraseOf query options nonempty).program (wordBorder options.wholeWord))
      else .error (.tooLarge Program.byteLimit) := by
  have program := Program.ofNode_ofText (!options.caseSensitive) options.wholeWord query.toList
    (by simpa using nonempty)
  rw [compile, if_neg (by simp [literal]), Program.ofText, Program.ofNodeWithin, Program.ofNode?]
  by_cases fits : Fits query options
  · rw [if_pos fits, if_pos (show Node.Fits _ from fits), program]
    rfl
  · rw [if_neg fits, if_neg (show ¬ Node.Fits _ from fits)]

include nonempty in
theorem exists_compile_literal_iff :
    (∃ program, compile query options = .ok program) ↔ Fits query options := by
  rw [compile_literal literal nonempty]
  by_cases fits : Fits query options
  · simp [fits]
  · simp [fits]

end

def matchAt (width : Nat) (line : Line) (start : Nat) : Match where
  line := line.number
  column := start + 1
  endColumn := start + width + 1
  matchedText := String.ofList (slice line.text.toList start (start + width))
  lineText := line.text
  groups := []

theorem matchesOn_phrase {phrase : Phrase} {border : Option Pattern.Look}
    (within : phrase.Within border) (line : Line) :
    matchesOn (phrase.program border) false line =
      (phrase.scan 0 none 0 line.text.toList).map (matchAt phrase.width line) := by
  have made (start : Nat) : matchOf (phrase.program border) false line (phrase.hitAt start) =
      some (matchAt phrase.width line start) := by
    simp [matchOf, Phrase.hitAt, matchAt, Nat.ne_of_gt phrase.width_pos]
  have all : matchOf (phrase.program border) false line ∘ phrase.hitAt =
      some ∘ matchAt phrase.width line := funext made
  rw [matchesOn, phrase.allMatches_eq within, List.filterMap_map, all, List.filterMap_eq_map]

section

variable (source : String) {query : String} {options : Options} (literal : options.regex = false)
  (nonempty : query ≠ "")

include literal nonempty

/-- Searching for a text finds it on each line where a greedy scan does. -/
theorem find_literal (fits : Fits query options) :
    find source query options = ⟨query, options, .ofText source, (Text.lines source).flatMap fun line =>
      ((phraseOf query options nonempty).scan 0 none 0 line.text.toList).map
        (matchAt query.length line), none⟩ := by
  have compiled := compile_literal literal nonempty
  rw [if_pos fits] at compiled
  have onLine : matchesOn ((phraseOf query options nonempty).program (wordBorder options.wholeWord))
      false = fun line => ((phraseOf query options nonempty).scan 0 none 0 line.text.toList).map
        (matchAt query.length line) := by
    funext line
    rw [matchesOn_phrase (within_phraseOf options nonempty), width_phraseOf]
  simp [find, compiled, literal, nonempty, onLine]

theorem find_tooLong (long : ¬ Fits query options) :
    find source query options = ⟨query, options, .ofText source, [],
      some (invalidPattern (Pattern.Error.tooLarge Program.byteLimit).message)⟩ := by
  have failed := compile_literal literal nonempty
  rw [if_neg long] at failed
  simp [find, failed, nonempty]

end

end StoryScript.Search
