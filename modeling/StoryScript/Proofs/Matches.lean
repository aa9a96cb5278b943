import StoryScript.Proofs.Hits
import StoryScript.Proofs.Positions
import StoryScript.Search.Find

/-! The matches of a search. Each stands on a line of the source, and they follow one another in the
order of the source without overlap. -/
namespace StoryScript.Search

open Pattern (Program Hit)

/-- The match is a stretch of at least one character of a line of the source. -/
structure Match.StandsIn (source : String) (m : Match) : Prop where
  line : (Text.line? source m.line).map Line.text = some m.lineText
  column : 1 ≤ m.column
  nonempty : m.column < m.endColumn
  inside : m.endColumn ≤ m.lineText.length + 1
  matched : m.matchedText.toList = slice m.lineText.toList (m.column - 1) (m.endColumn - 1)

theorem Match.StandsIn.hasColumn {source : String} {m : Match} (stands : m.StandsIn source)
    {column : Nat} (positive : 1 ≤ column) (inside : column ≤ m.endColumn) :
    Text.HasColumn source m.line column := by
  obtain ⟨line, found, text⟩ := Option.map_eq_some_iff.mp stands.line
  exact ⟨positive, line, found, by rw [text]; exact Nat.le_trans inside stands.inside⟩

theorem slice_position {source : String} {number start stop : Nat} {line : Line}
    (found : Text.line? source number = some line) (positive : 1 ≤ start) (order : start ≤ stop)
    (inside : stop ≤ line.text.length + 1) :
    slice source.toList (Text.position source number start) (Text.position source number stop) =
      slice line.text.toList (start - 1) (stop - 1) := by
  obtain ⟨_, piece, atPiece, rfl⟩ := (Text.line?_eq_some_iff ..).mp found
  obtain ⟨rest, around⟩ := Text.exists_around_body atPiece
  rw [String.length_ofList] at inside
  rw [String.toList_ofList, slice, slice, Text.position, Text.position]
  generalize ((Text.pieces source.toList).take (number - 1)).flatten = before at around ⊢
  rw [around, List.drop_length_add_append, List.drop_append_of_le_length (by omega),
    Nat.add_sub_add_left, List.take_append_of_le_length (by rw [List.length_drop]; omega)]

theorem Match.StandsIn.slice_source {source : String} {m : Match} (stands : m.StandsIn source) :
    slice source.toList (Text.position source m.line m.column)
      (Text.position source m.line m.endColumn) = m.matchedText.toList := by
  obtain ⟨line, found, text⟩ := Option.map_eq_some_iff.mp stands.line
  rw [stands.matched, ← text]
  exact slice_position found stands.column (Nat.le_of_lt stands.nonempty) (text ▸ stands.inside)

def Match.Precedes (a b : Match) : Prop :=
  a.line < b.line ∨ a.line = b.line ∧ a.endColumn ≤ b.column

section

variable {program : Program} {withGroups : Bool} {line : Line}

theorem matchOf_eq_some {hit : Hit} {m : Match} (made : matchOf program withGroups line hit = some m) :
    hit.start ≠ hit.stop ∧ m.line = line.number ∧ m.column = hit.start + 1 ∧
      m.endColumn = hit.stop + 1 ∧ m.lineText = line.text ∧
      m.matchedText.toList = slice line.text.toList hit.start hit.stop := by
  unfold matchOf at made
  split at made
  · cases made
  · rename_i different
    cases made
    exact ⟨different, rfl, rfl, rfl, rfl, by simp⟩

theorem matchesOn_standsIn {source : String} (found : Text.line? source line.number = some line)
    {m : Match} (member : m ∈ matchesOn program withGroups line) : m.StandsIn source := by
  obtain ⟨hit, hitMember, made⟩ := List.mem_filterMap.mp member
  obtain ⟨different, number, column, endColumn, text, matched⟩ := matchOf_eq_some made
  have within := (program.allMatches_ascend line.text.toList).within hit hitMember
  have order := within.order
  have stop := within.stop
  rw [String.length_toList] at stop
  refine ⟨?_, by omega, by omega, by rw [text]; omega, ?_⟩
  · rw [number, found, text, Option.map_some]
  · rw [matched, text, column, endColumn, Nat.add_sub_cancel, Nat.add_sub_cancel]

theorem matchesOn_line {m : Match} (member : m ∈ matchesOn program withGroups line) :
    m.line = line.number := by
  obtain ⟨hit, _, made⟩ := List.mem_filterMap.mp member
  exact (matchOf_eq_some made).2.1

theorem matchesOn_pairwise (program : Program) (withGroups : Bool) (line : Line) :
    (matchesOn program withGroups line).Pairwise Match.Precedes := by
  refine List.pairwise_filterMap.mpr ((program.allMatches_ascend _).pairwise.imp ?_)
  intro a b apart m madeA m' madeB
  obtain ⟨_, numberA, _, endColumn, _⟩ := matchOf_eq_some madeA
  obtain ⟨_, numberB, column, _⟩ := matchOf_eq_some madeB
  exact .inr ⟨by rw [numberA, numberB], by omega⟩

end

section

variable (source query : String) (options : Options)

/-- What a search returns: nothing for an empty query, the error of one that cannot be used, and the
matches of all lines otherwise. -/
theorem find_cases :
    (query = "" ∧ find source query options = ⟨query, options, .ofText source, [], none⟩) ∨
    (query ≠ "" ∧ ∃ error, compile query options = .error error ∧
      find source query options =
        ⟨query, options, .ofText source, [], some (invalidPattern error.message)⟩) ∨
    (query ≠ "" ∧ ∃ program, compile query options = .ok program ∧
      find source query options =
        ⟨query, options, .ofText source,
          (Text.lines source).flatMap (matchesOn program options.regex), none⟩) := by
  by_cases empty : query = ""
  · exact .inl ⟨empty, by simp [find, empty]⟩
  · cases compiled : compile query options with
    | error error => exact .inr (.inl ⟨empty, error, rfl, by simp [find, empty, compiled]⟩)
    | ok program => exact .inr (.inr ⟨empty, program, rfl, by simp [find, empty, compiled]⟩)

@[simp] theorem find_query : (find source query options).query = query := by
  rcases find_cases source query options with ⟨_, eq⟩ | ⟨_, _, _, eq⟩ | ⟨_, _, _, eq⟩ <;> rw [eq]

@[simp] theorem find_options : (find source query options).options = options := by
  rcases find_cases source query options with ⟨_, eq⟩ | ⟨_, _, _, eq⟩ | ⟨_, _, _, eq⟩ <;> rw [eq]

@[simp] theorem find_sourceHash :
    (find source query options).sourceHash = Fingerprint.ofText source := by
  rcases find_cases source query options with ⟨_, eq⟩ | ⟨_, _, _, eq⟩ | ⟨_, _, _, eq⟩ <;> rw [eq]

theorem find_patternError_eq_some_iff (reason : String) :
    (find source query options).patternError = some reason ↔
      query ≠ "" ∧ ∃ error, compile query options = .error error ∧
        reason = invalidPattern error.message := by
  rcases find_cases source query options with
    ⟨empty, eq⟩ | ⟨nonempty, error, failed, eq⟩ | ⟨nonempty, program, compiled, eq⟩ <;> rw [eq]
  · simp [empty]
  · simp [nonempty, failed, eq_comm]
  · simp [compiled]

def Usable (query : String) (options : Options) : Prop :=
  query = "" ∨ ∃ program, compile query options = .ok program

theorem find_patternError_eq_none_iff :
    (find source query options).patternError = none ↔ Usable query options := by
  rcases find_cases source query options with
    ⟨empty, eq⟩ | ⟨nonempty, error, failed, eq⟩ | ⟨nonempty, program, compiled, eq⟩ <;> rw [eq]
  · simp [Usable, empty]
  · simp [Usable, nonempty, failed]
  · simp [Usable, compiled]

theorem find_standsIn {m : Match} (member : m ∈ (find source query options).found) :
    m.StandsIn source := by
  rcases find_cases source query options with ⟨_, eq⟩ | ⟨_, _, _, eq⟩ | ⟨_, program, _, eq⟩ <;>
    rw [eq] at member
  · cases member
  · cases member
  · obtain ⟨line, lineMember, onLine⟩ := List.mem_flatMap.mp member
    exact matchesOn_standsIn (Text.line?_of_mem lineMember) onLine

/-- Matches come in the order of the source and do not overlap. -/
theorem find_pairwise : (find source query options).found.Pairwise Match.Precedes := by
  rcases find_cases source query options with ⟨_, eq⟩ | ⟨_, _, _, eq⟩ | ⟨_, program, _, eq⟩ <;>
    rw [eq]
  · exact .nil
  · exact .nil
  · refine List.pairwise_flatMap.mpr ⟨fun line _ => matchesOn_pairwise _ _ line, ?_⟩
    refine (Text.lines_pairwise source).imp fun less a memberA b memberB => .inl ?_
    rwa [matchesOn_line memberA, matchesOn_line memberB]

theorem find_ascending : (find source query options).found.Pairwise fun a b =>
    a.line < b.line ∨ a.line = b.line ∧ a.column < b.column := by
  refine (find_pairwise source query options).imp_of_mem fun member _ precedes => ?_
  have nonempty := (find_standsIn source query options member).nonempty
  rcases precedes with less | ⟨same, le⟩
  · exact .inl less
  · exact .inr ⟨same, Nat.lt_of_lt_of_le nonempty le⟩

end

end StoryScript.Search
