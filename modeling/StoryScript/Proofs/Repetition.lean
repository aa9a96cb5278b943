import StoryScript.Proofs.EditedLines
import StoryScript.Proofs.Matches

/-! A set of characters repeated as often as possible. On a text of such characters alone the repetition
reads to the end: one thread goes round the loop, and with each character its match gets longer. -/
namespace StoryScript.Pattern.Program

open Unicode (CharSet)

/-- One character of a set, and then as many more as there are. -/
def oneOrMore (set : CharSet) : Program := ⟨#[.consume set, .split 0 2, .accept], 0⟩

section

variable {set : CharSet} (before after : Option Char) (offset start : Nat)

theorem settle_begin : (oneOrMore set).settle before after offset (Array.replicate 3 false) []
    [⟨0, start, []⟩] = ([⟨0, start, []⟩], none) := by
  simp [settle, oneOrMore]

/-- A thread that has read a character waits for another one, and has a match. Nothing is preferred
to it, so the others are dropped. -/
theorem settle_again (others : List Thread) :
    (oneOrMore set).settle before after offset (Array.replicate 3 false) []
      (⟨1, start, []⟩ :: others) = ([⟨0, start, []⟩], some ⟨start, offset, []⟩) := by
  simp [settle, oneOrMore]

theorem advance_waiting {c : Char} (member : set.mem c = true) :
    (oneOrMore set).advance c ⟨0, start, []⟩ = some ⟨1, start, []⟩ := by
  simp [advance, oneOrMore, member]

end

section

variable {set : CharSet} {text : List Char}

/-- One turn of the loop. While nothing was found a new thread comes behind the one in the loop, to no
effect. -/
theorem run_turn (before : Option Char) (offset start : Nat) (found : Option Hit) (text : List Char) :
    (oneOrMore set).run before offset [⟨1, start, []⟩] found text = match text with
      | [] => some ⟨start, offset, []⟩
      | c :: rest => (oneOrMore set).run (some c) (offset + 1)
          ([⟨0, start, []⟩].filterMap ((oneOrMore set).advance c)) (some ⟨start, offset, []⟩) rest := by
  have size : (oneOrMore set).code.size = 3 := rfl
  rw [run.eq_def]
  cases found <;> cases text <;> simp [size, settle_again]

theorem run_again (all : ∀ c ∈ text, set.mem c = true) (before : Option Char) (offset start : Nat)
    (found : Option Hit) : (oneOrMore set).run before offset [⟨1, start, []⟩] found text =
      some ⟨start, offset + text.length, []⟩ := by
  induction text generalizing before offset found with
  | nil =>
    rw [run_turn]
    rfl
  | cons c rest ih =>
    have read := advance_waiting start (all c List.mem_cons_self)
    rw [run_turn]
    simp only [List.filterMap_cons, List.filterMap_nil, read, List.length_cons]
    rw [ih fun c member => all c (List.mem_cons_of_mem _ member), Nat.add_assoc, Nat.add_comm 1]

theorem search_oneOrMore (place : Place) : (oneOrMore set).search place = match place.rest with
    | [] => none
    | c :: rest => (oneOrMore set).run (some c) (place.offset + 1)
        ([⟨0, place.offset, []⟩].filterMap ((oneOrMore set).advance c)) none rest := by
  have size : (oneOrMore set).code.size = 3 := rfl
  rw [search, run.eq_def]
  cases place.rest <;> simp [size, settle_begin]

/-- A text of characters of the set alone is one match. -/
theorem allMatches_oneOrMore (some_char : text ≠ []) (all : ∀ c ∈ text, set.mem c = true) :
    (oneOrMore set).allMatches text = [⟨0, text.length, []⟩] := by
  have first : (oneOrMore set).search (.start text) = some ⟨0, text.length, []⟩ := by
    obtain ⟨c, rest, rfl⟩ := List.exists_cons_of_ne_nil some_char
    have read := advance_waiting 0 (all c List.mem_cons_self)
    rw [search_oneOrMore]
    simp only [Place.start, List.filterMap_cons, List.filterMap_nil, read, List.length_cons]
    rw [run_again fun c member => all c (List.mem_cons_of_mem _ member), Nat.zero_add, Nat.add_comm]
  have last : (oneOrMore set).searchAfter text text.length = none := by
    rw [searchAfter, search_oneOrMore]
    simp [Place.after]
  rw [allMatches, first]
  dsimp only
  rw [matchesAfter_eq _ (Nat.le_refl _), last]

end

end StoryScript.Pattern.Program

namespace StoryScript

theorem Text.lines_of_notMem {source : String} (some_char : source ≠ "")
    (newline : '\n' ∉ source.toList) (carriage : '\r' ∉ source.toList) :
    lines source = [⟨1, 0, source⟩] := by
  rw [lines, pieces_of_notMem newline (by simpa using some_char), numberPieces,
    body_of_notMem newline, dropFinal_of_notMem carriage, String.ofList_toList]
  rfl

namespace Search

/-- A repetition that is searched for in a text of its characters finds the whole text. -/
theorem find_oneOrMore {source query : String} {options : Options} {set : Unicode.CharSet}
    (compiled : compile query options = .ok (.oneOrMore set)) (nonempty : query ≠ "")
    (some_char : source ≠ "") (all : ∀ c ∈ source.toList, set.mem c = true)
    (newline : set.mem '\n' = false) (carriage : set.mem '\r' = false) :
    (find source query options).found =
      [⟨1, 1, source.length + 1, source, source, []⟩] := by
  have apart {c : Char} (outside : set.mem c = false) : c ∉ source.toList := by
    intro member
    rw [all c member] at outside
    cases outside
  have lines := Text.lines_of_notMem some_char (apart newline) (apart carriage)
  have chars : source.toList ≠ [] := by simpa using some_char
  have hits := Pattern.Program.allMatches_oneOrMore chars all
  have made : matchOf (.oneOrMore set) options.regex ⟨1, 0, source⟩ ⟨0, source.toList.length, []⟩ =
      some ⟨1, 1, source.length + 1, source, source, []⟩ := by
    have groups : (Pattern.Program.oneOrMore set).groups = 0 := rfl
    have positive := List.length_pos_iff.mpr chars
    simp [matchOf, slice, groupsOf, groups, ← String.length_toList, Nat.ne_of_lt positive]
  have onLine : matchesOn (.oneOrMore set) options.regex ⟨1, 0, source⟩ =
      [⟨1, 1, source.length + 1, source, source, []⟩] := by
    rw [matchesOn, hits, List.filterMap_cons, made, List.filterMap_nil]
  simp [find, nonempty, compiled, lines, onLine]

end Search

end StoryScript
