import StoryScript.Proofs.BlockScan
import StoryScript.Proofs.JoinedLines

/-! Comment lines are not seen. A comment that is put in between two lines of a source, or at one of
its ends, moves the lines behind it on by one. All that is read off the source moves with them and
stays as it is otherwise, since no reading looks at the number of a line. -/
namespace StoryScript

/-! ### A line put in -/

namespace Text

/-- The second source is the first with a line put in behind the given number of its lines. At the
end of the source the line may do without a newline. -/
inductive LineAdded (line : String) : String → Nat → String → Prop
  | between {front back : String} (ended : Ended front.toList) :
      LineAdded line (front ++ back) (lines front).length (front ++ line ++ "\n" ++ back)
  | last {source stop : String} (stops : stop = "" ∨ stop = "\n") :
      LineAdded line source (lines source).length (endLine source ++ line ++ stop)

theorem exists_ended_front {text : List Char} {count : Nat} (less : count < (pieces text).length) :
    ∃ front back, text = front ++ back ∧ Ended front ∧ (pieces front).length = count := by
  induction count generalizing text with
  | zero => exact ⟨[], text, rfl, by simp [Ended], rfl⟩
  | succ count ih =>
    rcases pieces_cases text with ⟨-, ⟨-, split⟩ | ⟨-, split⟩⟩ | ⟨inside, later, clean, rfl, split⟩
    · simp [split] at less
    · simp [split] at less
    · rw [split, List.length_cons] at less
      obtain ⟨front, back, rfl, ended, length⟩ := ih (Nat.lt_of_succ_lt_succ less)
      refine ⟨inside ++ '\n' :: front, back, by simp, ?_, ?_⟩
      · intro last found
        cases front with
        | nil => simpa using found.symm
        | cons c front => exact ended last (by simpa using found)
      · rw [pieces_append_newline clean, List.length_cons, length]

theorem exists_lineAdded (line : String) {source : String} {kept : Nat}
    (le : kept ≤ (lines source).length) : ∃ longer, LineAdded line source kept longer := by
  rcases Nat.lt_or_eq_of_le le with less | rfl
  · rw [length_lines] at less
    obtain ⟨front, back, split, ended, rfl⟩ := exists_ended_front less
    have source_eq : source = String.ofList front ++ String.ofList back := by
      rw [← String.ofList_append, ← split, String.ofList_toList]
    have length := length_lines (String.ofList front)
    rw [String.toList_ofList] at length
    rw [source_eq, ← length]
    exact ⟨_, .between (by rwa [String.toList_ofList])⟩
  · exact ⟨_, .last (.inl rfl)⟩

/-- The number of a line when another is put in behind the first ones. -/
def movedNumber (kept number : Nat) : Nat := if number ≤ kept then number else number + 1

def movedLine (kept bytes : Nat) (line : Line) : Line :=
  ⟨movedNumber kept line.number,
    if line.number ≤ kept then line.offset else line.offset + bytes, line.text⟩

theorem map_movedLine_lines (bytes : Nat) (source : String) :
    (lines source).map (movedLine (lines source).length bytes) = lines source := by
  refine (List.map_congr_left fun line member => ?_).trans (List.map_id _)
  simp [movedLine, movedNumber, (number_of_mem member).2]

theorem map_movedLine_numberPieces {kept number : Nat} (behind : kept < number)
    (bytes offset : Nat) (all : List (List Char)) :
    (numberPieces number offset all).map (movedLine kept bytes) =
      numberPieces (number + 1) (offset + bytes) all := by
  induction all generalizing number offset with
  | nil => rfl
  | cons piece rest ih =>
    have later := ih (Nat.lt_succ_of_lt behind) (offset + byteLength piece)
    rw [numberPieces, List.map_cons, later, numberPieces]
    simp [movedLine, movedNumber, Nat.not_le_of_lt behind, Nat.add_right_comm]

theorem exists_lines_between {front line : String} (ended : Ended front.toList)
    (clean : '\n' ∉ line.toList) (back : String) : ∃ bytes second new,
      lines (front ++ back) = lines front ++ second ∧ new.text = lineText line ∧
        lines (front ++ line ++ "\n" ++ back) =
          lines front ++ new :: second.map (movedLine (lines front).length bytes) := by
  have chars : (line ++ "\n" ++ back).toList = line.toList ++ '\n' :: back.toList := by simp
  have whole := lines_append ended (line ++ "\n" ++ back)
  rw [chars, pieces_append_newline clean, numberPieces, body_append_newline, ← length_lines,
    ← map_movedLine_numberPieces (Nat.lt_add_of_pos_left Nat.one_pos)] at whole
  have assoc : front ++ line ++ "\n" ++ back = front ++ (line ++ "\n" ++ back) := by
    simp only [String.append_assoc]
  rw [← assoc] at whole
  exact ⟨_, _, _, by rw [lines_append ended, ← length_lines], rfl, whole⟩

theorem endLine_append {line : String} (clean : '\n' ∉ line.toList) (some_char : line.toList ≠ [])
    (front : String) : endLine (front ++ line) = front ++ line ++ "\n" := by
  have last : (front ++ line).toList.getLast? = some (line.toList.getLast some_char) := by
    rw [String.toList_append, getLast?_append_right _ some_char, List.getLast?_eq_some_getLast]
  have inner : line.toList.getLast some_char ≠ '\n' :=
    fun newline => clean (newline ▸ List.getLast_mem some_char)
  rw [endLine, last, if_neg (by simpa using inner)]

/-- The lines of the longer source are the new one and the lines of the other, moved. -/
theorem LineAdded.exists_lines {line source longer : String} {kept : Nat}
    (added : LineAdded line source kept longer) (clean : '\n' ∉ line.toList)
    (some_char : line.toList ≠ []) : ∃ bytes first second new, lines source = first ++ second ∧
      new.text = lineText line ∧ lines longer =
        first.map (movedLine kept bytes) ++ new :: second.map (movedLine kept bytes) := by
  cases added with
  | @between front back ended =>
    obtain ⟨bytes, second, new, whole, text, longer⟩ := exists_lines_between ended clean back
    exact ⟨bytes, lines front, second, new, whole, text, by rw [map_movedLine_lines, longer]⟩
  | @last _ stop stops =>
    -- A newline that is missing at an end makes no difference to the lines.
    obtain ⟨bytes, second, new, whole, text, longer⟩ :=
      exists_lines_between (ended_endLine source) clean ""
    rw [String.append_empty, lines_endLine] at whole longer
    have same : lines (endLine source ++ line ++ stop) = lines (endLine source ++ line ++ "\n") := by
      rcases stops with rfl | rfl
      · rw [String.append_empty, ← endLine_append clean some_char, lines_endLine]
      · rfl
    refine ⟨bytes, lines source, second, new, whole, text, ?_⟩
    rw [map_movedLine_lines, same, longer]

end Text

namespace Script

open Text (movedNumber movedLine lineText LineAdded)

/-! ### Other line numbers -/

def Site.renumber (f : Nat → Nat) (site : Site) : Site := { site with line := f site.line }

theorem Site.renumber_ofMark (f : Nat → Nat) (line : Nat) (mark : Mark) :
    (ofMark line mark).renumber f = ofMark (f line) mark := rfl

def Opening.renumber (f : Nat → Nat) (opening : Opening) : Opening :=
  { opening with line := f opening.line }

def Block.renumber (f : Nat → Nat) (block : Block) : Block := { block with line := f block.line }

def Brace.renumber (f : Nat → Nat) : Brace → Brace
  | .opening block => .opening (block.renumber f)
  | .closing line => .closing (f line)

def Nesting.renumber (f : Nat → Nat) (nesting : Nesting) : Nesting :=
  { nesting with
    stack := nesting.stack.map (.renumber f)
    openings := nesting.openings.map (.renumber f)
    unmatched := nesting.unmatched.map f }

section

variable (f : Nat → Nat)

@[simp] theorem Nesting.stack_renumber (nesting : Nesting) :
    (nesting.renumber f).stack = nesting.stack.map (.renumber f) := rfl

@[simp] theorem Nesting.maxDepth_renumber (nesting : Nesting) :
    (nesting.renumber f).maxDepth = nesting.maxDepth := rfl

@[simp] theorem Nesting.openings_renumber (nesting : Nesting) :
    (nesting.renumber f).openings = nesting.openings.map (.renumber f) := rfl

@[simp] theorem Nesting.unmatched_renumber (nesting : Nesting) :
    (nesting.renumber f).unmatched = nesting.unmatched.map f := rfl

theorem Nesting.step_renumber (nesting : Nesting) (brace : Brace) :
    (nesting.renumber f).step (brace.renumber f) = (nesting.step brace).renumber f := by
  cases brace with
  | opening block =>
    by_cases conditional : block.kind = .conditional
    · simp [step, renumber, Brace.renumber, Block.renumber, Opening.renumber, conditional]
    · simp [step, renumber, Brace.renumber, Block.renumber, conditional]
  | closing line =>
    cases stack : nesting.stack with
    | nil =>
      have empty : (nesting.renumber f).stack = [] := by simp [stack]
      rw [Brace.renumber, step_closing_nil stack, step_closing_nil empty]
      simp [renumber]
    | cons block outer =>
      have top : (nesting.renumber f).stack = block.renumber f :: outer.map (.renumber f) := by
        simp [stack]
      rw [Brace.renumber, step_closing_cons stack, step_closing_cons top]
      by_cases conditional : block.kind = .conditional
      · simp [renumber, Block.renumber, conditional]
      · simp [renumber, Block.renumber, conditional]

/-- A scan does not look at the numbers of the lines. -/
theorem Nesting.ofBraces_map_renumber (word : List Brace) :
    ofBraces (word.map (.renumber f)) = (ofBraces word).renumber f := by
  induction word using List.reverseRecOn with
  | nil => rfl
  | append_singleton word brace ih =>
    rw [List.map_append, List.map_singleton, ofBraces_snoc, ih, step_renumber, ofBraces_snoc]

theorem bracesFrom_renumber (line : Nat) (kind : BlockKind) (text : List Char) :
    bracesFrom (f line) kind text = (bracesFrom line kind text).map (.renumber f) := by
  fun_induction bracesFrom line kind text with
  | case1 => rfl
  | case2 kind rest ih => simp [bracesFrom, ih, Brace.renumber, Block.renumber]
  | case3 kind rest _ ih => simp [bracesFrom, ih, Brace.renumber]
  | case4 kind c rest notOpening notClosing ih => simp [bracesFrom, ih, notOpening, notClosing]

end

theorem sitesOf_map_movedLine (marks : String → List Mark) (kept bytes : Nat) (lines : List Line) :
    sitesOf marks (lines.map (movedLine kept bytes)) =
      (sitesOf marks lines).map (.renumber (movedNumber kept)) := by
  simp [sitesOf, movedLine, List.flatMap_map, List.map_flatMap, Site.renumber_ofMark,
    Function.comp_def]

theorem flatMap_bracesOn_map_movedLine (kept bytes : Nat) (lines : List Line) :
    (lines.map (movedLine kept bytes)).flatMap bracesOn =
      (lines.flatMap bracesOn).map (.renumber (movedNumber kept)) := by
  simp [bracesOn, movedLine, List.flatMap_map, List.map_flatMap, bracesFrom_renumber]

/-! ### Comments put in -/

/-- White space, the sign of a comment and any text, all on one line. -/
def IsCommentLine (line : String) : Prop :=
  '\n' ∉ line.toList ∧ ∃ white sign text, Blank white ∧ (sign = ['/', '/'] ∨ sign = ['#']) ∧
    line.toList = white ++ (sign ++ text)

namespace IsCommentLine

variable {line : String} (comment : IsCommentLine line)
include comment

theorem toList_ne_nil : line.toList ≠ [] := by
  obtain ⟨-, white, sign, text, -, rfl | rfl, chars⟩ := comment
  · simp [chars]
  · simp [chars]

/-- The line is still a comment without a carriage return at its end. -/
theorem isComment_lineText : isComment (lineText line) = true := by
  obtain ⟨-, white, sign, text, blank, isSign, chars⟩ := comment
  have some_char : sign ++ text ≠ [] := by rcases isSign with rfl | rfl <;> simp
  -- The sign does not end with a carriage return, so only the text behind it may lose one.
  have kept : ∃ rest, Text.dropFinal '\r' (sign ++ text) = sign ++ rest := by
    cases text with
    | nil => rcases isSign with rfl | rfl <;> exact ⟨[], by simp [Text.dropFinal]⟩
    | cons c text => exact ⟨_, Text.dropFinal_append _ _ (List.cons_ne_nil c text)⟩
  obtain ⟨rest, kept⟩ := kept
  rw [isComment, lineText, String.toList_ofList, chars, Text.dropFinal_append _ _ some_char, kept,
    isCommentChars, skipWhite_append blank]
  rcases isSign with rfl | rfl
  · rw [List.cons_append, skipWhite_cons (by decide)]
    rfl
  · rw [List.cons_append, skipWhite_cons (by decide)]
    rfl

end IsCommentLine

/-- What is read off the second source is what is read off the first, with the lines behind the first
ones moved on by one. The second source has one line more, which is a comment. -/
structure ReadsMoved (kept : Nat) (source longer : String) : Prop where
  definitions : (Scenes.ofSource longer).definitions =
    (Scenes.ofSource source).definitions.map (.renumber (movedNumber kept))
  references : (Scenes.ofSource longer).references =
    (Scenes.ofSource source).references.map (.renumber (movedNumber kept))
  assignments : (Variables.ofSource longer).assignments =
    (Variables.ofSource source).assignments.map (.renumber (movedNumber kept))
  interpolations : (Variables.ofSource longer).interpolations =
    (Variables.ofSource source).interpolations.map (.renumber (movedNumber kept))
  choices : (Structure.ofSource longer).choices = (Structure.ofSource source).choices
  conditionals : (Structure.ofSource longer).conditionals = (Structure.ofSource source).conditionals
  maxDepth : (Structure.ofSource longer).maxDepth = (Structure.ofSource source).maxDepth
  openings : (Structure.ofSource longer).openings =
    (Structure.ofSource source).openings.map (.renumber (movedNumber kept))
  unmatched : (Structure.ofSource longer).unmatched =
    (Structure.ofSource source).unmatched.map (movedNumber kept)
  unclosed : (Structure.ofSource longer).unclosed =
    (Structure.ofSource source).unclosed.map (.renumber (movedNumber kept))
  totalLines : (Structure.ofSource longer).metrics.totalLines =
    (Structure.ofSource source).metrics.totalLines + 1
  commentLines : (Structure.ofSource longer).metrics.commentLines =
    (Structure.ofSource source).metrics.commentLines + 1
  codeLines : (Structure.ofSource longer).metrics.codeLines =
    (Structure.ofSource source).metrics.codeLines

section

variable {line source longer : String} {kept : Nat} (comment : IsCommentLine line)
  (added : LineAdded line source kept longer)
include comment added

theorem exists_uncommented_eq :
    ∃ bytes, uncommented longer = (uncommented source).map (movedLine kept bytes) := by
  obtain ⟨bytes, first, second, new, whole, text, longer⟩ :=
    added.exists_lines comment.1 comment.toList_ne_nil
  have hidden : (!isComment new.text) = false := by rw [text, comment.isComment_lineText]; rfl
  refine ⟨bytes, ?_⟩
  rw [uncommented, uncommented, longer, whole, List.filter_append, List.filter_cons, hidden,
    List.filter_append, List.map_append, List.filter_map, List.filter_map]
  rfl

theorem exists_codeOf_eq :
    ∃ bytes, codeOf longer = (codeOf source).map (movedLine kept bytes) := by
  obtain ⟨bytes, same⟩ := exists_uncommented_eq comment added
  exact ⟨bytes, by rw [codeOf, same, List.filter_map]; rfl⟩

theorem sitesOf_added (marks : String → List Mark) : sitesOf marks (uncommented longer) =
    (sitesOf marks (uncommented source)).map (.renumber (movedNumber kept)) := by
  obtain ⟨bytes, same⟩ := exists_uncommented_eq comment added
  rw [same, sitesOf_map_movedLine]

theorem countP_codeOf_added (holds : String → Bool) :
    (codeOf longer).countP (fun line => holds line.text) =
      (codeOf source).countP (fun line => holds line.text) := by
  obtain ⟨bytes, same⟩ := exists_codeOf_eq comment added
  rw [same, List.countP_map]
  rfl

theorem ofBraces_added : Nesting.ofBraces (bracesOf longer) =
    (Nesting.ofBraces (bracesOf source)).renumber (movedNumber kept) := by
  obtain ⟨bytes, same⟩ := exists_codeOf_eq comment added
  rw [bracesOf, same, flatMap_bracesOn_map_movedLine, Nesting.ofBraces_map_renumber, bracesOf]

theorem countP_lines_added : (Text.lines longer).length = (Text.lines source).length + 1 ∧
    (Text.lines longer).countP (fun line => isComment line.text) =
      (Text.lines source).countP (fun line => isComment line.text) + 1 := by
  obtain ⟨bytes, first, second, new, whole, text, longer⟩ :=
    added.exists_lines comment.1 comment.toList_ne_nil
  have found : isComment new.text = true := by rw [text, comment.isComment_lineText]
  have moved : (fun line : Line => isComment line.text) ∘ movedLine kept bytes =
      fun line => isComment line.text := rfl
  rw [longer, whole]
  constructor
  · simp [Nat.add_assoc]
  · simp [List.countP_map, moved, found, Nat.add_assoc]

end

/-- A comment line can be put in at every place of a source, and at none of them is it seen. -/
theorem comment_not_seen (line : String) (comment : IsCommentLine line) (source : String) :
    (∀ kept ≤ (Text.lines source).length, ∃ longer, LineAdded line source kept longer) ∧
      ∀ kept longer, LineAdded line source kept longer → ReadsMoved kept source longer := by
  refine ⟨fun kept le => Text.exists_lineAdded line le, fun kept longer added => ?_⟩
  have sites := sitesOf_added comment added
  have counts := countP_codeOf_added comment added
  have nesting := ofBraces_added comment added
  obtain ⟨total, comments⟩ := countP_lines_added comment added
  constructor
  case definitions => simp only [Scenes.definitions_ofSource, sites]
  case references => simp only [Scenes.references_ofSource, sites]
  case assignments => simp only [Variables.assignments_ofSource, sites]
  case interpolations => simp only [Variables.interpolations_ofSource, sites]
  case choices => simp only [Structure.ofSource, counts]
  case conditionals => simp only [Structure.ofSource, counts]
  case maxDepth => simp only [Structure.maxDepth_ofSource, nesting, Nesting.maxDepth_renumber]
  case openings => simp only [Structure.openings_ofSource, nesting, Nesting.openings_renumber]
  case unmatched => simp only [Structure.unmatched_ofSource, nesting, Nesting.unmatched_renumber]
  case unclosed =>
    simp only [Structure.unclosed_ofSource, nesting, Nesting.stack_renumber, List.map_reverse]
  case totalLines => simp only [Structure.ofSource, Metrics.ofSource, total]
  case commentLines => simp only [Structure.ofSource, Metrics.ofSource, comments]
  case codeLines =>
    have same := counts fun _ => true
    simp only [List.countP_true] at same
    simp only [Structure.ofSource, Metrics.ofSource, same]

/-- A comment with a brace, a quote and an arrow, in a block that is closed twice and at the end of
which the source has no newline. -/
theorem comment_not_seen_in_block :
    IsCommentLine "\t# \x7d \" -> b\r" ∧
    LineAdded "\t# \x7d \" -> b\r" ("if a \x7b\n" ++ "\x7d\n\x7d") 1
      ("if a \x7b\n" ++ "\t# \x7d \" -> b\r" ++ "\n" ++ "\x7d\n\x7d") ∧
    ReadsMoved 1 ("if a \x7b\n" ++ "\x7d\n\x7d")
      ("if a \x7b\n" ++ "\t# \x7d \" -> b\r" ++ "\n" ++ "\x7d\n\x7d") := by
  have comment : IsCommentLine "\t# \x7d \" -> b\r" := by
    refine ⟨by decide, ['\t'], ['#'], " \x7d \" -> b\r".toList, ?_, .inr rfl, by decide⟩
    exact List.forall_mem_singleton.mpr (by decide)
  have ended : Text.Ended "if a \x7b\n".toList := by
    intro last found
    have newline : "if a \x7b\n".toList.getLast? = some '\n' := by decide
    exact Option.some.inj (found.symm.trans newline)
  have one : (Text.lines "if a \x7b\n").length = 1 := by decide +kernel
  have added := @LineAdded.between "\t# \x7d \" -> b\r" "if a \x7b\n" "\x7d\n\x7d" ended
  rw [one] at added
  exact ⟨comment, added, (comment_not_seen _ comment _).2 _ _ added⟩

end Script

end StoryScript
