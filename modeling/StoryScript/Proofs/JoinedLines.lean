import StoryScript.Proofs.EditedLines

/-! Lines of texts that are put together: a text behind another that ends with a newline, and lines
joined with newlines. -/
namespace StoryScript.Text

/-- The text is empty or ends with a newline. -/
def Ended (text : List Char) : Prop := ∀ last, text.getLast? = some last → last = '\n'

theorem Ended.of_cons {c : Char} {rest : List Char} (ended : Ended (c :: rest)) : Ended rest := by
  intro last found
  have some_char : rest ≠ [] := by
    rintro rfl
    cases found
  exact ended last (by rw [← List.singleton_append, getLast?_append_right _ some_char, found])

/-- What follows a text that has ended starts with a line of its own. -/
theorem pieces_append {first : List Char} (ended : Ended first) (second : List Char) :
    pieces (first ++ second) = pieces first ++ pieces second := by
  fun_induction pieces first with
  | case1 => rfl
  | case2 rest ih =>
    rw [List.cons_append, pieces, if_pos rfl, ih ended.of_cons, List.cons_append]
  | case3 c rest inner empty _ =>
    have nothing : rest = [] := by simpa [empty] using flatten_pieces rest
    exact absurd (ended c (by simp [nothing])) inner
  | case4 c rest inner piece others split ih =>
    rw [List.cons_append, pieces_cons_of_ne inner, ih ended.of_cons, split]
    rfl

theorem numberPieces_append (number offset : Nat) (first second : List (List Char)) :
    numberPieces number offset (first ++ second) = numberPieces number offset first ++
      numberPieces (number + first.length) (offset + byteLength first.flatten) second := by
  induction first generalizing number offset with
  | nil => simp [numberPieces, byteLength]
  | cons piece rest ih =>
    simp [numberPieces, ih, Nat.add_assoc, Nat.add_comm 1 rest.length]

theorem lines_append {first : String} (ended : Ended first.toList) (second : String) :
    lines (first ++ second) = lines first ++
      numberPieces (1 + (pieces first.toList).length) (byteLength first.toList)
        (pieces second.toList) := by
  simp [lines, pieces_append ended, numberPieces_append]

/-- The text, with a newline at its end unless it is empty or has one. -/
def endLine (text : String) : String :=
  if text.toList.getLast?.all (· == '\n') then text else text ++ "\n"

theorem ended_endLine (text : String) : Ended (endLine text).toList := by
  unfold endLine
  split
  · rename_i ends
    intro last found
    simpa [found] using ends
  · intro last found
    simpa using found.symm

theorem numberPieces_endLine {text : List Char} {last : Char} (found : text.getLast? = some last)
    (open_end : last ≠ '\n') (number offset : Nat) :
    numberPieces number offset (pieces (text ++ ['\n'])) =
      numberPieces number offset (pieces text) := by
  rcases pieces_cases text with ⟨clean, ⟨rfl, -⟩ | ⟨-, single⟩⟩ | ⟨inside, later, clean, rfl, split⟩
  · cases found
  · rw [pieces_append_newline clean [], single]
    simp only [pieces, numberPieces, body_append_newline, body_of_notMem clean]
  · have some_char : later ≠ [] := by
      rintro rfl
      exact open_end (by simpa using found.symm)
    have found_later : later.getLast? = some last := by
      rwa [List.append_cons, getLast?_append_right _ some_char] at found
    rw [List.append_assoc, List.cons_append, pieces_append_newline clean, split, numberPieces,
      numberPieces, numberPieces_endLine found_later open_end]
termination_by text.length

/-- A newline at the end starts no further line. -/
theorem lines_endLine (source : String) : lines (endLine source) = lines source := by
  unfold endLine
  split
  · rfl
  · rename_i open_end
    cases found : source.toList.getLast? with
    | none => simp [found] at open_end
    | some last =>
      rw [lines, String.toList_append]
      exact numberPieces_endLine found (by simpa [found] using open_end) 1 0

/-! ### Joined lines -/

def lineText (line : String) : String := String.ofList (dropFinal '\r' line.toList)

def texts (source : String) : List String := (lines source).map (·.text)

theorem map_text_numberPieces (number offset : Nat) (all : List (List Char)) :
    (numberPieces number offset all).map (·.text) =
      all.map fun piece => String.ofList (body piece) := by
  induction all generalizing number offset with
  | nil => rfl
  | cons piece rest ih => simp [numberPieces, ih]

theorem texts_eq (source : String) :
    texts source = (pieces source.toList).map fun piece => String.ofList (body piece) :=
  map_text_numberPieces 1 0 _

theorem length_lines (source : String) : (lines source).length = (pieces source.toList).length := by
  simpa [texts] using congrArg List.length (texts_eq source)

theorem texts_append {first : String} (ended : Ended first.toList) (second : String) :
    texts (first ++ second) = texts first ++ texts second := by
  rw [texts_eq, texts_eq, texts_eq, String.toList_append, pieces_append ended, List.map_append]

theorem texts_join {parts : List String} (ended : ∀ part ∈ parts, Ended part.toList) :
    texts (String.join parts) = parts.flatMap texts := by
  induction parts with
  | nil => rfl
  | cons part rest ih =>
    obtain ⟨first, others⟩ := List.forall_mem_cons.mp ended
    rw [String.join_cons, texts_append first, ih others, List.flatMap_cons]

theorem texts_cons {line : String} (clean : '\n' ∉ line.toList) (rest : String) :
    texts (line ++ "\n" ++ rest) = lineText line :: texts rest := by
  have chars : (line ++ "\n" ++ rest).toList = line.toList ++ '\n' :: rest.toList := by simp
  rw [texts_eq, chars, pieces_append_newline clean, List.map_cons, body_append_newline, texts_eq,
    lineText]

theorem texts_endLine (source : String) : texts (endLine source) = texts source := by
  rw [texts, lines_endLine, texts]

theorem lineText_of_getLast? {line : String} (kept : line.toList.getLast? ≠ some '\r') :
    lineText line = line := by
  rw [lineText, dropFinal, if_neg kept, String.ofList_toList]

/-- What is put behind a source brings its own lines. -/
theorem exists_lines_endLine_append (source extra : String) : ∃ added,
    lines (endLine source ++ extra) = lines source ++ added ∧
      added.map (·.text) = texts extra := by
  have split := lines_append (ended_endLine source) extra
  rw [lines_endLine] at split
  exact ⟨_, split, (map_text_numberPieces _ _ _).trans (texts_eq extra).symm⟩

/-- Joined lines are the lines of the whole, but for an empty line at the end. -/
theorem filter_texts_intercalate {written : List String}
    (clean : ∀ line ∈ written, '\n' ∉ line.toList) {keep : String → Bool} (drops : keep "" = false) :
    (texts ("\n".intercalate written)).filter keep = (written.map lineText).filter keep := by
  rw [texts_eq, String.toList_intercalate]
  induction written with
  | nil => rfl
  | cons line rest ih =>
    have clean_line := clean line List.mem_cons_self
    cases rest with
    | nil =>
      by_cases empty : line.toList = []
      · simp [empty, pieces, lineText, dropFinal, drops]
      · simp [pieces_of_notMem clean_line empty, body_of_notMem clean_line, lineText]
    | cons next others =>
      have split : ("\n".toList.intercalate ((line :: next :: others).map String.toList)) =
          line.toList ++ '\n' :: "\n".toList.intercalate ((next :: others).map String.toList) := by
        simp [List.intercalate]
      have later := ih fun other member => clean other (List.mem_cons_of_mem _ member)
      generalize next :: others = rest at split later
      rw [split, pieces_append_newline clean_line, List.map_cons, List.map_cons,
        body_append_newline, List.filter_cons, List.filter_cons, later]
      rfl

end StoryScript.Text
