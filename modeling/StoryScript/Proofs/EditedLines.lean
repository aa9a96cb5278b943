import StoryScript.Proofs.Positions

/-! Lines of a text that was edited further on. Where two texts begin alike, a line and a column name
the same position in both. The column is still there in the other text, with one exception: a
carriage return before it that has come to end its line belongs to the line's text no longer. -/
namespace StoryScript.Text

/-! ### Splitting what is put together -/

theorem pieces_cons_of_ne {c : Char} (inner : c ≠ '\n') (rest : List Char) :
    pieces (c :: rest) = (c :: (pieces rest).headD []) :: (pieces rest).tail := by
  rw [pieces, if_neg inner]
  cases pieces rest <;> rfl

theorem pieces_append_of_notMem {inside : List Char} (clean : '\n' ∉ inside) (some_char : inside ≠ [])
    (rest : List Char) :
    pieces (inside ++ rest) = (inside ++ (pieces rest).headD []) :: (pieces rest).tail := by
  induction inside with
  | nil => exact absurd rfl some_char
  | cons c more ih =>
    have inner : c ≠ '\n' := fun newline => clean (by simp [newline])
    rw [List.cons_append, pieces_cons_of_ne inner]
    by_cases last : more = []
    · simp [last]
    · rw [ih (fun member => clean (List.mem_cons_of_mem _ member)) last]
      rfl

/-- Lines before another line end with a newline, so they are split alike whatever follows. -/
theorem pieces_take_append {text : List Char} {count : Nat} (inside : count < (pieces text).length)
    (rest : List Char) :
    pieces (((pieces text).take count).flatten ++ rest) =
      (pieces text).take count ++ pieces rest := by
  fun_induction pieces text generalizing count with
  | case1 => simp at inside
  | case2 later ih =>
    cases count with
    | zero => simp
    | succ count =>
      simp only [List.length_cons, Nat.add_lt_add_iff_right] at inside
      simp [pieces, ih inside]
  | case3 c later _ _ _ =>
    obtain rfl : count = 0 := by simpa using inside
    simp
  | case4 c later inner piece others split ih =>
    cases count with
    | zero => simp
    | succ count =>
      rw [split] at ih
      have split_more := ih inside
      simp only [List.take_succ_cons, List.flatten_cons, List.cons_append, List.append_assoc]
        at split_more ⊢
      rw [pieces_cons_of_ne inner, split_more]
      rfl

theorem pieces_append_newline {inside : List Char} (clean : '\n' ∉ inside) (later : List Char) :
    pieces (inside ++ '\n' :: later) = (inside ++ ['\n']) :: pieces later := by
  by_cases empty : inside = []
  · simp [empty, pieces]
  · rw [pieces_append_of_notMem clean empty]
    simp [pieces]

theorem pieces_of_notMem {text : List Char} (clean : '\n' ∉ text) (some_char : text ≠ []) :
    pieces text = [text] := by
  have whole := pieces_append_of_notMem clean some_char []
  rw [List.append_nil] at whole
  simpa [pieces] using whole

theorem pieces_cases (text : List Char) :
    ('\n' ∉ text ∧ (text = [] ∧ pieces text = [] ∨ text ≠ [] ∧ pieces text = [text])) ∨
    ∃ inside later, '\n' ∉ inside ∧ text = inside ++ '\n' :: later ∧
      pieces text = (inside ++ ['\n']) :: pieces later := by
  by_cases newline : '\n' ∈ text
  · obtain ⟨inside, later, rfl, clean⟩ := List.eq_append_cons_of_mem newline
    exact .inr ⟨inside, later, clean, rfl, pieces_append_newline clean later⟩
  · refine .inl ⟨newline, ?_⟩
    by_cases empty : text = []
    · exact .inl ⟨empty, by rw [empty, pieces]⟩
    · exact .inr ⟨empty, pieces_of_notMem newline empty⟩

/-! ### Ends of lines -/

theorem getLast?_append_right (first : List Char) {last : List Char} (some_char : last ≠ []) :
    (first ++ last).getLast? = last.getLast? := by
  rw [List.getLast?_append, List.getLast?_eq_some_getLast some_char, Option.some_or]

theorem getLast?_take_of_le {text : List Char} {count : Nat} (positive : 0 < count)
    (inside : count ≤ text.length) : (text.take count).getLast? = text[count - 1]? := by
  rw [List.getLast?_eq_getElem?, List.length_take, Nat.min_eq_left inside, List.getElem?_take,
    if_pos (by omega)]

theorem dropFinal_append (final : Char) (first : List Char) {last : List Char} (some_char : last ≠ []) :
    dropFinal final (first ++ last) = first ++ dropFinal final last := by
  unfold dropFinal
  rw [getLast?_append_right _ some_char, List.dropLast_append_of_ne_nil some_char]
  split <;> rfl

theorem dropFinal_of_notMem {final : Char} {text : List Char} (absent : final ∉ text) :
    dropFinal final text = text := by
  unfold dropFinal
  rw [if_neg fun last => absent (List.mem_of_getLast? last)]

theorem length_le_dropFinal_iff (final : Char) (text : List Char) :
    text.length ≤ (dropFinal final text).length ↔ text.getLast? ≠ some final := by
  unfold dropFinal
  split
  · rename_i last
    have some_char : text ≠ [] := by
      rintro rfl
      cases last
    have := List.length_pos_iff.mpr some_char
    rw [List.length_dropLast]
    simp only [last, ne_eq, not_true_eq_false, iff_false]
    omega
  · rename_i other
    exact ⟨fun _ => other, fun _ => Nat.le_refl _⟩

theorem dropFinal_cases (final : Char) (text : List Char) :
    text = dropFinal final text ++ [final] ∨
      dropFinal final text = text ∧ text.getLast? ≠ some final := by
  unfold dropFinal
  split
  · rename_i last
    obtain ⟨front, rfl⟩ := List.getLast?_eq_some_iff.mp last
    exact .inl (by rw [List.dropLast_concat])
  · rename_i other
    exact .inr ⟨rfl, other⟩

theorem body_append_newline {inside : List Char} :
    body (inside ++ ['\n']) = dropFinal '\r' inside := by
  rw [body, dropFinal_append _ _ (by simp)]
  simp [dropFinal]

theorem body_of_notMem {inside : List Char} (clean : '\n' ∉ inside) :
    body inside = dropFinal '\r' inside := by
  rw [body, dropFinal_of_notMem clean]

theorem newline_notMem_dropFinal {text piece : List Char} (member : piece ∈ pieces text) :
    '\n' ∉ dropFinal '\n' piece := by
  fun_induction pieces text generalizing piece with
  | case1 => cases member
  | case2 rest ih =>
    rcases List.mem_cons.mp member with rfl | later
    · decide
    · exact ih later
  | case3 c rest inner _ _ =>
    obtain rfl := List.mem_singleton.mp member
    rw [dropFinal_of_notMem (by simpa [eq_comm] using inner)]
    simpa [eq_comm] using inner
  | case4 c rest inner first others split ih =>
    rw [split] at ih
    rcases List.mem_cons.mp member with rfl | later
    · by_cases empty : first = []
      · subst empty
        rw [dropFinal_of_notMem (by simpa [eq_comm] using inner)]
        simpa [eq_comm] using inner
      · have kept := dropFinal_append '\n' [c] empty
        rw [List.singleton_append] at kept
        rw [kept]
        simpa [eq_comm, inner] using ih List.mem_cons_self
    · exact ih (List.mem_cons_of_mem _ later)

theorem newline_notMem_body {text piece : List Char} (member : piece ∈ pieces text) :
    '\n' ∉ body piece := by
  intro newline
  exact newline_notMem_dropFinal member ((dropFinal_isPrefix _ _).mem newline)

/-- At the place the text ends, or a line of it. -/
def LineEndsAt (text : List Char) (place : Nat) : Prop :=
  text[place]? = none ∨ text[place]? = some '\n'

/-- Characters at the start of a line are all part of its text, but for a carriage return with which
the line ends. -/
theorem length_le_body_iff {inside : List Char} (clean : '\n' ∉ inside) (rest : List Char) :
    inside.length ≤ (body (inside ++ (pieces rest).headD [])).length ↔
      ¬ (inside.getLast? = some '\r' ∧ LineEndsAt rest 0) := by
  have ending : inside.length ≤ (dropFinal '\r' (dropFinal '\n' inside)).length ↔
      inside.getLast? ≠ some '\r' := by
    rw [dropFinal_of_notMem clean, length_le_dropFinal_iff]
  cases rest with
  | nil => simpa [pieces, body, LineEndsAt] using ending
  | cons c more =>
    by_cases newline : c = '\n'
    · subst newline
      have cut : dropFinal '\n' (inside ++ ['\n']) = inside := by
        rw [dropFinal_append _ _ (by simp)]
        simp [dropFinal]
      rw [dropFinal_of_notMem clean] at ending
      simpa [pieces, body, LineEndsAt, cut] using ending
    · -- The character after the stretch stays on its line, so nothing is taken from the stretch.
      have goes_on : ¬ LineEndsAt (c :: more) 0 := by simp [LineEndsAt, newline]
      have kept : dropFinal '\n' (c :: (pieces more).headD []) ≠ [] := by
        unfold dropFinal
        split
        · rename_i last
          cases rest : (pieces more).headD [] with
          | nil =>
            rw [rest] at last
            exact absurd (Option.some.inj last) newline
          | cons _ _ => simp
        · simp
      rw [pieces_cons_of_ne newline, List.headD_cons, body, dropFinal_append _ _ (by simp),
        dropFinal_append _ _ kept]
      simp [goes_on]

/-! ### Texts that begin alike -/

section

variable {source text : String} {line column : Nat}

/-- A text that begins like another up to a column has the lines before it in common, and the line
of the column begins alike. -/
theorem pieces_of_take_eq (has : HasColumn source line column) (past : 1 < column)
    (same : text.toList.take (position source line column) =
      source.toList.take (position source line column)) :
    ∃ inside others, '\n' ∉ inside ∧ inside.length = column - 1 ∧
      inside.getLast? = source.toList[position source line column - 1]? ∧
      ((pieces source.toList).take (line - 1)).length = line - 1 ∧
      pieces text.toList = (pieces source.toList).take (line - 1) ++
        (inside ++ (pieces (text.toList.drop (position source line column))).headD []) :: others := by
  obtain ⟨found, lineFound, columnInside⟩ := has.inside
  obtain ⟨_, piece, atPiece, rfl⟩ := (line?_eq_some_iff ..).mp lineFound
  rw [String.length_ofList] at columnInside
  obtain ⟨lineInside, piece_eq⟩ := List.getElem?_eq_some_iff.mp atPiece
  have begins := take_position atPiece columnInside
  have clean : '\n' ∉ (body piece).take (column - 1) := fun newline =>
    newline_notMem_body (piece_eq ▸ List.getElem_mem lineInside) (List.mem_of_mem_take newline)
  have size : ((body piece).take (column - 1)).length = column - 1 := by
    rw [List.length_take]
    omega
  have some_char : (body piece).take (column - 1) ≠ [] := by
    rw [← List.length_pos_iff, size]
    omega
  refine ⟨(body piece).take (column - 1),
    (pieces (text.toList.drop (position source line column))).tail, clean, size, ?_, ?_, ?_⟩
  · rw [getElem?_position_sub_one atPiece past columnInside]
    exact getLast?_take_of_le (by omega) (by omega)
  · rw [List.length_take]
    omega
  · calc pieces text.toList
        = pieces (text.toList.take (position source line column) ++
            text.toList.drop (position source line column)) := by rw [List.take_append_drop]
      _ = (pieces source.toList).take (line - 1) ++
            pieces ((body piece).take (column - 1) ++
              text.toList.drop (position source line column)) := by
          rw [same, begins, List.append_assoc, pieces_take_append lineInside]
      _ = _ := by rw [pieces_append_of_notMem clean some_char]

theorem position_of_take_eq (has : HasColumn source line column) (past : 1 < column)
    (same : text.toList.take (position source line column) =
      source.toList.take (position source line column)) (other : Nat) :
    position text line other = position source line other := by
  obtain ⟨_, _, _, _, _, size, split⟩ := pieces_of_take_eq has past same
  rw [position, position, split, List.take_left' size]

/-- A text that begins like another up to a column has this column too, unless a carriage return
before it now ends the line. -/
theorem hasColumn_iff_of_take_eq (has : HasColumn source line column) (past : 1 < column)
    (same : text.toList.take (position source line column) =
      source.toList.take (position source line column)) :
    HasColumn text line column ↔
      ¬ (source.toList[position source line column - 1]? = some '\r' ∧
        LineEndsAt text.toList (position source line column)) := by
  obtain ⟨inside, others, clean, length, last, size, split⟩ := pieces_of_take_eq has past same
  obtain ⟨_, lineFound, _⟩ := has.inside
  have positive := ((line?_eq_some_iff ..).mp lineFound).1
  have atLine : (pieces text.toList)[line - 1]? =
      some (inside ++ (pieces (text.toList.drop (position source line column))).headD []) := by
    rw [split, List.getElem?_append_right (Nat.le_of_eq size), size, Nat.sub_self]
    rfl
  have ends : LineEndsAt (text.toList.drop (position source line column)) 0 ↔
      LineEndsAt text.toList (position source line column) := by
    simp only [LineEndsAt, List.getElem?_drop, Nat.add_zero]
  rw [← last, ← ends, ← length_le_body_iff clean]
  constructor
  · rintro ⟨_, found, foundLine, columnInside⟩
    obtain ⟨_, piece, atPiece, rfl⟩ := (line?_eq_some_iff ..).mp foundLine
    obtain rfl := Option.some.inj (atPiece.symm.trans atLine)
    rw [String.length_ofList] at columnInside
    omega
  · intro fits
    refine ⟨Nat.le_of_lt past, _, (line?_eq_some_iff ..).mpr ⟨positive, _, atLine, rfl⟩, ?_⟩
    rw [String.length_ofList]
    omega

end

end StoryScript.Text
