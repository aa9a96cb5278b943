import StoryScript.Text.Line

/-! Positions in a text. A position is a number of characters. A line and a column name one, and the
byte offsets that edits are resolved to are the sizes of what stands before positions. -/
namespace StoryScript.Text

/-! ### Bytes before a position -/

theorem byteLength_take_add (text : List Char) (i j : Nat) :
    byteLength (text.take (i + j)) = byteLength (text.take i) + byteLength ((text.drop i).take j) := by
  rw [List.take_add, byteLength_append]

/-- Every character takes at least one byte, so offsets tell positions apart. -/
theorem byteLength_take_lt (text : List Char) {i j : Nat} (less : i < j) (inside : j ≤ text.length) :
    byteLength (text.take i) < byteLength (text.take j) := by
  obtain ⟨k, rfl⟩ := Nat.exists_eq_add_of_lt less
  rw [Nat.add_assoc, byteLength_take_add]
  cases rest : text.drop i with
  | nil =>
    have := List.drop_eq_nil_iff.mp rest
    omega
  | cons c later =>
    have := c.utf8Size_pos
    simp only [List.take_succ_cons, byteLength]
    omega

theorem byteLength_take_le (text : List Char) {i j : Nat} (le : i ≤ j) :
    byteLength (text.take i) ≤ byteLength (text.take j) := by
  obtain ⟨k, rfl⟩ := Nat.exists_eq_add_of_le le
  rw [byteLength_take_add]
  omega

theorem takeBytes_append (a b : List Char) : takeBytes (a ++ b) (byteLength a) = a := by
  induction a with
  | nil => cases b <;> simp [byteLength, takeBytes]
  | cons c rest ih =>
    have positive := c.utf8Size_pos
    obtain ⟨n, size⟩ : ∃ n, c.utf8Size + byteLength rest = n + 1 := ⟨_, (Nat.succ_pred (by omega)).symm⟩
    simp only [List.cons_append, byteLength, size, takeBytes]
    rw [← size, Nat.add_sub_cancel_left, ih]

theorem dropBytes_append (a b : List Char) : dropBytes (a ++ b) (byteLength a) = b := by
  induction a with
  | nil => cases b <;> simp [byteLength, dropBytes]
  | cons c rest ih =>
    have positive := c.utf8Size_pos
    obtain ⟨n, size⟩ : ∃ n, c.utf8Size + byteLength rest = n + 1 := ⟨_, (Nat.succ_pred (by omega)).symm⟩
    simp only [List.cons_append, byteLength, size, dropBytes]
    rw [← size, Nat.add_sub_cancel_left, ih]

theorem charsBefore_append (a b : List Char) : charsBefore (a ++ b) (byteLength a) = a.length := by
  induction a with
  | nil => cases b <;> simp [byteLength, charsBefore]
  | cons c rest ih =>
    have positive := c.utf8Size_pos
    obtain ⟨n, size⟩ : ∃ n, c.utf8Size + byteLength rest = n + 1 := ⟨_, (Nat.succ_pred (by omega)).symm⟩
    simp only [List.cons_append, byteLength, size, charsBefore]
    rw [← size, Nat.add_sub_cancel_left, ih, List.length_cons]

@[simp] theorem takeBytes_take (text : List Char) (n : Nat) :
    takeBytes text (byteLength (text.take n)) = text.take n := by
  simpa using takeBytes_append (text.take n) (text.drop n)

@[simp] theorem dropBytes_take (text : List Char) (n : Nat) :
    dropBytes text (byteLength (text.take n)) = text.drop n := by
  simpa using dropBytes_append (text.take n) (text.drop n)

/-- Counting the characters before an offset cuts a text where counting bytes does. -/
theorem take_charsBefore (text : List Char) (bytes : Nat) :
    text.take (charsBefore text bytes) = takeBytes text bytes := by
  fun_induction charsBefore text bytes with
  | case1 => simp [takeBytes]
  | case2 text => cases text <;> simp [takeBytes]
  | case3 c rest bytes _ ih => simp [takeBytes, ih]

theorem drop_charsBefore (text : List Char) (bytes : Nat) :
    text.drop (charsBefore text bytes) = dropBytes text bytes := by
  fun_induction charsBefore text bytes with
  | case1 => simp [dropBytes]
  | case2 text => cases text <;> simp [dropBytes]
  | case3 c rest bytes _ ih => simp [dropBytes, ih]

theorem bytesOfChars_eq_some_iff (text : List Char) (count bytes : Nat) :
    bytesOfChars text count = some bytes ↔
      count ≤ text.length ∧ bytes = byteLength (text.take count) := by
  fun_induction bytesOfChars text count generalizing bytes with
  | case1 => simp [byteLength, eq_comm]
  | case2 => simp
  | case3 c rest count ih =>
    simp only [Option.map_eq_some_iff, ih, List.length_cons, List.take_succ_cons, byteLength]
    constructor
    · rintro ⟨_, ⟨bound, rfl⟩, rfl⟩
      exact ⟨by omega, rfl⟩
    · rintro ⟨bound, rfl⟩
      exact ⟨_, ⟨by omega, rfl⟩, rfl⟩

theorem byteOfColumn_eq_some_iff (line : String) (column byte : Nat) :
    byteOfColumn line column = some byte ↔
      1 ≤ column ∧ column ≤ line.length + 1 ∧
        byte = byteLength (line.toList.take (column - 1)) := by
  unfold byteOfColumn
  split
  · simp only [reduceCtorEq, false_iff]; omega
  · rw [bytesOfChars_eq_some_iff, String.length_toList]
    constructor
    · rintro ⟨bound, rfl⟩
      exact ⟨by omega, by omega, rfl⟩
    · rintro ⟨_, bound, rfl⟩
      exact ⟨by omega, rfl⟩

/-! ### Encoded characters -/

theorem byteLength_eq_utf8ByteSize (text : List Char) :
    byteLength text = (String.ofList text).utf8ByteSize := by
  induction text with
  | nil => rfl
  | cons c rest ih =>
    rw [byteLength, ih, String.ofList_cons, String.utf8ByteSize_append, String.utf8ByteSize_singleton]

theorem byteLength_toList (text : String) : byteLength text.toList = text.utf8ByteSize := by
  rw [byteLength_eq_utf8ByteSize, String.ofList_toList]

theorem extract_append (before between after : String) :
    (before ++ (between ++ after)).toByteArray.extract before.utf8ByteSize
      (before.utf8ByteSize + between.utf8ByteSize) = between.toByteArray := by
  rw [String.toByteArray_append, String.toByteArray_append]
  calc (before.toByteArray ++ (between.toByteArray ++ after.toByteArray)).extract
        before.utf8ByteSize (before.utf8ByteSize + between.utf8ByteSize)
      = (before.toByteArray ++ (between.toByteArray ++ after.toByteArray)).extract
          (before.toByteArray.size + 0) (before.toByteArray.size + between.toByteArray.size) := by
        rw [Nat.add_zero, String.size_toByteArray, String.size_toByteArray]
    _ = (between.toByteArray ++ after.toByteArray).extract 0 between.toByteArray.size :=
        ByteArray.extract_append_size_add
    _ = between.toByteArray := ByteArray.extract_append_eq_left rfl

/-! ### Lines -/

@[simp] theorem flatten_pieces (text : List Char) : (pieces text).flatten = text := by
  fun_induction pieces text with
  | case1 => rfl
  | case2 rest ih => simp [ih]
  | case3 c rest _ empty ih => simpa [empty] using ih
  | case4 c rest _ piece others more ih => simpa [more] using ih

theorem dropFinal_isPrefix (final : Char) (text : List Char) : dropFinal final text <+: text := by
  unfold dropFinal
  split
  · exact List.dropLast_prefix text
  · exact List.prefix_rfl

/-- The text of a line stands at the start of its piece, before the line's terminator. -/
theorem body_isPrefix (piece : List Char) : body piece <+: piece :=
  (dropFinal_isPrefix _ _).trans (dropFinal_isPrefix _ _)

theorem getElem?_numberPieces (number offset : Nat) (all : List (List Char)) (i : Nat) :
    (numberPieces number offset all)[i]? = all[i]?.map fun piece =>
      ⟨number + i, offset + byteLength (all.take i).flatten, String.ofList (body piece)⟩ := by
  induction all generalizing number offset i with
  | nil => simp [numberPieces]
  | cons piece rest ih =>
    cases i with
    | zero => simp [numberPieces, byteLength]
    | succ i => simp [numberPieces, ih, Nat.add_assoc, Nat.add_comm 1 i]

/-- The position of a column of a line: what stands on the lines before, and before the column. -/
def position (source : String) (line column : Nat) : Nat :=
  ((pieces source.toList).take (line - 1)).flatten.length + (column - 1)

theorem line?_eq_some_iff (source : String) (number : Nat) (line : Line) :
    line? source number = some line ↔
      1 ≤ number ∧ ∃ piece, (pieces source.toList)[number - 1]? = some piece ∧
        line = ⟨number, byteLength ((pieces source.toList).take (number - 1)).flatten,
          String.ofList (body piece)⟩ := by
  unfold line? lines
  split
  · simp only [reduceCtorEq, false_iff]; omega
  · rename_i positive
    have numbered : 1 + (number - 1) = number := by omega
    simp only [getElem?_numberPieces, Option.map_eq_some_iff, Nat.zero_add, numbered]
    constructor
    · rintro ⟨piece, found, rfl⟩
      exact ⟨by omega, piece, found, rfl⟩
    · rintro ⟨_, piece, found, rfl⟩
      exact ⟨piece, found, rfl⟩

theorem getElem?_lines {source : String} {i : Nat} {line : Line}
    (found : (lines source)[i]? = some line) : line.number = i + 1 := by
  rw [lines, getElem?_numberPieces] at found
  obtain ⟨piece, _, rfl⟩ := Option.map_eq_some_iff.mp found
  exact Nat.add_comm 1 i

theorem number_of_mem {source : String} {line : Line} (member : line ∈ lines source) :
    1 ≤ line.number ∧ line.number ≤ (lines source).length := by
  obtain ⟨i, found⟩ := List.mem_iff_getElem?.mp member
  have inside := (List.getElem?_eq_some_iff.mp found).1
  have numbered := getElem?_lines found
  omega

theorem line?_of_mem {source : String} {line : Line} (member : line ∈ lines source) :
    line? source line.number = some line := by
  obtain ⟨i, found⟩ := List.mem_iff_getElem?.mp member
  simp [line?, getElem?_lines found, found]

theorem mem_of_line? {source : String} {number : Nat} {line : Line}
    (found : line? source number = some line) : line ∈ lines source ∧ line.number = number := by
  unfold line? at found
  split at found
  · cases found
  · have numbered := getElem?_lines found
    exact ⟨List.mem_of_getElem? found, by omega⟩

theorem lines_pairwise (source : String) :
    (lines source).Pairwise fun a b => a.number < b.number := by
  rw [List.pairwise_iff_getElem]
  intro i j boundI boundJ less
  rw [getElem?_lines (List.getElem?_eq_getElem boundI), getElem?_lines (List.getElem?_eq_getElem boundJ)]
  omega

/-- A source has the column: the line exists and the column is at most one past its last character. -/
structure HasColumn (source : String) (line column : Nat) : Prop where
  positive : 1 ≤ column
  inside : ∃ found, line? source line = some found ∧ column ≤ found.text.length + 1

section

variable {source : String} {number column : Nat} {piece : List Char}

theorem exists_around_body (found : (pieces source.toList)[number - 1]? = some piece) :
    ∃ rest, source.toList =
      ((pieces source.toList).take (number - 1)).flatten ++ (body piece ++ rest) := by
  obtain ⟨bound, piece_eq⟩ := List.getElem?_eq_some_iff.mp found
  obtain ⟨terminator, whole⟩ := body_isPrefix piece
  refine ⟨terminator ++ ((pieces source.toList).drop (number - 1 + 1)).flatten, ?_⟩
  calc source.toList = (pieces source.toList).flatten := (flatten_pieces _).symm
    _ = ((pieces source.toList).take (number - 1) ++
          piece :: (pieces source.toList).drop (number - 1 + 1)).flatten := by
        rw [← piece_eq, ← List.drop_eq_getElem_cons bound, List.take_append_drop]
    _ = _ := by rw [List.flatten_append, List.flatten_cons, ← List.append_assoc (body piece), whole]

theorem take_position (found : (pieces source.toList)[number - 1]? = some piece)
    (inside : column ≤ (body piece).length + 1) :
    source.toList.take (position source number column) =
      ((pieces source.toList).take (number - 1)).flatten ++ (body piece).take (column - 1) := by
  obtain ⟨rest, around⟩ := exists_around_body found
  rw [position]
  generalize ((pieces source.toList).take (number - 1)).flatten = before at around ⊢
  rw [around, List.take_length_add_append, List.take_append_of_le_length (by omega)]

theorem getElem?_position_sub_one (found : (pieces source.toList)[number - 1]? = some piece)
    (past : 1 < column) (inside : column ≤ (body piece).length + 1) :
    source.toList[position source number column - 1]? = (body piece)[column - 2]? := by
  obtain ⟨rest, around⟩ := exists_around_body found
  rw [position]
  generalize ((pieces source.toList).take (number - 1)).flatten = before at around ⊢
  rw [around, List.getElem?_append_right (by omega), List.getElem?_append_left (by omega)]
  congr 1
  omega

/-- A column resolves to the bytes before its position. -/
theorem offset_add_byteLength {line : Line} (found : line? source number = some line)
    (inside : column ≤ line.text.length + 1) :
    line.offset + byteLength (line.text.toList.take (column - 1)) =
      byteLength (source.toList.take (position source number column)) := by
  obtain ⟨_, piece, atPiece, rfl⟩ := (line?_eq_some_iff ..).mp found
  rw [take_position atPiece (by simpa using inside)]
  simp

theorem HasColumn.position_le (has : HasColumn source number column) :
    position source number column ≤ source.toList.length := by
  obtain ⟨line, found, inside⟩ := has.inside
  obtain ⟨_, piece, atPiece, rfl⟩ := (line?_eq_some_iff ..).mp found
  have taken := congrArg List.length (take_position atPiece (by simpa using inside))
  have text : column ≤ (body piece).length + 1 := by simpa using inside
  simp only [List.length_take, List.length_append, position] at taken ⊢
  omega

theorem HasColumn.position_le_of_line_lt (has : HasColumn source number column) {later : Nat}
    (less : number < later) (column' : Nat) :
    position source number column ≤ position source later column' := by
  obtain ⟨line, found, inside⟩ := has.inside
  obtain ⟨positive, piece, atPiece, rfl⟩ := (line?_eq_some_iff ..).mp found
  have text : column ≤ (body piece).length + 1 := by simpa using inside
  have short := (body_isPrefix piece).length_le
  obtain ⟨k, rfl⟩ := Nat.exists_eq_add_of_lt less
  have next : number + k + 1 - 1 = number - 1 + 1 + k := by omega
  simp only [position, next, List.take_add, List.take_one, List.head?_drop, atPiece,
    List.flatten_append, List.length_append, Option.toList, List.flatten_singleton]
  omega

end

end StoryScript.Text
