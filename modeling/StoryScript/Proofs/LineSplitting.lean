import Mathlib.Data.List.Forall2
import StoryScript.Proofs.Acceptance
import StoryScript.Proofs.JoinedLines

/-! Splitting a source into lines loses nothing. Between the text of a line and the next line there is a
newline, with the carriage return before it if there is one, and behind the last line there may be
less. The texts and what ends them make up the source, and every place on a line has a byte of its
own. -/
namespace StoryScript

def Line.stop (line : Line) : Nat := line.offset + line.text.utf8ByteSize

namespace Text

/-- What holds of texts without a newline, and of a line in front of a text of which it holds, holds of
all texts. -/
@[elab_as_elim]
theorem line_induction {motive : List Char → Prop}
    (last : ∀ inside, '\n' ∉ inside → motive inside)
    (line : ∀ inside later, '\n' ∉ inside → motive later → motive (inside ++ '\n' :: later))
    (text : List Char) : motive text := by
  rcases pieces_cases text with ⟨clean, -⟩ | ⟨inside, later, clean, rfl, -⟩
  · exact last text clean
  · exact line inside later clean (line_induction last line later)
termination_by text.length

/-! ### What ends a line -/

/-- The characters of a piece that are not part of the text of its line. -/
def ending (piece : List Char) : List Char := piece.drop (body piece).length

theorem body_append_ending (piece : List Char) : body piece ++ ending piece = piece :=
  List.prefix_iff_eq_append.mp (body_isPrefix piece)

theorem ending_eq_of_append {piece tail : List Char} (whole : body piece ++ tail = piece) :
    ending piece = tail :=
  List.append_cancel_left ((body_append_ending piece).trans whole.symm)

/-- A newline ends a line together with the carriage return before it. -/
theorem ending_append_newline (inside : List Char) :
    ending (inside ++ ['\n']) = if inside.getLast? = some '\r' then ['\r', '\n'] else ['\n'] := by
  apply ending_eq_of_append
  rw [body_append_newline]
  rcases dropFinal_cases '\r' inside with dropped | ⟨kept, other⟩
  · have last : inside.getLast? = some '\r' := by
      rw [dropped, List.getLast?_concat]
    rw [if_pos last, List.append_cons, ← dropped]
  · rw [if_neg other, kept]

theorem ending_of_notMem {inside : List Char} (clean : '\n' ∉ inside) :
    ending inside = if inside.getLast? = some '\r' then ['\r'] else [] := by
  apply ending_eq_of_append
  rw [body_of_notMem clean]
  rcases dropFinal_cases '\r' inside with dropped | ⟨kept, other⟩
  · have last : inside.getLast? = some '\r' := by
      rw [dropped, List.getLast?_concat]
    rw [if_pos last, ← dropped]
  · rw [if_neg other, kept, List.append_nil]

/-! ### Pieces of a text -/

section

variable {text piece : List Char} {i : Nat}

/-- Every piece is a line with its newline, but for the last one, which may do without. -/
theorem getElem?_pieces_cases (found : (pieces text)[i]? = some piece) :
    ∃ inside, '\n' ∉ inside ∧ (piece = inside ++ ['\n'] ∨
      piece = inside ∧ inside ≠ [] ∧ i + 1 = (pieces text).length) := by
  induction text using line_induction generalizing i with
  | last inside clean =>
    by_cases empty : inside = []
    · simp [empty, pieces] at found
    · rw [pieces_of_notMem clean empty] at found ⊢
      obtain ⟨rfl, rfl⟩ : i = 0 ∧ inside = piece := by
        cases i <;> simp_all
      exact ⟨inside, clean, .inr ⟨rfl, empty, rfl⟩⟩
  | line inside later clean ih =>
    rw [pieces_append_newline clean] at found ⊢
    cases i with
    | zero =>
      obtain rfl := Option.some.inj found
      exact ⟨inside, clean, .inl rfl⟩
    | succ i =>
      obtain ⟨inner, cleanInner, terminated | ⟨same, some_char, final⟩⟩ := ih found
      · exact ⟨inner, cleanInner, .inl terminated⟩
      · exact ⟨inner, cleanInner, .inr ⟨same, some_char, congrArg (· + 1) final⟩⟩

theorem ended_flatten_take (inside : i < (pieces text).length) :
    Ended ((pieces text).take i).flatten := by
  intro last found
  cases i with
  | zero => simp at found
  | succ i =>
    obtain ⟨piece, atPiece⟩ : ∃ piece, (pieces text)[i]? = some piece :=
      ⟨_, List.getElem?_eq_getElem (Nat.lt_of_succ_lt inside)⟩
    rw [List.take_add_one, atPiece, List.flatten_append, Option.toList_some,
      List.flatten_singleton] at found
    obtain ⟨inner, -, rfl | ⟨-, -, final⟩⟩ := getElem?_pieces_cases atPiece
    · simpa using found.symm
    · omega

theorem length_pieces (text : List Char) : (pieces text).length =
    text.count '\n' + if text ≠ [] ∧ text.getLast? ≠ some '\n' then 1 else 0 := by
  induction text using line_induction with
  | last inside clean =>
    have none_there : inside.count '\n' = 0 := List.count_eq_zero.mpr clean
    by_cases empty : inside = []
    · simp [empty, pieces]
    · have open_end : inside.getLast? ≠ some '\n' := fun last => clean (List.mem_of_getLast? last)
      rw [pieces_of_notMem clean empty, none_there, if_pos ⟨empty, open_end⟩]
      rfl
  | line inside later clean ih =>
    have none_there : inside.count '\n' = 0 := List.count_eq_zero.mpr clean
    have same_end : (inside ++ '\n' :: later ≠ [] ∧ (inside ++ '\n' :: later).getLast? ≠ some '\n') ↔
        (later ≠ [] ∧ later.getLast? ≠ some '\n') := by
      cases later with
      | nil => simp
      | cons c more => simp
    rw [pieces_append_newline clean, List.length_cons, ih, List.count_append, List.count_cons_self,
      none_there]
    simp only [same_end]
    omega

end

/-! ### Lines of a source -/

section

variable {source : String} {i : Nat} {line : Line}

theorem getElem?_lines_eq_some_iff : (lines source)[i]? = some line ↔
    ∃ piece, (pieces source.toList)[i]? = some piece ∧
      line = ⟨i + 1, byteLength ((pieces source.toList).take i).flatten, .ofList (body piece)⟩ := by
  rw [lines, getElem?_numberPieces, Option.map_eq_some_iff, Nat.zero_add, Nat.add_comm 1 i]
  simp only [eq_comm]

theorem exists_around_line {piece : List Char} (found : (pieces source.toList)[i]? = some piece) :
    source = String.ofList ((pieces source.toList).take i).flatten ++ (String.ofList (body piece) ++
      (String.ofList (ending piece) ++
        String.ofList ((pieces source.toList).drop (i + 1)).flatten)) := by
  obtain ⟨bound, piece_eq⟩ := List.getElem?_eq_some_iff.mp found
  rw [← String.toList_inj]
  simp only [String.toList_append, String.toList_ofList]
  rw [← List.append_assoc (body piece), body_append_ending, ← List.flatten_cons,
    ← List.flatten_append, ← piece_eq, ← List.drop_eq_getElem_cons bound, List.take_append_drop,
    flatten_pieces]

/-- The byte at which the line behind a line starts, or where the source ends. -/
def nextOffset (source : String) (line : Line) : Nat :=
  ((line? source (line.number + 1)).map (·.offset)).getD source.utf8ByteSize

theorem nextOffset_eq (i offset : Nat) (text : String) : nextOffset source ⟨i + 1, offset, text⟩ =
    byteLength ((pieces source.toList).take (i + 1)).flatten := by
  rw [nextOffset, line?, if_neg (Nat.succ_ne_zero _), Nat.add_sub_cancel]
  cases next : (lines source)[i + 1]? with
  | some line =>
    obtain ⟨_, -, rfl⟩ := getElem?_lines_eq_some_iff.mp next
    rfl
  | none =>
    rw [List.getElem?_eq_none_iff, length_lines] at next
    rw [List.take_of_length_le next, flatten_pieces, byteLength_toList]
    rfl

structure EndsWith (source : String) (line : Line) (ending : String) : Prop where
  /-- These are the bytes between the text of the line and the next line. -/
  bytes : source.toByteArray.extract line.stop (nextOffset source line) = ending.toByteArray
  size : line.stop + ending.utf8ByteSize = nextOffset source line
  among : ending = "" ∨ ending = "\r" ∨ ending = "\n" ∨ ending = "\r\n"
  /-- Another line follows only behind a newline. -/
  between : line.number < (lines source).length → ending = "\n" ∨ ending = "\r\n"
  /-- A carriage return before the newline belongs to it. -/
  paired : ∀ before after, source = before ++ "\r\n" ++ after →
    before.utf8ByteSize + 2 = nextOffset source line → ending = "\r\n"

theorem eq_of_append_eq {a b c d : List Char} (same : a ++ b = c ++ d)
    (size : byteLength a = byteLength c) : a = c := by
  rw [← takeBytes_append a b, same, size, takeBytes_append]

/-- A carriage return and a newline that end where a line does are what ends it. -/
theorem ending_of_paired {text piece before after : List Char}
    (found : (pieces text)[i]? = some piece) (split : text = (before ++ ['\r', '\n']) ++ after)
    (size : byteLength (before ++ ['\r', '\n']) = byteLength ((pieces text).take (i + 1)).flatten) :
    ending piece = ['\r', '\n'] := by
  have whole : ((pieces text).take (i + 1)).flatten ++ ((pieces text).drop (i + 1)).flatten = text := by
    rw [← List.flatten_append, List.take_append_drop, flatten_pieces]
  have front := eq_of_append_eq (split.symm.trans whole.symm) size
  rw [List.take_add_one, found, List.flatten_append, Option.toList_some, List.flatten_singleton] at front
  have ended := ended_flatten_take (List.getElem?_eq_some_iff.mp found).1
  generalize ((pieces text).take i).flatten = earlier at front ended
  obtain ⟨inside, clean, rfl | ⟨rfl, some_char, -⟩⟩ := getElem?_pieces_cases found
  · have returns : before ++ ['\r'] = earlier ++ inside :=
      List.append_cancel_right (by simpa using front)
    have last : (earlier ++ inside).getLast? = some '\r' := by
      rw [← returns, List.getLast?_concat]
    by_cases empty : inside = []
    · -- The line is empty, so a newline stands before the one that ends it.
      rw [empty, List.append_nil] at last
      exact absurd (ended _ last) (by decide)
    · rw [getLast?_append_right _ empty] at last
      rw [ending_append_newline, if_pos last]
  · have last : (earlier ++ piece).getLast? = some '\n' := by
      rw [← front]
      simp
    rw [getLast?_append_right _ some_char] at last
    exact absurd (List.mem_of_getLast? last) clean

theorem endsWith_ending {piece : List Char} (found : (pieces source.toList)[i]? = some piece) :
    EndsWith source ⟨i + 1, byteLength ((pieces source.toList).take i).flatten, .ofList (body piece)⟩
      (.ofList (ending piece)) := by
  have around := exists_around_line found
  have size : byteLength ((pieces source.toList).take i).flatten + byteLength (body piece) +
      byteLength (ending piece) = byteLength ((pieces source.toList).take (i + 1)).flatten := by
    rw [List.take_add_one, found, List.flatten_append, Option.toList_some, List.flatten_singleton,
      byteLength_append, Nat.add_assoc, ← byteLength_append, body_append_ending]
  constructor
  case bytes =>
    have between := extract_append
      (.ofList ((pieces source.toList).take i).flatten ++ .ofList (body piece))
      (.ofList (ending piece)) (.ofList ((pieces source.toList).drop (i + 1)).flatten)
    rw [String.append_assoc, ← around, String.utf8ByteSize_append] at between
    simp only [← byteLength_eq_utf8ByteSize] at between
    rwa [nextOffset_eq, ← size, Line.stop, ← byteLength_eq_utf8ByteSize]
  case size =>
    rw [nextOffset_eq, ← size, Line.stop, ← byteLength_eq_utf8ByteSize, ← byteLength_eq_utf8ByteSize]
  case among =>
    obtain ⟨inside, clean, rfl | ⟨rfl, -, -⟩⟩ := getElem?_pieces_cases found
    · rw [ending_append_newline]
      split <;> simp
    · rw [ending_of_notMem clean]
      split <;> simp
  case between =>
    intro more
    rw [length_lines] at more
    obtain ⟨inside, -, rfl | ⟨-, -, final⟩⟩ := getElem?_pieces_cases found
    · rw [ending_append_newline]
      split <;> simp
    · exact absurd more (by simp [final])
  case paired =>
    intro before after split stop
    rw [nextOffset_eq] at stop
    have made : source.toList = (before.toList ++ ['\r', '\n']) ++ after.toList := by
      conv_lhs => rw [split]
      simp
    have reaches : byteLength (before.toList ++ ['\r', '\n']) =
        byteLength ((pieces source.toList).take (i + 1)).flatten := by
      rw [← stop, byteLength_append, byteLength_toList]
      rfl
    rw [ending_of_paired found made reaches]

/-- Places on the lines of a source stand at the bytes of their positions. -/
theorem byteOfColumn_add_offset {column : Nat} (member : line ∈ lines source) (positive : 1 ≤ column)
    (inside : column ≤ line.text.length + 1) :
    (byteOfColumn line.text column).map (line.offset + ·) =
      some (byteLength (source.toList.take (position source line.number column))) := by
  rw [(byteOfColumn_eq_some_iff ..).mpr ⟨positive, inside, rfl⟩, Option.map_some,
    offset_add_byteLength (line?_of_mem member) inside]

theorem forall₂_endsWith (source : String) : List.Forall₂ (EndsWith source) (lines source)
    ((pieces source.toList).map fun piece => .ofList (ending piece)) := by
  rw [List.forall₂_iff_get]
  refine ⟨by rw [length_lines, List.length_map], fun i bound bound' => ?_⟩
  have inside : i < (pieces source.toList).length := by rwa [length_lines] at bound
  have atPiece := List.getElem?_eq_getElem inside
  obtain ⟨piece, found, made⟩ := getElem?_lines_eq_some_iff.mp (List.getElem?_eq_getElem bound)
  obtain rfl := Option.some.inj (atPiece.symm.trans found)
  rw [List.get_eq_getElem, List.get_eq_getElem, List.getElem_map, made]
  exact endsWith_ending atPiece

theorem zipWith_ending (source : String) :
    List.zipWith (fun line ending => line.text ++ ending) (lines source)
      ((pieces source.toList).map fun piece => .ofList (ending piece)) =
        (pieces source.toList).map String.ofList := by
  calc List.zipWith (fun line ending => line.text ++ ending) (lines source)
        ((pieces source.toList).map fun piece => .ofList (ending piece))
      = List.zipWith (· ++ ·) (texts source)
          ((pieces source.toList).map fun piece => .ofList (ending piece)) :=
        List.zipWith_map_left.symm
    _ = (pieces source.toList).map String.ofList := by
        rw [texts_eq, List.zipWith_map, List.zipWith_self]
        simp only [← String.ofList_append, body_append_ending]

theorem lines_offset_pairwise (source : String) :
    (lines source).Pairwise (·.offset < ·.offset) := by
  refine (lines_pairwise source).imp_of_mem fun {a b} memberA memberB less => ?_
  have first := line?_of_mem memberA
  have second := line?_of_mem memberB
  have has : HasColumn source a.number 1 := ⟨Nat.le_refl 1, a, first, Nat.le_add_left 1 _⟩
  have has' : HasColumn source b.number 1 := ⟨Nat.le_refl 1, b, second, Nat.le_add_left 1 _⟩
  have ordered := byteLength_take_lt _ (has.position_lt_of_line_lt has' less) has'.position_le
  rw [← offset_add_byteLength first (Nat.le_add_left 1 _),
    ← offset_add_byteLength second (Nat.le_add_left 1 _)] at ordered
  simpa using ordered

end

/-- Splitting into lines loses nothing. Lines are numbered from 1, start one behind the other from the
first byte on, and their texts are what the source says there. Each ends with a newline or with a
carriage return and a newline, the last one possibly with less; texts and endings make up the source.
There are as many lines as newlines, and one more for a rest without one. Different places on lines
have different bytes. -/
theorem lines_lose_nothing (source : String) :
    (∀ i line, (lines source)[i]? = some line → line.number = i + 1 ∧ '\n' ∉ line.text.toList ∧
      source.toByteArray.extract line.offset line.stop = line.text.toByteArray) ∧
    (lines source).Pairwise (·.offset < ·.offset) ∧
    (∀ line, (lines source).head? = some line → line.offset = 0) ∧
    (∃ endings, List.Forall₂ (EndsWith source) (lines source) endings ∧
      source = String.join (List.zipWith (fun line ending => line.text ++ ending) (lines source) endings)) ∧
    ((lines source).length = source.toList.count '\n' +
      if source ≠ "" ∧ source.toList.getLast? ≠ some '\n' then 1 else 0) ∧
    ∀ line ∈ lines source, ∀ line' ∈ lines source, ∀ column column',
      1 ≤ column → column ≤ line.text.length + 1 → 1 ≤ column' → column' ≤ line'.text.length + 1 →
      (byteOfColumn line.text column).map (line.offset + ·) =
        (byteOfColumn line'.text column').map (line'.offset + ·) →
      line = line' ∧ column = column' := by
  refine ⟨fun i line found => ?_, lines_offset_pairwise source, fun line first => ?_,
    ⟨_, forall₂_endsWith source, ?_⟩, ?_, ?_⟩
  · obtain ⟨piece, atPiece, rfl⟩ := getElem?_lines_eq_some_iff.mp found
    refine ⟨rfl, ?_, ?_⟩
    · rw [String.toList_ofList]
      exact newline_notMem_body (List.mem_of_getElem? atPiece)
    · have between := extract_append (.ofList ((pieces source.toList).take i).flatten)
        (.ofList (body piece)) (.ofList (ending piece) ++
          .ofList ((pieces source.toList).drop (i + 1)).flatten)
      rw [← exists_around_line atPiece, ← byteLength_eq_utf8ByteSize] at between
      exact between
  · rw [List.head?_eq_getElem?] at first
    obtain ⟨piece, -, rfl⟩ := getElem?_lines_eq_some_iff.mp first
    rfl
  · rw [zipWith_ending, ← String.toList_inj, String.toList_join, List.flatMap_map]
    simp
  · rw [length_lines, length_pieces]
    simp
  · intro line member line' member' column column' positive inside positive' inside' same
    rw [byteOfColumn_add_offset member positive inside,
      byteOfColumn_add_offset member' positive' inside', Option.some.injEq] at same
    have found := line?_of_mem member
    have found' := line?_of_mem member'
    have has : HasColumn source line.number column := ⟨positive, line, found, inside⟩
    have has' : HasColumn source line'.number column' := ⟨positive', line', found', inside'⟩
    obtain ⟨numbers, columns⟩ := has.eq_of_bytes_eq has' same
    exact ⟨Option.some.inj (found.symm.trans (numbers ▸ found')), columns⟩

-- A carriage return belongs to the ending only right before the newline or the end.
example : (lines "é\r\r\n\nx\r").map (fun line => (line.number, line.offset, line.text)) =
    [(1, 0, "é\r"), (2, 5, ""), (3, 6, "x")] := by
  decide +kernel

end Text

end StoryScript
