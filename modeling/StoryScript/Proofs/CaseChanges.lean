import Mathlib.Data.List.Forall2
import StoryScript.Proofs.CaseClasses
import StoryScript.Proofs.Occurrences

/-! Searching for a text without regard to case. Whether a query occurs at a place depends only on the
foldings of its characters and of the characters there, so any of them can be changed for another of
its class. Line ends are in classes of their own, so the lines of a source stay as they are, and with
them the places of the matches, although a line may take more or fewer bytes. -/
namespace StoryScript

/-- The characters of the two texts are equal up to case, one by one. -/
def SameUpToCase (a b : String) : Prop :=
  List.Forall₂ (fun c d => d ∈ Unicode.caseVariants c) a.toList b.toList

def folded (text : List Char) : List Char := text.map Unicode.fold

@[simp] theorem length_folded (text : List Char) : (folded text).length = text.length :=
  List.length_map _

theorem forall₂_fold_iff {a b : List Char} :
    List.Forall₂ (fun c d => Unicode.fold c = Unicode.fold d) a b ↔ folded a = folded b := by
  rw [folded, folded, ← List.forall₂_eq_eq_eq, List.forall₂_map_left_iff, List.forall₂_map_right_iff]

theorem sameUpToCase_iff {a b : String} :
    SameUpToCase a b ↔ folded a.toList = folded b.toList := by
  rw [← forall₂_fold_iff, SameUpToCase]
  simp only [Unicode.mem_caseVariants_iff, eq_comm]

theorem SameUpToCase.length_eq {a b : String} (same : SameUpToCase a b) : a.length = b.length := by
  simpa [String.length_toList] using congrArg List.length (sameUpToCase_iff.mp same)

namespace Unicode

theorem fold_eq_iff_of_low {c d : Char} (low : d.toNat < 0x41) : fold c = d ↔ c = d := by
  constructor
  · exact eq_of_fold_eq (by omega)
  · rintro rfl
    have notCapital : ¬ ('A' ≤ c ∧ c ≤ 'Z') := by
      rintro ⟨capital, _⟩
      have : 0x41 ≤ c.toNat := capital
      omega
    rw [fold, if_pos (by omega), if_neg notCapital]

end Unicode

namespace Text

open Unicode (fold)

/-! ### Lines of folded texts -/

theorem pieces_folded (text : List Char) : pieces (folded text) = (pieces text).map folded := by
  have newline {c : Char} : fold c = '\n' ↔ c = '\n' := Unicode.fold_eq_iff_of_low (by decide)
  induction text with
  | nil => rfl
  | cons c rest ih =>
    have unfolded : folded (c :: rest) = fold c :: folded rest := rfl
    rw [unfolded, pieces, pieces, ih]
    simp only [newline]
    split
    · rfl
    · cases pieces rest <;> rfl

theorem dropFinal_folded {final : Char} (low : final.toNat < 0x41) (text : List Char) :
    dropFinal final (folded text) = folded (dropFinal final text) := by
  have last : (folded text).getLast? = some final ↔ text.getLast? = some final := by
    simp [folded, Unicode.fold_eq_iff_of_low low]
  simp only [dropFinal, last]
  split
  · simp [folded, List.map_dropLast]
  · rfl

theorem body_folded (piece : List Char) : body (folded piece) = folded (body piece) := by
  rw [body, body, dropFinal_folded (by decide), dropFinal_folded (by decide)]

/-- Two lines with the same number and the same folding. -/
def LinesAgree (line line' : Line) : Prop :=
  line.number = line'.number ∧ folded line.text.toList = folded line'.text.toList

theorem linesAgree_numberPieces (number offset offset' : Nat) {all all' : List (List Char)}
    (same : all.map folded = all'.map folded) :
    List.Forall₂ LinesAgree (numberPieces number offset all) (numberPieces number offset' all') := by
  induction all generalizing number offset offset' all' with
  | nil =>
    rw [List.map_nil, eq_comm, List.map_eq_nil_iff] at same
    subst same
    exact .nil
  | cons piece rest ih =>
    obtain ⟨piece', rest', rfl, samePiece, sameRest⟩ := List.map_eq_cons_iff.mp same.symm
    refine .cons ⟨rfl, ?_⟩ (ih _ _ _ sameRest.symm)
    simp [← body_folded, samePiece]

theorem linesAgree_lines {source source' : String} (same : SameUpToCase source source') :
    List.Forall₂ LinesAgree (lines source) (lines source') := by
  apply linesAgree_numberPieces
  rw [← pieces_folded, ← pieces_folded, sameUpToCase_iff.mp same]

end Text

namespace Search

open Pattern (Phrase)

/-! ### Occurrences -/

variable {query query' : String} {options : Options}

theorem window_iff (ignoring : options.caseSensitive = false) {window : List Char} :
    List.Forall₂ (fun c q => options.identifies c q = true) window query.toList ↔
      folded window = folded query.toList := by
  simp [Options.identifies, ignoring, ← forall₂_fold_iff]

theorem folded_slice (text : List Char) (start stop : Nat) :
    folded (slice text start stop) = slice (folded text) start stop := by
  simp [folded, slice]

/-- An occurrence depends on foldings only, but for the words around it. -/
theorem occurs_congr (ignoring : options.caseSensitive = false) {text text' : List Char}
    (sameQuery : SameUpToCase query query') (sameText : folded text = folded text')
    (sameWords : options.wholeWord = true → text = text') (start : Nat) :
    Occurs query options text start ↔ Occurs query' options text' start := by
  have length := sameQuery.length_eq
  have chars := sameUpToCase_iff.mp sameQuery
  have windows : folded (slice text start (start + query.length)) =
      folded (slice text' start (start + query'.length)) := by
    rw [folded_slice, folded_slice, sameText, length]
  constructor
  · rintro ⟨window, words⟩
    refine ⟨(window_iff ignoring).mpr ?_, fun whole => ?_⟩
    · rw [← windows, (window_iff ignoring).mp window, chars]
    · rw [← sameWords whole, ← length]
      exact words whole
  · rintro ⟨window, words⟩
    refine ⟨(window_iff ignoring).mpr ?_, fun whole => ?_⟩
    · rw [windows, (window_iff ignoring).mp window, chars]
    · rw [sameWords whole, length]
      exact words whole

theorem scan_congr (nonempty : query ≠ "") (nonempty' : query' ≠ "")
    (length : query.length = query'.length) {text text' : List Char}
    (same : ∀ start, Occurs query options text start ↔ Occurs query' options text' start) :
    (phraseOf query options nonempty).scan 0 none 0 text =
      (phraseOf query' options nonempty').scan 0 none 0 text' := by
  have greedy := scan_phraseOf_greedy options nonempty text
  rw [show Occurs query options text = Occurs query' options text' from
    funext fun start => propext (same start), length] at greedy
  exact greedy.unique (scan_phraseOf_greedy options nonempty' text')

/-! ### Matches -/

theorem fits_congr (ignoring : options.caseSensitive = false) (same : SameUpToCase query query') :
    Fits query options ↔ Fits query' options := by
  have spaces (direction : Pattern.Direction) :
      query.toList.map (fun c => Pattern.setSpace direction (.ofChar true c)) =
        query'.toList.map fun c => Pattern.setSpace direction (.ofChar true c) := by
    rw [← List.forall₂_eq_eq_eq, List.forall₂_map_left_iff, List.forall₂_map_right_iff]
    refine same.imp fun c d variant => ?_
    exact Pattern.setSpace_anyCase_congr (Unicode.mem_caseVariants_iff.mp variant).symm direction
  simp only [Fits, Pattern.Node.Fits, Pattern.Node.space_ofText, ignoring, Bool.not_false, spaces]

/-- Another query of the same class finds the same, and it is tagged with that query. -/
theorem find_query_congr (source : String) (literal : options.regex = false)
    (ignoring : options.caseSensitive = false) (same : SameUpToCase query query') :
    find source query' options = { find source query options with query := query' } := by
  have length := same.length_eq
  by_cases nonempty : query = ""
  · have empty' : query' = "" := by simpa [nonempty] using length.symm
    simp [find, nonempty, empty']
  · have nonempty' : query' ≠ "" := by
      rintro rfl
      exact nonempty (by simpa using length)
    by_cases fits : Fits query options
    · have fits' : Fits query' options := (fits_congr ignoring same).mp fits
      have onLine (text : List Char) := scan_congr nonempty nonempty' length
        (occurs_congr ignoring same (rfl : folded text = folded text) fun _ => rfl)
      rw [find_literal source literal nonempty fits, find_literal source literal nonempty' fits']
      simp only [onLine, length]
    · have long' : ¬ Fits query' options := mt (fits_congr ignoring same).mpr fits
      rw [find_tooLong source literal nonempty fits, find_tooLong source literal nonempty' long']

def Match.place (m : Match) : Nat × Nat × Nat := (m.line, m.column, m.endColumn)

/-- The same query is found at the same places of another source of the same class. -/
theorem find_source_congr {source source' : String} (query : String) (literal : options.regex = false)
    (ignoring : options.caseSensitive = false) (anyWords : options.wholeWord = false)
    (same : SameUpToCase source source') :
    (find source' query options).found.map Match.place =
      (find source query options).found.map Match.place := by
  by_cases nonempty : query = ""
  · simp [find, nonempty]
  · by_cases fits : Fits query options
    · have refl : SameUpToCase query query := sameUpToCase_iff.mpr rfl
      rw [find_literal source literal nonempty fits, find_literal source' literal nonempty fits]
      simp only [List.map_flatMap, List.map_map]
      have agree := Text.linesAgree_lines same
      generalize Text.lines source = lines at agree
      generalize Text.lines source' = lines' at agree
      induction agree with
      | nil => rfl
      | cons agree _ ih =>
        have onLine := scan_congr nonempty nonempty rfl
          (occurs_congr ignoring refl agree.2 fun whole => by simp [anyWords] at whole)
        rw [List.flatMap_cons, List.flatMap_cons, ih, onLine]
        simp [Function.comp_def, Match.place, matchAt, agree.1]
    · rw [find_tooLong source literal nonempty fits, find_tooLong source' literal nonempty fits]

/-- Without regard to case, the case of the query does not matter to what is found, nor does the case
of the source to where it is found, unless whole words are asked for. -/
theorem find_ignores_case (source query : String) :
    (∀ query', SameUpToCase query query' → ∀ wholeWord,
      find source query' ⟨false, false, wholeWord⟩ =
        { find source query ⟨false, false, wholeWord⟩ with query := query' }) ∧
    ∀ source', SameUpToCase source source' →
      (find source' query ⟨false, false, false⟩).found.map Match.place =
        (find source query ⟨false, false, false⟩).found.map Match.place :=
  ⟨fun _ same _ => find_query_congr source rfl rfl same,
    fun _ same => find_source_congr query rfl rfl rfl same⟩

/-- A long s and a Kelvin sign, of two and three bytes, stand for small letters of one byte. -/
theorem find_ignores_case_kelvin :
    SameUpToCase "sk" "\u017f\u212a" ∧ SameUpToCase "ask" "A\u017f\u212a" ∧
    find "ask" "\u017f\u212a" ⟨false, false, false⟩ =
      { find "ask" "sk" ⟨false, false, false⟩ with query := "\u017f\u212a" } ∧
    (find "A\u017f\u212a" "sk" ⟨false, false, false⟩).found.map Match.place = [(1, 2, 4)] := by
  have query : SameUpToCase "sk" "\u017f\u212a" := sameUpToCase_iff.mpr (by decide +kernel)
  have source : SameUpToCase "ask" "A\u017f\u212a" := sameUpToCase_iff.mpr (by decide +kernel)
  have found : (find "ask" "sk" ⟨false, false, false⟩).found.map Match.place = [(1, 2, 4)] := by
    rw [find_literal "ask" rfl (by decide) (by decide +kernel)]
    decide +kernel
  obtain ⟨otherQuery, otherSource⟩ := find_ignores_case "ask" "sk"
  exact ⟨query, source, otherQuery _ query false, (otherSource _ source).trans found⟩

end Search

end StoryScript
