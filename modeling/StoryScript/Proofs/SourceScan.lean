import StoryScript.Proofs.EditedLines
import StoryScript.Proofs.Literals
import StoryScript.Proofs.ReplaceAll

/-! Scanning a whole source at once. Searching line by line finds a phrase where a scan of the whole
source finds it, if the phrase is not allowed to reach over a newline nor to take the carriage return
with which a line ends. -/
namespace StoryScript

namespace Pattern.Phrase

open Text (pieces body dropFinal)
open Unicode (CharSet)

/-- A line ends before the given character. -/
def endsLine (after : Option Char) : Bool := after.all (· == '\n')

/-- The phrase as it is found in a whole source: inside the text of one line. -/
def onOneLine (phrase : Phrase) : Phrase where
  sets := phrase.sets.map (.diff · (.only '\n'))
  opens := phrase.opens
  closes before after := phrase.closes before after && !(before == some '\r' && endsLine after)
  nonempty := by simpa using phrase.nonempty

/-- The phrase starts and ends at the ends of a line as at those of a text. -/
structure LineBound (phrase : Phrase) : Prop where
  opens : ∀ after, phrase.opens (some '\n') after = phrase.opens none after
  newline : ∀ before, phrase.closes before (some '\n') = phrase.closes before none
  carriageReturn : ∀ before, phrase.closes before (some '\r') = phrase.closes before none

def lastChar : Option Char → List Char → Option Char
  | before, [] => before
  | _, c :: rest => lastChar (some c) rest

theorem lastChar_eq (before : Option Char) (text : List Char) :
    lastChar before text = text.getLast?.or before := by
  induction text generalizing before with
  | nil => rfl
  | cons c rest ih =>
    rw [lastChar, ih, List.getLast?_cons]
    cases rest.getLast? <;> rfl

/-- What follows the text of a line, of which the last character is given. -/
def Terminates (last : Option Char) (ending : List Char) : Prop :=
  (∃ tail, ending = '\r' :: tail ∧ endsLine tail.head?) ∨ endsLine ending.head? ∧ last ≠ some '\r'

variable {phrase : Phrase}

theorem sets_onOneLine (phrase : Phrase) :
    phrase.onOneLine.sets = phrase.sets.map (.diff · (.only '\n')) := rfl

@[simp] theorem width_onOneLine (phrase : Phrase) : phrase.onOneLine.width = phrase.width := by
  simp [onOneLine, width]

theorem closes_onOneLine (before after : Option Char) : phrase.onOneLine.closes before after =
    (phrase.closes before after && !(before == some '\r' && endsLine after)) := rfl

theorem head?_of_endsLine {ending : List Char} (ends : endsLine ending.head?) :
    ending = [] ∨ ∃ later, ending = '\n' :: later := by
  cases ending with
  | nil => exact .inl rfl
  | cons c later => exact .inr ⟨later, by rw [show c = '\n' by simpa [endsLine] using ends]⟩

theorem completes_endsLine (phrase : Phrase) (set : CharSet) (sets : List CharSet)
    (before : Option Char) {ending : List Char} (ends : endsLine ending.head?) :
    phrase.onOneLine.completes ((set :: sets).map (.diff · (.only '\n'))) before ending = false := by
  obtain rfl | ⟨later, rfl⟩ := head?_of_endsLine ends
  · rfl
  · simp [completes, CharSet.mem]

/-- A phrase that reaches over the text of its line is not found. -/
theorem completes_terminator (set : CharSet) (sets : List CharSet) (before last : Option Char)
    {ending : List Char} (terminates : Terminates last ending) :
    phrase.onOneLine.completes ((set :: sets).map (.diff · (.only '\n'))) before ending = false := by
  obtain ⟨tail, rfl, ends⟩ | ⟨ends, _⟩ := terminates
  · cases sets with
    | nil => simp [completes, closes_onOneLine, ends]
    | cons second more =>
      have stuck := phrase.completes_endsLine second more (some '\r') ends
      rw [List.map_cons] at stuck ⊢
      rw [List.map_cons, completes, stuck, Bool.and_false]
  · exact phrase.completes_endsLine set sets before ends

theorem completes_onOneLine (bound : phrase.LineBound) (sets : List CharSet) {before : Option Char}
    {text ending : List Char} (clean : '\n' ∉ text)
    (terminates : Terminates (lastChar before text) ending) :
    phrase.onOneLine.completes (sets.map (.diff · (.only '\n'))) before (text ++ ending) =
      phrase.completes sets before text := by
  induction text generalizing sets before with
  | nil =>
    cases sets with
    | cons set sets => exact completes_terminator set sets before before terminates
    | nil =>
      obtain ⟨tail, rfl, _⟩ | ⟨ends, other⟩ := terminates
      · simp [completes, closes_onOneLine, endsLine, bound.carriageReturn]
      · rw [lastChar] at other
        obtain rfl | ⟨later, rfl⟩ := head?_of_endsLine ends <;>
          simp [completes, closes_onOneLine, bound.newline, other]
  | cons c text ih =>
    rw [List.mem_cons, not_or] at clean
    obtain ⟨inner, clean⟩ := clean
    cases sets with
    | nil => simp [completes, closes_onOneLine, endsLine, Ne.symm inner]
    | cons set sets =>
      have outside : (c == '\n') = false := beq_eq_false_iff_ne.mpr (Ne.symm inner)
      rw [List.map_cons, List.cons_append, completes, completes, ih sets clean terminates]
      simp [CharSet.mem, outside]

/-- What stands before a phrase matters only for its start. -/
theorem completes_sets_cons (before before' : Option Char) (c : Char) (rest : List Char) :
    phrase.completes phrase.sets before (c :: rest) =
      phrase.completes phrase.sets before' (c :: rest) := by
  cases sets : phrase.sets with
  | nil => exact absurd sets phrase.nonempty
  | cons => rfl

theorem occurs_onOneLine (bound : phrase.LineBound) {before before' : Option Char} {c : Char}
    {text ending : List Char} (clean : '\n' ∉ c :: text)
    (terminates : Terminates (lastChar before (c :: text)) ending)
    (same : ∀ after, phrase.opens before after = phrase.opens before' after) :
    phrase.onOneLine.occurs before (c :: text ++ ending) = phrase.occurs before' (c :: text) := by
  have whole : phrase.onOneLine.completes phrase.onOneLine.sets before (c :: text ++ ending) =
      phrase.completes phrase.sets before (c :: text) :=
    completes_onOneLine bound phrase.sets clean terminates
  rw [occurs, occurs, whole, completes_sets_cons before before', ← same]
  rfl

/-- Scanning a source finds on a line what scanning the text of the line does. -/
theorem scan_line (bound : phrase.LineBound) {skip offset : Nat} {before before' : Option Char}
    {text ending : List Char} (clean : '\n' ∉ text)
    (terminates : Terminates (lastChar before text) ending) (inside : skip ≤ text.length)
    (same : ∀ after, phrase.opens before after = phrase.opens before' after) :
    phrase.onOneLine.scan skip before offset (text ++ ending) =
      phrase.scan skip before' offset text ++
        phrase.onOneLine.scan 0 (lastChar before text) (offset + text.length) ending := by
  induction text generalizing skip offset before before' with
  | nil =>
    obtain rfl : skip = 0 := Nat.le_zero.mp inside
    rfl
  | cons c text ih =>
    have clean' : '\n' ∉ text := fun newline => clean (List.mem_cons_of_mem _ newline)
    have rest (skip : Nat) (inside : skip ≤ text.length) :
        phrase.onOneLine.scan skip (some c) (offset + 1) (text ++ ending) =
          phrase.scan skip (some c) (offset + 1) text ++
            phrase.onOneLine.scan 0 (lastChar before (c :: text)) (offset + (c :: text).length)
              ending := by
      rw [ih clean' terminates inside fun _ => rfl, List.length_cons, Nat.add_assoc, Nat.add_comm 1]
      rfl
    cases skip with
    | succ skip => exact rest skip (Nat.le_of_succ_le_succ inside)
    | zero =>
      have here := occurs_onOneLine bound clean terminates same
      rw [List.cons_append] at here ⊢
      rw [scan, scan, here, width_onOneLine]
      split
      · rename_i occurs
        have fits := width_le_of_occurs occurs
        rw [rest _ (by rw [List.length_cons] at fits; omega)]
        rfl
      · exact rest 0 (Nat.zero_le _)

theorem scan_terminator {last : Option Char} {c : Char} {rest : List Char}
    (terminates : Terminates last (c :: rest)) (before : Option Char) (offset : Nat) :
    phrase.onOneLine.scan 0 before offset (c :: rest) =
      phrase.onOneLine.scan 0 (some c) (offset + 1) rest := by
  obtain ⟨set, sets, first⟩ := List.exists_cons_of_ne_nil phrase.nonempty
  have stuck : phrase.onOneLine.completes phrase.onOneLine.sets before (c :: rest) = false := by
    rw [sets_onOneLine, first]
    exact completes_terminator set sets before last terminates
  rw [scan, occurs, stuck, Bool.and_false]
  rfl

theorem scan_newline (before : Option Char) (offset : Nat) (later : List Char) :
    phrase.onOneLine.scan 0 before offset ('\n' :: later) =
      phrase.onOneLine.scan 0 (some '\n') (offset + 1) later := by
  have terminates : Terminates none ('\n' :: later) := .inr ⟨rfl, by simp⟩
  exact scan_terminator terminates before offset

/-- A scan of each line, numbering places from the given one on. -/
def scanPieces (phrase : Phrase) (offset : Nat) : List (List Char) → List Nat
  | [] => []
  | piece :: rest =>
    phrase.scan 0 none offset (body piece) ++ scanPieces phrase (offset + piece.length) rest

/-- A line is scanned up to its newline or the end of the source. -/
theorem scan_inside (bound : phrase.LineBound) (offset : Nat) {before : Option Char}
    {inside ending : List Char} (clean : '\n' ∉ inside) (ends : endsLine ending.head?)
    (fresh : before = none ∨ before = some '\n') :
    phrase.onOneLine.scan 0 before offset (inside ++ ending) =
      phrase.scan 0 none offset (dropFinal '\r' inside) ++
        phrase.onOneLine.scan 0 (lastChar before inside) (offset + inside.length) ending := by
  have same (after : Option Char) : phrase.opens before after = phrase.opens none after := by
    rcases fresh with rfl | rfl
    · rfl
    · exact bound.opens after
  rcases Text.dropFinal_cases '\r' inside with split | ⟨kept, last⟩
  · -- The carriage return at the end of the line is not part of its text.
    generalize dropFinal '\r' inside = text at split ⊢
    subst split
    have terminates : Terminates (lastChar before text) ('\r' :: ending) := .inl ⟨ending, rfl, ends⟩
    have clean' : '\n' ∉ text := fun newline => clean (List.mem_append_left _ newline)
    rw [List.append_assoc, List.singleton_append,
      scan_line bound clean' terminates (Nat.zero_le _) same, scan_terminator terminates,
      lastChar_eq before (text ++ _), List.getLast?_concat, List.length_append]
    rfl
  · have terminates : Terminates (lastChar before inside) ending := by
      refine .inr ⟨ends, ?_⟩
      rw [lastChar_eq]
      cases final : inside.getLast? with
      | none => rcases fresh with rfl | rfl <;> simp
      | some c => simpa [final] using last
    rw [kept]
    exact scan_line bound clean terminates (Nat.zero_le _) same

/-- Scanning a source is scanning its lines one after the other. -/
theorem scan_eq_scanPieces (bound : phrase.LineBound) (offset : Nat) {before : Option Char}
    (fresh : before = none ∨ before = some '\n') (text : List Char) :
    phrase.onOneLine.scan 0 before offset text = phrase.scanPieces offset (pieces text) := by
  rcases Text.pieces_cases text with ⟨clean, empty | whole⟩ | ⟨inside, later, clean, made, split⟩
  · rw [empty.1, pieces]
    rfl
  · have ends : endsLine (List.head? []) := rfl
    have scanned := scan_inside bound offset clean ends fresh
    rw [List.append_nil] at scanned
    rw [scanned, whole.2, scanPieces, Text.body_of_notMem clean]
    rfl
  · have shorter : later.length < text.length := by
      rw [made, List.length_append, List.length_cons]
      omega
    have ends : endsLine ('\n' :: later).head? := rfl
    rw [split, made, scan_inside bound offset clean ends fresh, scan_newline, scanPieces,
      Text.body_append_newline, scan_eq_scanPieces bound _ (.inr rfl) later, List.length_append,
      List.length_singleton, Nat.add_assoc]
termination_by text.length

/-! ### Places -/

theorem scan_add (phrase : Phrase) (skip : Nat) (before : Option Char) (shift offset : Nat)
    (text : List Char) :
    phrase.scan skip before (shift + offset) text =
      (phrase.scan skip before offset text).map (shift + ·) := by
  fun_induction scan phrase skip before offset text with
  | case1 => rfl
  | case2 skip before offset c rest ih => rw [scan, Nat.add_assoc, ih]
  | case3 before offset c rest occurs ih => rw [scan, if_pos occurs, Nat.add_assoc, ih, List.map_cons]
  | case4 before offset c rest other ih => rw [scan, if_neg other, Nat.add_assoc, ih]

end Pattern.Phrase

namespace Search

open Pattern (Phrase Look wordBorder)
open Text (position pieces)
open Edit (Cut cutFor)

/-- A newline is no word character, and a carriage return is none. -/
theorem lineBound_phraseOf {query : String} (options : Options) (nonempty : query ≠ "") :
    (phraseOf query options nonempty).LineBound := by
  have newline : Unicode.isWord '\n' = false := rfl
  have carriageReturn : Unicode.isWord '\r' = false := rfl
  constructor <;> intro neighbour <;> cases whole : options.wholeWord <;>
    simp [phraseOf, Phrase.ofText, wordBorder, whole, Look.holds, Look.wordHolds, newline,
      carriageReturn]

def cutAt (width : Nat) (put : List Char) (start : Nat) : Cut := ⟨start, start + width, put⟩

theorem cutFor_matchAt (source : String) {options : Options} (literal : options.regex = false)
    (replacement : String) (width : Nat) (line : Line) (start : Nat) :
    cutFor source options replacement (matchAt width line start) =
      cutAt width replacement.toList (position source line.number 1 + start) := by
  simp [cutFor, matchAt, cutAt, position, literal, Nat.add_assoc]

section

variable {source : String} {options : Options} (literal : options.regex = false)
  (replacement : String)

include literal

theorem cuts_on_line (phrase : Phrase) (line : Line) :
    ((phrase.scan 0 none 0 line.text.toList).map (matchAt phrase.width line)).map
        (cutFor source options replacement) =
      (phrase.scan 0 none (position source line.number 1) line.text.toList).map
        (cutAt phrase.width replacement.toList) := by
  have moved := phrase.scan_add 0 none (position source line.number 1) 0 line.text.toList
  rw [Nat.add_zero] at moved
  simp [moved, Function.comp_def, cutFor_matchAt source literal]

theorem cuts_on_pieces (phrase : Phrase) {number : Nat} (offset : Nat) {before after : List (List Char)}
    (split : pieces source.toList = before ++ after) (numbered : number = before.length + 1) :
    ((Text.numberPieces number offset after).flatMap fun line =>
      (phrase.scan 0 none 0 line.text.toList).map (matchAt phrase.width line)).map
        (cutFor source options replacement) =
      (phrase.scanPieces before.flatten.length after).map
        (cutAt phrase.width replacement.toList) := by
  induction after generalizing number offset before with
  | nil => rfl
  | cons piece after ih =>
    have place : position source number 1 = before.flatten.length := by
      simp [position, split, numbered]
    have split' : pieces source.toList = (before ++ [piece]) ++ after := by
      rw [split, List.append_assoc, List.singleton_append]
    have numbered' : number + 1 = (before ++ [piece]).length + 1 := by
      rw [numbered, List.length_append, List.length_singleton]
    rw [Text.numberPieces, List.flatMap_cons, List.map_append, cuts_on_line literal,
      ih _ split' numbered', Phrase.scanPieces, List.map_append]
    simp [place]

/-- The matches of a literal query are cut out of the source where a scan of the whole source finds
its phrase. -/
theorem find_cuts (source : String) {query : String} (nonempty : query ≠ "")
    (fits : Fits query options) :
    (find source query options).found.map (cutFor source options replacement) =
      ((phraseOf query options nonempty).onOneLine.scan 0 none 0 source.toList).map
        (cutAt query.length replacement.toList) := by
  have bound := lineBound_phraseOf options nonempty
  have whole : pieces source.toList = [] ++ pieces source.toList := rfl
  have cuts := cuts_on_pieces literal replacement (phraseOf query options nonempty) 0 whole rfl
  rw [width_phraseOf] at cuts
  rw [find_literal source literal nonempty fits, Phrase.scan_eq_scanPieces bound 0 (.inl rfl)]
  exact cuts

theorem length_found (source : String) {query : String} (nonempty : query ≠ "")
    (fits : Fits query options) :
    (find source query options).found.length =
      ((phraseOf query options nonempty).onOneLine.scan 0 none 0 source.toList).length := by
  simpa using congrArg List.length (find_cuts literal "" source nonempty fits)

end

end Search

end StoryScript
