import StoryScript.Proofs.Escaping

/-! Where a text occurs. An occurrence is a window of characters that are those of the query one by
one, between word boundaries if whole words are asked for. A search for a text reports the leftmost
occurrence of a line, then the leftmost one behind it, and so on; it does not matter which characters
of the query have a meaning of their own in patterns. -/
namespace StoryScript

/-- `Greedy occurs width place starts`: from the place on, the first occurrence is taken, then the first
one behind its `width` characters, and so on until there is none. -/
inductive Greedy (occurs : Nat → Prop) (width : Nat) : Nat → List Nat → Prop where
  | none {place : Nat} : (∀ start, place ≤ start → ¬ occurs start) → Greedy occurs width place []
  | next {place start : Nat} {later : List Nat} :
      place ≤ start → occurs start → (∀ other, place ≤ other → other < start → ¬ occurs other) →
      Greedy occurs width (start + width) later → Greedy occurs width place (start :: later)

namespace Greedy

variable {occurs : Nat → Prop} {width place : Nat} {starts others : List Nat}

theorem pass (absent : ¬ occurs place) (greedy : Greedy occurs width (place + 1) starts) :
    Greedy occurs width place starts := by
  -- What is said of the places from the next one on holds from this one on.
  have back {other : Nat} (low : place ≤ other) (occurred : occurs other) : place + 1 ≤ other := by
    rcases Nat.eq_or_lt_of_le low with rfl | later
    · exact absurd occurred absent
    · exact later
  cases greedy with
  | none missing => exact .none fun start low occurred => missing start (back low occurred) occurred
  | next ahead occurred first later =>
    exact .next (by omega) occurred
      (fun other low high found => first other (back low found) high found) later

theorem occurs_of_mem (greedy : Greedy occurs width place starts) :
    ∀ start ∈ starts, occurs start := by
  induction greedy with
  | none => simp
  | next _ occurred _ _ ih => exact List.forall_mem_cons.mpr ⟨occurred, ih⟩

theorem ne_nil (greedy : Greedy occurs width place starts) {start : Nat} (ahead : place ≤ start)
    (occurred : occurs start) : starts ≠ [] := by
  cases greedy with
  | none missing => exact absurd occurred (missing start ahead)
  | next => exact List.cons_ne_nil _ _

theorem unique (greedy : Greedy occurs width place starts) (again : Greedy occurs width place others) :
    starts = others := by
  induction greedy generalizing others with
  | none missing =>
    cases again with
    | none => rfl
    | next ahead occurred _ _ => exact absurd occurred (missing _ ahead)
  | @next place start later ahead occurred first _ ih =>
    cases again with
    | none missing => exact absurd occurred (missing start ahead)
    | @next _ start' later' ahead' occurred' first' rest' =>
      rcases Nat.lt_trichotomy start start' with less | same | less
      · exact absurd occurred (first' start ahead less)
      · subst same
        rw [ih rest']
      · exact absurd occurred' (first start' ahead' less)

end Greedy

namespace Pattern.Phrase

open Unicode (CharSet)

variable (phrase : Phrase)

def OccursAt (text : List Char) (place : Nat) : Prop :=
  phrase.occurs (Place.after text place).before (text.drop place) = true

theorem not_occursAt_of_length_le {text : List Char} {place : Nat} (outside : text.length ≤ place) :
    ¬ phrase.OccursAt text place := by
  intro occurs
  have fits := width_le_of_occurs occurs
  have positive := phrase.width_pos
  rw [List.length_drop] at fits
  omega

/-- A scan takes occurrences greedily, from behind the characters that it skips. -/
theorem scan_greedy (text : List Char) (skip place : Nat) :
    Greedy (phrase.OccursAt text) phrase.width (place + skip)
      (phrase.scan skip (Place.after text place).before place (text.drop place)) := by
  induction follows : text.drop place generalizing skip place with
  | nil =>
    have outside := List.drop_eq_nil_iff.mp follows
    rw [scan]
    exact .none fun start low => phrase.not_occursAt_of_length_le (by omega)
  | cons c rest ih =>
    obtain ⟨next, before⟩ := after_of_drop follows
    cases skip with
    | succ skip =>
      have later := ih skip (place + 1) next
      rw [before, Nat.add_assoc, Nat.add_comm 1] at later
      exact later
    | zero =>
      rw [scan]
      split
      · rename_i here
        have later := ih (phrase.width - 1) (place + 1) next
        have behind : place + 1 + (phrase.width - 1) = place + phrase.width := by
          have := phrase.width_pos
          omega
        rw [before, behind] at later
        have occurs : phrase.OccursAt text place := by
          rw [OccursAt, follows]
          exact here
        exact .next (Nat.le_refl _) occurs (fun other low high => by omega) later
      · rename_i absent
        have later := ih 0 (place + 1) next
        rw [before] at later
        have missing : ¬ phrase.OccursAt text place := by
          rw [OccursAt, follows]
          exact absent
        exact .pass missing later

/-- A phrase completes where each of the next characters is in its set, and where it may end. -/
theorem completes_iff (sets : List CharSet) (text : List Char) (place : Nat) :
    phrase.completes sets (Place.after text place).before (text.drop place) = true ↔
      List.Forall₂ (fun set c => set.mem c = true) sets ((text.drop place).take sets.length) ∧
        phrase.closes (Place.after text (place + sets.length)).before
          (text.drop (place + sets.length)).head? = true := by
  induction sets generalizing place with
  | nil => simp [completes]
  | cons set sets ih =>
    cases follows : text.drop place with
    | nil => simp [completes]
    | cons c rest =>
      obtain ⟨next, before⟩ := after_of_drop follows
      have later := ih (place + 1)
      rw [next, before, Nat.add_assoc, Nat.add_comm 1] at later
      rw [completes, Bool.and_eq_true_iff, later, List.length_cons, List.take_succ_cons,
        List.forall₂_cons, and_assoc]

end Pattern.Phrase

namespace Search

open Pattern (Phrase Place wordBorder escaped)
open Unicode (CharSet)

def wordBefore (text : List Char) (place : Nat) : Prop :=
  0 < place ∧ ∃ c, text[place - 1]? = some c ∧ Unicode.isWord c = true

def wordAfter (text : List Char) (place : Nat) : Prop :=
  ∃ c, text[place]? = some c ∧ Unicode.isWord c = true

/-- A word starts or ends at the place. -/
def IsWordBoundary (text : List Char) (place : Nat) : Prop :=
  ¬ (wordBefore text place ↔ wordAfter text place)

structure Occurs (query : String) (options : Options) (text : List Char) (start : Nat) : Prop where
  window : List.Forall₂ (fun c q => options.identifies c q = true)
    (slice text start (start + query.length)) query.toList
  wholeWord : options.wholeWord = true →
    IsWordBoundary text start ∧ IsWordBoundary text (start + query.length)

theorem holds_wordBorder_iff (wholeWord : Bool) (text : List Char) (place : Nat) :
    (wordBorder wholeWord).all (·.holds (Place.after text place).before (text.drop place).head?) =
        true ↔ (wholeWord = true → IsWordBoundary text place) := by
  cases wholeWord with
  | false => simp [wordBorder]
  | true =>
    have before : (Place.after text place).before.any Unicode.isWord = true ↔
        wordBefore text place := by
      cases place <;> simp [Place.after, wordBefore, Option.any_eq_true]
    have after : (text.drop place).head?.any Unicode.isWord = true ↔ wordAfter text place := by
      rw [List.head?_drop, Option.any_eq_true, wordAfter]
    have border (a b : Option Char) : (wordBorder true).all (·.holds a b) =
      (a.any Unicode.isWord != b.any Unicode.isWord) := rfl
    rw [border, IsWordBoundary, ← before, ← after, bne_iff_ne, ne_eq, Bool.eq_iff_iff]
    simp

theorem occursAt_phraseOf_iff {query : String} (options : Options) (nonempty : query ≠ "")
    (text : List Char) (place : Nat) :
    (phraseOf query options nonempty).OccursAt text place ↔ Occurs query options text place := by
  have sets : (phraseOf query options nonempty).sets =
    query.toList.map (CharSet.ofChar (!options.caseSensitive)) := rfl
  have size : (phraseOf query options nonempty).sets.length = query.length :=
    width_phraseOf options nonempty
  have window : slice text place (place + query.length) = (text.drop place).take query.length := by
    rw [slice, Nat.add_sub_cancel_left]
  rw [Phrase.OccursAt, Phrase.occurs, Bool.and_eq_true_iff, Phrase.completes_iff, size,
    (within_phraseOf options nonempty).opens, (within_phraseOf options nonempty).closes,
    holds_wordBorder_iff, holds_wordBorder_iff, sets, List.forall₂_map_left_iff, ← window]
  simp only [mem_ofChar]
  constructor
  · rintro ⟨opens, same, closes⟩
    exact ⟨same.flip, fun whole => ⟨opens whole, closes whole⟩⟩
  · rintro ⟨same, whole⟩
    exact ⟨fun wholeWord => (whole wholeWord).1, same.flip, fun wholeWord => (whole wholeWord).2⟩

theorem scan_phraseOf_greedy {query : String} (options : Options) (nonempty : query ≠ "") (text : List Char) :
    Greedy (Occurs query options text) query.length 0
      ((phraseOf query options nonempty).scan 0 none 0 text) := by
  have same : (phraseOf query options nonempty).OccursAt text = Occurs query options text :=
    funext fun place => propext (occursAt_phraseOf_iff options nonempty text place)
  have scanned := (phraseOf query options nonempty).scan_greedy text 0 0
  rwa [same, width_phraseOf] at scanned

/-- A text is searched for with the program of the pattern that is written for it. -/
theorem compile_escaped (query : String) {options : Options} (literal : options.regex = false) :
    compile query options =
      compile (escaped options.wholeWord query) { options with regex := true } := by
  rw [compile, compile, if_neg (by simp [literal]), if_pos rfl,
    Pattern.Program.ofText_eq_ofRegex]

/-- Searching for a text is the greedy reference scan: the query is never a wrong pattern, it means
what its escaped form means as a pattern, and the matches of each line are exactly the leftmost
occurrences that do not overlap, taken from left to right. -/
theorem find_literal_greedy (source query : String) (options : Options)
    (literal : options.regex = false) (nonempty : query ≠ "") (fits : Fits query options) :
    (find source query options).patternError = none ∧
    compile query options =
      compile (escaped options.wholeWord query) { options with regex := true } ∧
    ∃ starts : Line → List Nat,
      (∀ line ∈ Text.lines source, ∀ places,
        Greedy (Occurs query options line.text.toList) query.length 0 places ↔
          places = starts line) ∧
      (find source query options).found = (Text.lines source).flatMap fun line =>
        (starts line).map (matchAt query.length line) := by
  have result := find_literal source literal nonempty fits
  refine ⟨by rw [result], compile_escaped query literal,
    fun line => (phraseOf query options nonempty).scan 0 none 0 line.text.toList, ?_, by rw [result]⟩
  intro line _ places
  have same : (phraseOf query options nonempty).OccursAt line.text.toList =
      Occurs query options line.text.toList :=
    funext fun place => propext (occursAt_phraseOf_iff options nonempty _ place)
  have scanned := (phraseOf query options nonempty).scan_greedy line.text.toList 0 0
  rw [same, width_phraseOf] at scanned
  exact ⟨fun greedy => greedy.unique scanned, fun equal => equal ▸ scanned⟩

/-- A query with an operator of patterns in it, which overlaps itself where it occurs. -/
theorem find_literal_greedy_operator :
    let options : Options := ⟨false, false, true⟩
    (find "a+a+A" "a+a" options).patternError = none ∧
      ∃ starts, Greedy (Occurs "a+a" options "a+a+A".toList) 3 0 starts ∧
        (find "a+a+A" "a+a" options).found = starts.map (matchAt 3 ⟨1, 0, "a+a+A"⟩) := by
  intro options
  obtain ⟨valid, _, starts, greedy, found⟩ :=
    find_literal_greedy "a+a+A" "a+a" options rfl (by decide) (by decide +kernel)
  have lines : Text.lines "a+a+A" = [⟨1, 0, "a+a+A"⟩] := by decide +kernel
  rw [lines] at greedy found
  refine ⟨valid, _, (greedy _ (List.mem_singleton.mpr rfl) _).mpr rfl, ?_⟩
  rw [found, List.flatMap_singleton]
  rfl

end Search

end StoryScript
