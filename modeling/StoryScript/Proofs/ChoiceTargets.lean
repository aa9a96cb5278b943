import StoryScript.Proofs.Marks
import StoryScript.Proofs.Sites

/-! The scene that a written choice leads to. The first arrow with a name counts, wherever it stands
on the line. So a choice leads to its own target if its quoted text holds no such arrow, and to the
name after the first one in the quoted text otherwise. -/
namespace StoryScript.Script

/-- An arrow, white space and the name that it leads to. -/
structure Arrow where
  white : List Char
  name : List Char
  blank : Blank white
  isName : IsName name

namespace Arrow

def text (arrow : Arrow) : List Char := '-' :: '>' :: (arrow.white ++ arrow.name)

def mark (arrow : Arrow) (before : List Char) : Mark :=
  ⟨String.ofList arrow.name, (before ++ '-' :: '>' :: arrow.white).length + 1⟩

end Arrow

def StartsWithArrow (text : List Char) : Prop :=
  ∃ (arrow : Arrow) (rest : List Char), text = arrow.text ++ rest ∧ NameEnds rest

def HasArrow (text : List Char) : Prop :=
  ∃ front back, text = front ++ back ∧ StartsWithArrow back

/-- The character can neither go on with an arrow nor with what stands after one. -/
def StopsArrow (c : Char) : Prop := c ≠ '>' ∧ Unicode.isWhite c = false ∧ isNameChar c = false

theorem stopsArrow_quote : StopsArrow '"' := by
  simp [StopsArrow, show isNameChar '"' = false from rfl, show Unicode.isWhite '"' = false from rfl]

theorem stopsArrow_dash : StopsArrow '-' := by
  simp [StopsArrow, show isNameChar '-' = false from rfl, show Unicode.isWhite '-' = false from rfl]

theorem StopsArrow.notMem {c : Char} (stops : StopsArrow c) (arrow : Arrow) :
    c ∉ '>' :: (arrow.white ++ arrow.name) := by
  obtain ⟨noTip, visible, other⟩ := stops
  have notWhite : c ∉ arrow.white := fun member => by simp [arrow.blank c member] at visible
  simp [noTip, notWhite, arrow.isName.notMem other]

theorem NameEnds.of_append {text tail : List Char} (ends : NameEnds (text ++ tail)) :
    NameEnds text := by
  cases text with
  | nil => trivial
  | cons c text => exact ends

/-- What stands after a character that stops arrows does not matter to an arrow before it. -/
theorem startsWithArrow_append_iff {c d : Char} (stops : StopsArrow d) (text tail : List Char) :
    StartsWithArrow (c :: text ++ d :: tail) ↔ StartsWithArrow (c :: text) := by
  constructor
  · rintro ⟨arrow, rest, equal, ends⟩
    have inner : text ++ d :: tail = '>' :: (arrow.white ++ arrow.name) ++ rest :=
      (List.cons.inj equal).2
    have dash : c = '-' := (List.cons.inj equal).1
    -- The arrow cannot reach beyond `d`, since `d` occurs nowhere in it after the dash.
    rcases List.append_eq_append_iff.mp inner with ⟨more, longer, _⟩ | ⟨more, shorter, remaining⟩
    · cases more with
      | nil => exact ⟨arrow, [], by simp_all [Arrow.text], trivial⟩
      | cons e more =>
        have same : e = d := by simp_all
        have within : d ∈ '>' :: (arrow.white ++ arrow.name) := by rw [longer, same]; simp
        exact absurd within (stops.notMem arrow)
    · exact ⟨arrow, more, by simp [dash, shorter, Arrow.text], (remaining ▸ ends).of_append⟩
  · rintro ⟨arrow, rest, equal, ends⟩
    have stopped : NameEnds (d :: tail) := stops.2.2
    exact ⟨arrow, rest ++ d :: tail, by rw [equal, List.append_assoc], ends.append stopped⟩

theorem not_hasArrow_nil : ¬ HasArrow [] := by
  rintro ⟨front, back, equal, arrow, rest, rfl, _⟩
  simp [Arrow.text] at equal

theorem hasArrow_cons_iff {c : Char} {text : List Char} :
    HasArrow (c :: text) ↔ StartsWithArrow (c :: text) ∨ HasArrow text := by
  constructor
  · rintro ⟨front, back, equal, starts⟩
    cases front with
    | nil => exact .inl (by simpa [equal] using starts)
    | cons d front => exact .inr ⟨front, back, (List.cons.inj equal).2, starts⟩
  · rintro (starts | ⟨front, back, rfl, starts⟩)
    · exact ⟨[], c :: text, rfl, starts⟩
    · exact ⟨c :: front, back, rfl, starts⟩

theorem HasArrow.exists_first {text : List Char} (has : HasArrow text) :
    ∃ (front : List Char) (arrow : Arrow) (back : List Char),
      text = front ++ (arrow.text ++ back) ∧ NameEnds back ∧ ¬ HasArrow front := by
  induction text with
  | nil => exact absurd has not_hasArrow_nil
  | cons c text ih =>
    by_cases starts : StartsWithArrow (c :: text)
    · obtain ⟨arrow, rest, equal, ends⟩ := starts
      exact ⟨[], arrow, rest, equal, ends, not_hasArrow_nil⟩
    · obtain ⟨front, arrow, back, rfl, ends, first⟩ :=
        ih ((hasArrow_cons_iff.mp has).resolve_left starts)
      refine ⟨c :: front, arrow, back, rfl, ends, fun earlier => ?_⟩
      -- An arrow that fits into the front is also one in the whole text: the next one stops it.
      rcases hasArrow_cons_iff.mp earlier with here | later
      · exact starts ((startsWithArrow_append_iff stopsArrow_dash front _).mpr here)
      · exact first later

/-! ### The reader of arrows -/

theorem afterArrow?_arrow (arrow : Arrow) {rest : List Char} (ends : NameEnds rest) :
    afterArrow? (arrow.text ++ rest) = some (arrow.name ++ rest) := by
  have read : name? (arrow.name ++ rest) = some (arrow.name, rest) :=
    name?_eq_some_iff.mpr ⟨rfl, arrow.isName, ends⟩
  simp [Arrow.text, afterArrow?, afterWord?, skipWhite_append arrow.blank,
    arrow.isName.skipWhite_append, read]

theorem afterArrow?_cons {c : Char} {text : List Char} (starts : ¬ StartsWithArrow (c :: text)) :
    afterArrow? (c :: text) = afterArrow? text := by
  rw [afterArrow?]
  split
  · rename_i after found
    rw [if_neg]
    intro named
    obtain ⟨⟨name, rest⟩, read⟩ := Option.isSome_iff_exists.mp named
    obtain ⟨equal, isName, ends⟩ := name?_eq_some_iff.mp read
    refine starts ⟨⟨after.takeWhile Unicode.isWhite, name, ?_, isName⟩, rest, ?_, ends⟩
    · exact List.all_eq_true.mp List.all_takeWhile
    · rw [afterWord?_eq_some_iff.mp found, Arrow.text]
      have whole : after = after.takeWhile Unicode.isWhite ++ skipWhite after := by simp [skipWhite]
      simpa [equal] using whole
  · rfl

theorem afterArrow?_append {front : List Char} (first : ¬ HasArrow front) {c : Char}
    (stops : StopsArrow c) (tail : List Char) :
    afterArrow? (front ++ c :: tail) = afterArrow? (c :: tail) := by
  induction front with
  | nil => rfl
  | cons d front ih =>
    rw [hasArrow_cons_iff, not_or] at first
    rw [← ih first.2]
    exact afterArrow?_cons fun starts =>
      first.1 ((startsWithArrow_append_iff stops front tail).mp starts)

theorem afterArrow?_append_of_notMem {front : List Char} (noDash : '-' ∉ front) (tail : List Char) :
    afterArrow? (front ++ tail) = afterArrow? tail := by
  induction front with
  | nil => rfl
  | cons c front ih =>
    rw [List.mem_cons, not_or] at noDash
    rw [← ih noDash.2]
    refine afterArrow?_cons ?_
    rintro ⟨arrow, rest, equal, _⟩
    exact noDash.1 (List.cons.inj equal).1.symm

theorem markAt?_arrow (before : List Char) (arrow : Arrow) {rest : List Char}
    (ends : NameEnds rest) :
    markAt? (before ++ (arrow.text ++ rest)) (arrow.name ++ rest) = some (arrow.mark before) := by
  have split : before ++ (arrow.text ++ rest) =
      (before ++ '-' :: '>' :: arrow.white) ++ (arrow.name ++ rest) := by simp [Arrow.text]
  rw [split, markAt?_append _ arrow.isName ends, Arrow.mark]

/-! ### Written choices -/

/-- A choice as it is written: the quoted text, the arrow with the target, and anything that does
not go on with the target's name. Nothing is asked of the quoted text, so it may be the inside of any
string, escapes and further quotes included. -/
structure WrittenChoice where
  indent : List Char
  gap : List Char
  quoted : List Char
  space : List Char
  arrow : Arrow
  rest : List Char
  indent_blank : Blank indent
  gap_blank : Blank gap
  gap_ne_nil : gap ≠ []
  space_blank : Blank space
  ends : NameEnds rest

namespace WrittenChoice

def opening (choice : WrittenChoice) : List Char :=
  choice.indent ++ (['c', 'h', 'o', 'i', 'c', 'e'] ++ (choice.gap ++ ['"']))

def closing (choice : WrittenChoice) : List Char := '"' :: choice.space

def text (choice : WrittenChoice) : List Char :=
  choice.opening ++ (choice.quoted ++ (choice.closing ++ (choice.arrow.text ++ choice.rest)))

def target (choice : WrittenChoice) : Mark :=
  choice.arrow.mark (choice.opening ++ (choice.quoted ++ choice.closing))

variable (choice : WrittenChoice)

theorem skipWhite_text : ∃ tail, skipWhite choice.text =
    ['c', 'h', 'o', 'i', 'c', 'e'] ++ (choice.gap ++ tail) := by
  refine ⟨'"' :: (choice.quoted ++ (choice.closing ++ (choice.arrow.text ++ choice.rest))), ?_⟩
  have visible : Unicode.isWhite 'c' = false := rfl
  simp [text, opening, skipWhite_append choice.indent_blank, skipWhite_cons visible]

theorem isComment_text : isComment (String.ofList choice.text) = false := by
  obtain ⟨tail, start⟩ := choice.skipWhite_text
  simp [isComment, isCommentChars, start]

theorem isChoice_text : isChoice (String.ofList choice.text) := by
  obtain ⟨tail, start⟩ := choice.skipWhite_text
  have read := afterWord?_eq_some_iff.mpr start
  simp only [isChoice, String.toList_ofList, read]
  cases split : choice.gap with
  | nil => exact absurd split choice.gap_ne_nil
  | cons c more =>
    have white : Unicode.isWhite c := choice.gap_blank c (by simp [split])
    simp [atWordEnd, Unicode.isWord_of_isWhite white]

theorem dash_notMem {text : List Char} (blank : Blank text) : '-' ∉ text :=
  fun member => absurd (blank _ member) (by decide)

theorem dash_notMem_opening : '-' ∉ choice.opening := by
  simp [opening, dash_notMem choice.indent_blank, dash_notMem choice.gap_blank]

/-- A choice leads to its target if no arrow stands in its quoted text. -/
theorem choiceTarget?_of_not_hasArrow (plain : ¬ HasArrow choice.quoted) :
    choiceTarget? (String.ofList choice.text) = some choice.target := by
  have reached : afterArrow? choice.text = some (choice.arrow.name ++ choice.rest) := by
    rw [text, afterArrow?_append_of_notMem choice.dash_notMem_opening, closing, List.cons_append,
      afterArrow?_append plain stopsArrow_quote, ← List.cons_append, ← closing,
      afterArrow?_append_of_notMem (by simp [closing, dash_notMem choice.space_blank]),
      afterArrow?_arrow _ choice.ends]
  have split : choice.text = (choice.opening ++ (choice.quoted ++ choice.closing)) ++
      (choice.arrow.text ++ choice.rest) := by simp [text]
  rw [choiceTarget?, if_pos choice.isChoice_text, String.toList_ofList, reached, split]
  exact markAt?_arrow _ _ choice.ends

/-- An arrow in the quoted text takes the place of the choice's own. -/
theorem choiceTarget?_of_arrow {front back : List Char} {arrow : Arrow}
    (within : choice.quoted = front ++ (arrow.text ++ back)) (ends : NameEnds back)
    (first : ¬ HasArrow front) : choiceTarget? (String.ofList choice.text) =
      some (arrow.mark (choice.opening ++ front)) := by
  have split : choice.text = (choice.opening ++ front) ++
      (arrow.text ++ (back ++ (choice.closing ++ (choice.arrow.text ++ choice.rest)))) := by
    simp [text, within]
  have ends : NameEnds (back ++ (choice.closing ++ (choice.arrow.text ++ choice.rest))) :=
    ends.append (show isNameChar '"' = false from rfl)
  have reached : afterArrow? choice.text = some (arrow.name ++
      (back ++ (choice.closing ++ (choice.arrow.text ++ choice.rest)))) := by
    rw [split, List.append_assoc, afterArrow?_append_of_notMem choice.dash_notMem_opening,
      ← afterArrow?_arrow arrow ends]
    exact afterArrow?_append first stopsArrow_dash _
  rw [choiceTarget?, if_pos choice.isChoice_text, String.toList_ofList, reached, split]
  exact markAt?_arrow _ _ ends

theorem mark_ne_target {front back : List Char} {arrow : Arrow}
    (within : choice.quoted = front ++ (arrow.text ++ back)) :
    arrow.mark (choice.opening ++ front) ≠ choice.target := by
  intro same
  have column := congrArg Mark.column same
  simp only [target, Arrow.mark, within, Arrow.text, closing, List.length_append,
    List.length_cons] at column
  omega

theorem choiceTarget?_eq_target_iff :
    choiceTarget? (String.ofList choice.text) = some choice.target ↔ ¬ HasArrow choice.quoted := by
  refine ⟨fun reached has => ?_, choice.choiceTarget?_of_not_hasArrow⟩
  obtain ⟨front, arrow, back, within, ends, first⟩ := has.exists_first
  rw [choice.choiceTarget?_of_arrow within ends first, Option.some.injEq] at reached
  exact choice.mark_ne_target within reached

theorem references_eq_iff {source : String} {line : Line} (member : line ∈ Text.lines source)
    (written : line.text = String.ofList choice.text) {mark : Mark} :
    (Scenes.ofSource source).references.filter (·.line == line.number) =
      [.ofMark line.number mark] ↔ choiceTarget? line.text = some mark := by
  have plain : isComment line.text = false := written ▸ choice.isComment_text
  rw [Scenes.references_ofSource, filter_sitesOf (mem_uncommented.mpr ⟨member, plain⟩)]
  cases choiceTarget? line.text with
  | none => simp
  | some found =>
    cases found
    cases mark
    simp [Site.ofMark]

end WrittenChoice

/-- A line with a written choice refers to one scene. It is the choice's own target, at its own
column, if and only if no arrow to a name stands in the quoted text. Otherwise it is the name that
the first arrow of the quoted text leads to, and it is missing unless a scene of that name is
defined. -/
theorem references_of_choice {source : String} {line : Line} (member : line ∈ Text.lines source)
    (choice : WrittenChoice) (written : line.text = String.ofList choice.text) :
    (choiceTarget? line.text = some choice.target ↔ ¬ HasArrow choice.quoted) ∧
    ((Scenes.ofSource source).references.filter (·.line == line.number) =
      [.ofMark line.number choice.target] ↔ ¬ HasArrow choice.quoted) ∧
    (HasArrow choice.quoted → ∃ (front : List Char) (arrow : Arrow) (back : List Char),
      choice.quoted = front ++ (arrow.text ++ back) ∧ NameEnds back ∧ ¬ HasArrow front ∧
      choiceTarget? line.text = some (arrow.mark (choice.opening ++ front)) ∧
      (Scenes.ofSource source).references.filter (·.line == line.number) =
        [.ofMark line.number (arrow.mark (choice.opening ++ front))] ∧
      (String.ofList arrow.name ∈ (Scenes.ofSource source).missing ↔
        ¬ ∃ number, DefinedAt source (String.ofList arrow.name) number)) := by
  have own : choiceTarget? line.text = some choice.target ↔ ¬ HasArrow choice.quoted :=
    written ▸ choice.choiceTarget?_eq_target_iff
  refine ⟨own, (choice.references_eq_iff member written).trans own, fun has => ?_⟩
  obtain ⟨front, arrow, back, within, ends, first⟩ := has.exists_first
  have reached : choiceTarget? line.text = some (arrow.mark (choice.opening ++ front)) :=
    written ▸ choice.choiceTarget?_of_arrow within ends first
  have targeted : TargetedAt source (String.ofList arrow.name) line.number :=
    ⟨line, member, rfl, written ▸ choice.isComment_text, _, Option.mem_toList.mpr reached, rfl⟩
  refine ⟨front, arrow, back, within, ends, first, reached,
    (choice.references_eq_iff member written).mpr reached, ?_⟩
  rw [mem_missing]
  exact and_iff_right ⟨_, targeted⟩

/-- The choice whose quoted text holds an arrow of its own: `choice "go -> b" -> c`. -/
def quotedArrow : WrittenChoice where
  indent := []
  gap := [' ']
  quoted := "go -> b".toList
  space := [' ']
  arrow := ⟨[' '], ['c'], by simp [Blank, Unicode.isWhite], by simp [IsName, isNameStart]⟩
  rest := []
  indent_blank := by simp [Blank]
  gap_blank := by simp [Blank, Unicode.isWhite]
  gap_ne_nil := by simp
  space_blank := by simp [Blank, Unicode.isWhite]
  ends := trivial

theorem hasArrow_quotedArrow : HasArrow quotedArrow.quoted :=
  ⟨"go ".toList, "-> b".toList, rfl,
    ⟨[' '], ['b'], by simp [Blank, Unicode.isWhite], by simp [IsName, isNameStart]⟩, [], rfl,
    trivial⟩

theorem references_of_choice_quotedArrow :
    (⟨2, 10, String.ofList quotedArrow.text⟩ : Line) ∈
      Text.lines "scene c \x7b\nchoice \"go -> b\" -> c\n\x7d" ∧
    HasArrow quotedArrow.quoted ∧
    (Scenes.ofSource "scene c \x7b\nchoice \"go -> b\" -> c\n\x7d").references.filter
      (·.line == 2) ≠ [.ofMark 2 quotedArrow.target] := by
  have member : (⟨2, 10, String.ofList quotedArrow.text⟩ : Line) ∈
      Text.lines "scene c \x7b\nchoice \"go -> b\" -> c\n\x7d" := by decide +kernel
  exact ⟨member, hasArrow_quotedArrow, fun own =>
    (references_of_choice member quotedArrow rfl).2.1.mp own hasArrow_quotedArrow⟩

/-- The choice is read as one to `b`, which is then missing. -/
theorem target_of_quotedArrow :
    quotedArrow.target = ⟨"c", 21⟩ ∧
    choiceTarget? (String.ofList quotedArrow.text) = some ⟨"b", 15⟩ ∧
    (Scenes.ofSource (String.ofList quotedArrow.text)).missing = ["b"] := by
  decide +kernel

end StoryScript.Script
