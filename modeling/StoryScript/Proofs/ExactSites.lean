import StoryScript.Proofs.Marks
import StoryScript.Proofs.Sites

/-! Where the names of a source stand. Every site that is read off a source gives a name, the line and
the column at which the whole name can be read there, and sites come in the order of the source. The
sites of shown variables are all the places at which a name stands between braces. -/
namespace StoryScript.Script

/-! ### Final parts of a line -/

theorem skipWhite_isSuffix (text : List Char) : skipWhite text <:+ text := List.dropWhile_suffix _

theorem isSuffix_of_afterWord? {word text rest : List Char} (found : afterWord? word text = some rest) :
    rest <:+ text :=
  ⟨word, (afterWord?_eq_some_iff.mp found).symm⟩

theorem isSuffix_of_afterWhite? {text rest : List Char} (found : afterWhite? text = some rest) :
    rest <:+ text := by
  cases text with
  | nil => cases found
  | cons c text =>
    simp only [afterWhite?, Option.ite_none_right_eq_some, Option.some.injEq] at found
    obtain ⟨-, rfl⟩ := found
    exact (skipWhite_isSuffix text).trans (List.suffix_cons c text)

theorem isSuffix_of_afterArrow? {text rest : List Char} (found : afterArrow? text = some rest) :
    rest <:+ text := by
  fun_induction afterArrow? text with
  | case1 => cases found
  | case2 c text after arrow named =>
    cases found
    exact (skipWhite_isSuffix after).trans (isSuffix_of_afterWord? arrow)
  | case3 c text after arrow named ih => exact (ih found).trans (List.suffix_cons c text)
  | case4 c text arrow ih => exact (ih found).trans (List.suffix_cons c text)

/-! ### Marks on a line -/

/-- The name of the mark stands on the line at its column, and no longer name does. -/
structure Mark.StandsOn (mark : Mark) (line : String) : Prop where
  isName : IsName mark.name.toList
  whole : ∃ before after, line.toList = before ++ (mark.name.toList ++ after) ∧
    mark.column = before.length + 1 ∧ NameEnds after

section

variable {line : String} {mark : Mark}

theorem standsOn_of_markAt? {rest : List Char} (final : rest <:+ line.toList)
    (found : markAt? line.toList rest = some mark) : mark.StandsOn line := by
  obtain ⟨before, split⟩ := final
  simp only [markAt?, Option.map_eq_some_iff] at found
  obtain ⟨⟨name, after⟩, named, rfl⟩ := found
  obtain ⟨rfl, isName, ends⟩ := name?_eq_some_iff.mp named
  refine ⟨by simpa using isName, before, after, ?_, ?_, ends⟩
  · simpa using split.symm
  · simp [← split]

theorem standsOn_of_sceneDefinition? (found : sceneDefinition? line = some mark) :
    mark.StandsOn line := by
  simp only [sceneDefinition?, Option.bind_eq_bind, Option.bind_eq_some_iff] at found
  obtain ⟨_, word, _, white, found⟩ := found
  have final := (isSuffix_of_afterWhite? white).trans (isSuffix_of_afterWord? word)
  exact standsOn_of_markAt? (final.trans (skipWhite_isSuffix _)) found

theorem standsOn_of_choiceTarget? (found : choiceTarget? line = some mark) : mark.StandsOn line := by
  simp only [choiceTarget?, Option.ite_none_right_eq_some, Option.bind_eq_some_iff] at found
  obtain ⟨-, _, arrow, found⟩ := found
  exact standsOn_of_markAt? (isSuffix_of_afterArrow? arrow) found

theorem standsOn_of_assignment? (found : assignment? line = some mark) : mark.StandsOn line := by
  simp only [assignment?, Option.bind_eq_bind, Option.bind_eq_some_iff] at found
  obtain ⟨_, word, _, white, _, -, found⟩ := found
  have final := (isSuffix_of_afterWhite? white).trans (isSuffix_of_afterWord? word)
  split at found
  · exact standsOn_of_markAt? (final.trans (skipWhite_isSuffix _)) found
  · cases found

end

/-! ### Markers -/

/-- A marker opens behind so many characters of a line: a brace, a name with or without white space
around it, and the other brace. The mark is that of the name. -/
def MarkerAt (line : List Char) (place : Nat) (mark : Mark) : Prop :=
  ∃ white name white' after, Blank white ∧ IsName name ∧ Blank white' ∧
    line.drop place = '{' :: (white ++ (name ++ (white' ++ '}' :: after))) ∧
    mark = ⟨String.ofList name, place + white.length + 2⟩

namespace MarkerAt

variable {text : List Char} {place place' : Nat} {mark mark' : Mark}

/-- There is no brace inside a marker, so the next marker opens behind the name. -/
theorem column_lt (first : MarkerAt text place mark) (second : MarkerAt text place' mark')
    (less : place < place') : mark.column < mark'.column := by
  obtain ⟨white, name, white', after, blank, isName, -, start, rfl⟩ := first
  obtain ⟨_, _, _, _, -, -, -, start', rfl⟩ := second
  have brace : text[place']? = some '{' := by
    rw [← List.head?_drop, start']
    rfl
  have beyond : place + white.length < place' := by
    by_contra inside
    obtain ⟨i, rfl⟩ : ∃ i, place' = place + (i + 1) := ⟨place' - place - 1, by omega⟩
    have short : i < white.length := by omega
    rw [← List.getElem?_drop, start, List.getElem?_cons_succ, List.getElem?_append_left short] at brace
    exact blank.notMem (by decide) (List.mem_of_getElem? brace)
  show place + white.length + 2 < place' + _ + 2
  omega

theorem place_unique (first : MarkerAt text place mark) (second : MarkerAt text place' mark) :
    place = place' := by
  rcases Nat.lt_trichotomy place place' with less | same | less
  · exact absurd (first.column_lt second less) (Nat.lt_irrefl _)
  · exact same
  · exact absurd (second.column_lt first less) (Nat.lt_irrefl _)

end MarkerAt

/-- A marker opens where the reader of markers finds one behind a brace. -/
theorem markerAt_iff {line front rest : List Char} {c : Char} (split : line = front ++ c :: rest)
    {mark : Mark} : MarkerAt line front.length mark ↔
      ∃ name after, (if c = '{' then marker? rest else none) = some (name, after) ∧
        mark = ⟨String.ofList name, columnOf line (skipWhite rest)⟩ := by
  have dropped : line.drop front.length = c :: rest := by simp [split]
  have column {white name tail : List Char} (blank : Blank white) (isName : IsName name)
      (made : rest = white ++ (name ++ tail)) :
      columnOf line (skipWhite rest) = front.length + white.length + 2 := by
    rw [made, skipWhite_append blank, isName.skipWhite_append, split, made, columnOf]
    simp
    omega
  constructor
  · rintro ⟨white, name, white', after, blank, isName, blank', start, rfl⟩
    obtain ⟨rfl, made⟩ := List.cons.inj (dropped.symm.trans start)
    refine ⟨name, after, ?_, by rw [column blank isName made]⟩
    exact marker?_eq_some_iff.mpr ⟨white, white', blank, blank', isName, made⟩
  · rintro ⟨name, after, found, rfl⟩
    obtain ⟨rfl, found⟩ := Option.ite_none_right_eq_some.mp found
    obtain ⟨white, white', blank, blank', isName, made⟩ := marker?_eq_some_iff.mp found
    refine ⟨white, name, white', after, blank, isName, blank', ?_, by rw [column blank isName made]⟩
    exact dropped.trans (congrArg _ made)

/-- The marks on a final part of a line are those of the markers that open there, in order. -/
theorem interpolationsFrom_spec {line front rest : List Char} (split : line = front ++ rest) :
    (∀ mark, mark ∈ interpolationsFrom line rest ↔
      ∃ place, front.length ≤ place ∧ MarkerAt line place mark) ∧
    (interpolationsFrom line rest).Pairwise (·.column < ·.column) := by
  induction rest generalizing front with
  | nil =>
    refine ⟨fun mark => ?_, by simp [interpolationsFrom]⟩
    simp only [interpolationsFrom, List.not_mem_nil, false_iff]
    rintro ⟨place, low, _, _, _, _, -, -, -, start, -⟩
    rw [List.drop_eq_nil_of_le (by simpa [split] using low)] at start
    cases start
  | cons c rest ih =>
    obtain ⟨members, ordered⟩ := ih (show line = (front ++ [c]) ++ rest by simp [split])
    rw [List.length_append, List.length_singleton] at members
    have here (mark : Mark) := @markerAt_iff line front rest c split mark
    -- A marker opens at this character or behind it.
    have places (mark : Mark) : (∃ place, front.length ≤ place ∧ MarkerAt line place mark) ↔
        MarkerAt line front.length mark ∨ mark ∈ interpolationsFrom line rest := by
      rw [members]
      constructor
      · rintro ⟨place, low, marker⟩
        rcases Nat.lt_or_eq_of_le low with less | rfl
        · exact .inr ⟨place, less, marker⟩
        · exact .inl marker
      · rintro (marker | ⟨place, low, marker⟩)
        · exact ⟨_, Nat.le_refl _, marker⟩
        · exact ⟨place, Nat.le_of_succ_le low, marker⟩
    simp only [places, here, interpolationsFrom_cons]
    cases found : (if c = '{' then marker? rest else none) with
    | none => simpa using ordered
    | some pair =>
      obtain ⟨name, after⟩ := pair
      refine ⟨fun mark => ?_, List.pairwise_cons.mpr ⟨fun later member => ?_, ordered⟩⟩
      · simp
      · obtain ⟨place, low, marker⟩ := (members later).mp member
        exact ((here _).mpr ⟨name, after, found, rfl⟩).column_lt marker low

theorem mem_interpolations_iff {line : String} {mark : Mark} :
    mark ∈ interpolations line ↔ ∃ place, MarkerAt line.toList place mark := by
  simpa [interpolations] using (interpolationsFrom_spec (List.nil_append line.toList).symm).1 mark

theorem interpolations_pairwise (line : String) :
    (interpolations line).Pairwise (·.column < ·.column) :=
  (interpolationsFrom_spec (List.nil_append line.toList).symm).2

theorem standsOn_of_mem_interpolations {line : String} {mark : Mark}
    (shown : mark ∈ interpolations line) : mark.StandsOn line := by
  obtain ⟨place, white, name, white', after, blank, isName, blank', start, rfl⟩ :=
    mem_interpolations_iff.mp shown
  have inside : place ≤ line.toList.length := by
    by_contra beyond
    rw [List.drop_eq_nil_of_le (by omega)] at start
    cases start
  refine ⟨by simpa using isName, line.toList.take place ++ '{' :: white, white' ++ '}' :: after,
    ?_, ?_, blank'.nameEnds.append rfl⟩
  · have joined := (List.take_append_drop place line.toList).symm
    rw [start] at joined
    simpa using joined
  · simp [inside]
    omega

/-! ### Sites in a source -/

/-- The name of the site stands in the source at its line and column, on a line that is no comment,
and no longer name does. -/
def Site.StandsIn (site : Site) (source : String) : Prop :=
  ∃ line, Text.line? source site.line = some line ∧ isComment line.text = false ∧
    Mark.StandsOn ⟨site.name, site.column⟩ line.text

def Site.Before (first second : Site) : Prop :=
  first.line < second.line ∨ first.line = second.line ∧ first.column < second.column

section

variable {marks : String → List Mark}

theorem standsIn_of_mem_sitesOf (stands : ∀ text, ∀ mark ∈ marks text, mark.StandsOn text)
    {source : String} {site : Site} (member : site ∈ sitesOf marks (uncommented source)) :
    site.StandsIn source := by
  obtain ⟨line, kept, mark, found, rfl⟩ := mem_sitesOf.mp member
  obtain ⟨inside, plain⟩ := mem_uncommented.mp kept
  exact ⟨line, Text.line?_of_mem inside, plain, stands line.text mark found⟩

theorem sitesOf_before (ordered : ∀ text, (marks text).Pairwise (·.column < ·.column))
    (source : String) : (sitesOf marks (uncommented source)).Pairwise Site.Before := by
  refine List.pairwise_flatMap.mpr ⟨fun line _ => ?_, ?_⟩
  · exact List.pairwise_map.mpr ((ordered line.text).imp fun less => .inr ⟨rfl, less⟩)
  · refine (uncommented_pairwise source).imp ?_
    intro first second less a ofFirst b ofSecond
    obtain ⟨_, _, rfl⟩ := List.mem_map.mp ofFirst
    obtain ⟨_, _, rfl⟩ := List.mem_map.mp ofSecond
    exact .inl less

theorem pairwise_toList (mark? : Option Mark) : mark?.toList.Pairwise (·.column < ·.column) := by
  cases mark? with
  | none => exact List.Pairwise.nil
  | some mark => exact List.pairwise_singleton _ _

end

/-- Sites of a source that are exact: each stands where it says, and they come in order. -/
structure Exact (source : String) (sites : List Site) : Prop where
  stands : ∀ site ∈ sites, site.StandsIn source
  ordered : sites.Pairwise Site.Before

/-- A reading that gives one mark of a line at most, and the name where it stands, is exact. -/
theorem exact_of_mark? {mark? : String → Option Mark}
    (stands : ∀ {text mark}, mark? text = some mark → mark.StandsOn text) (source : String) :
    Exact source (sitesOf (fun line => (mark? line).toList) (uncommented source)) where
  stands _ := standsIn_of_mem_sitesOf fun _ _ member => stands (Option.mem_toList.mp member)
  ordered := sitesOf_before (fun text => pairwise_toList (mark? text)) source

/-- All names are found where they stand and in their order, and the names between braces are found
at all places at which they stand. -/
theorem sites_exact (source : String) :
    Exact source (Scenes.ofSource source).definitions ∧
    Exact source (Scenes.ofSource source).references ∧
    Exact source (Variables.ofSource source).assignments ∧
    Exact source (Variables.ofSource source).interpolations ∧
    ∀ site, site ∈ (Variables.ofSource source).interpolations ↔
      ∃ line, Text.line? source site.line = some line ∧ isComment line.text = false ∧
        ∃! place, MarkerAt line.text.toList place ⟨site.name, site.column⟩ := by
  refine ⟨exact_of_mark? standsOn_of_sceneDefinition? source,
    exact_of_mark? standsOn_of_choiceTarget? source,
    exact_of_mark? standsOn_of_assignment? source, ⟨?_, ?_⟩, fun site => ?_⟩
  · exact fun site => standsIn_of_mem_sitesOf fun _ _ => standsOn_of_mem_interpolations
  · exact sitesOf_before interpolations_pairwise source
  · rw [Variables.interpolations_ofSource, mem_sitesOf]
    constructor
    · rintro ⟨line, kept, mark, shown, rfl⟩
      obtain ⟨inside, plain⟩ := mem_uncommented.mp kept
      obtain ⟨place, marker⟩ := mem_interpolations_iff.mp shown
      exact ⟨line, Text.line?_of_mem inside, plain, place, marker,
        fun other again => again.place_unique marker⟩
    · rintro ⟨line, found, plain, place, marker, -⟩
      obtain ⟨inside, numbered⟩ := Text.mem_of_line? found
      have shown := mem_interpolations_iff.mpr ⟨place, marker⟩
      refine ⟨line, mem_uncommented.mpr ⟨inside, plain⟩, _, shown, ?_⟩
      rw [Site.ofMark, numbered]

end StoryScript.Script
