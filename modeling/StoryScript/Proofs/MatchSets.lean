import Mathlib.Data.List.Forall2
import StoryScript.Proofs.ReplaceAll

/-! The form of a match set. A matcher reports stretches of bytes of a line, some of them empty, and
the columns of the matches can be counted on from one stretch to the next. The columns are those of
the line, and they resolve to the bytes that were reported. -/
namespace StoryScript.Text

def bytesBetween (text : List Char) (start stop : Nat) : List Char :=
  takeBytes (dropBytes text start) (stop - start)

theorem bytesBetween_take (text : List Char) {i j : Nat} (order : i ≤ j) :
    bytesBetween text (byteLength (text.take i)) (byteLength (text.take j)) =
      Search.slice text i j := by
  obtain ⟨size, rfl⟩ := Nat.exists_eq_add_of_le order
  rw [bytesBetween, dropBytes_take, byteLength_take_add, Nat.add_sub_cancel_left, takeBytes_take,
    Search.slice, Nat.add_sub_cancel_left]

theorem byteLength_take_inj (text : List Char) {i j : Nat} (order : i ≤ j) (inside : j ≤ text.length) :
    byteLength (text.take i) = byteLength (text.take j) ↔ i = j := by
  refine ⟨fun same => ?_, fun same => by rw [same]⟩
  rcases Nat.lt_or_eq_of_le order with less | equal
  · have := byteLength_take_lt text less inside
    omega
  · exact equal

end StoryScript.Text

namespace StoryScript.Pattern

theorem Hit.Ascend.lower {low lower high : Nat} {hits : List Hit} (ascend : Ascend low high hits)
    (le : lower ≤ low) : Ascend lower high hits := by
  cases hits with
  | nil => trivial
  | cons hit later =>
    obtain ⟨within, rest⟩ := ascend
    exact ⟨⟨Nat.le_trans le within.start, within.order, within.stop⟩, rest⟩

end StoryScript.Pattern

namespace StoryScript.Search

open Pattern (Program Hit)
open Text (byteLength bytesBetween)

theorem length_slice {text : List Char} {start stop : Nat} (inside : stop ≤ text.length) :
    (slice text start stop).length = stop - start := by
  rw [slice, List.length_take, List.length_drop]
  omega

/-- A stretch of a line as a matcher reports it: its bytes, and what its groups took. -/
structure Stretch where
  start : Nat
  stop : Nat
  groups : List (Option String)
  deriving DecidableEq, Repr

namespace Stretch

/-- Some characters are in it. -/
def isReal (stretch : Stretch) : Bool := stretch.start != stretch.stop

def ofHit (program : Program) (withGroups : Bool) (text : List Char) (hit : Hit) : Stretch where
  start := byteLength (text.take hit.start)
  stop := byteLength (text.take hit.stop)
  groups := if withGroups then groupsOf program text hit else []

/-- The bytes of the source, given the byte at which the line starts. -/
def span (offset : Nat) (stretch : Stretch) : Nat × Nat :=
  (offset + stretch.start, offset + stretch.stop)

end Stretch

def stretchesOn (program : Program) (withGroups : Bool) (line : Line) : List Stretch :=
  (program.allMatches line.text.toList).map (.ofHit program withGroups line.text.toList)

/-- The bytes of a source that a matcher reports, line by line. -/
def reportedSpans (program : Program) (withGroups : Bool) (source : String) : List (Nat × Nat) :=
  (Text.lines source).flatMap fun line =>
    ((stretchesOn program withGroups line).filter Stretch.isReal).map (Stretch.span line.offset)

/-- The matches of a line, each counted on from the one before it: the byte `scanned` of the line stands
at `column`. An empty stretch is passed over and moves neither of them. -/
def countOn (line : Line) (column scanned : Nat) : List Stretch → List Match
  | [] => []
  | stretch :: later =>
    if stretch.isReal then
      let start := column + (bytesBetween line.text.toList scanned stretch.start).length
      let matched := bytesBetween line.text.toList stretch.start stretch.stop
      let stop := start + matched.length
      ⟨line.number, start, stop, String.ofList matched, line.text, stretch.groups⟩ ::
        countOn line stop stretch.stop later
    else countOn line column scanned later

section

variable (program : Program) (withGroups : Bool) {line : Line}

theorem Stretch.isReal_ofHit {low : Nat} {text : List Char} {hit : Hit}
    (within : hit.Within low text.length) :
    (Stretch.ofHit program withGroups text hit).isReal = true ↔ hit.start ≠ hit.stop := by
  rw [isReal, bne_iff_ne, ne_eq, ofHit, Text.byteLength_take_inj text within.order within.stop]

theorem countOn_real {place : Nat} {hit : Hit} (within : hit.Within place line.text.toList.length)
    (real : hit.start ≠ hit.stop) (later : List Stretch) :
    ∃ m, matchOf program withGroups line hit = some m ∧
      countOn line (place + 1) (byteLength (line.text.toList.take place))
        (.ofHit program withGroups line.text.toList hit :: later) =
          m :: countOn line (hit.stop + 1) (byteLength (line.text.toList.take hit.stop)) later := by
  have ahead := within.start
  have order := within.order
  have stop := within.stop
  have start : place + 1 + (hit.start - place) = hit.start + 1 := by omega
  have finish : hit.start + 1 + (hit.stop - hit.start) = hit.stop + 1 := by omega
  rw [matchOf, if_neg real]
  refine ⟨_, rfl, ?_⟩
  rw [countOn, if_pos ((Stretch.isReal_ofHit program withGroups within).mpr real), Stretch.ofHit]
  dsimp only
  rw [Text.bytesBetween_take _ ahead, Text.bytesBetween_take _ order, length_slice (by omega),
    length_slice stop, start, finish]

/-- Columns counted on from match to match are the columns of the line, whatever found the hits: it is
enough that they follow one another. -/
theorem countOn_eq {place : Nat} {hits : List Hit}
    (ascend : Hit.Ascend place line.text.toList.length hits) :
    countOn line (place + 1) (byteLength (line.text.toList.take place))
        (hits.map (.ofHit program withGroups line.text.toList)) =
      hits.filterMap (matchOf program withGroups line) := by
  induction hits generalizing place with
  | nil => rfl
  | cons hit later ih =>
    obtain ⟨within, rest⟩ := ascend
    rw [List.map_cons, List.filterMap_cons]
    by_cases empty : hit.start = hit.stop
    · -- The count stays where it is, which is before the hits that follow.
      have stays : place ≤ hit.stop := Nat.le_trans within.start within.order
      have passed := mt (Stretch.isReal_ofHit program withGroups within).mp (not_not_intro empty)
      rw [countOn, if_neg passed, ih (rest.lower stays), matchOf, if_pos empty]
    · obtain ⟨m, made, counted⟩ := countOn_real program withGroups within empty
        (later.map (.ofHit program withGroups line.text.toList))
      rw [counted, made, ih rest]

-- Empty stretches around a real one, on a line with a character of two bytes.
example : countOn ⟨1, 0, "aéb"⟩ 1 0 [⟨0, 0, []⟩, ⟨1, 3, []⟩, ⟨4, 4, []⟩] =
    [⟨1, 2, 3, "é", "aéb", []⟩] := by
  decide +kernel

theorem matchesOn_eq_countOn (line : Line) :
    matchesOn program withGroups line = countOn line 1 0 (stretchesOn program withGroups line) := by
  have counted := countOn_eq program withGroups (program.allMatches_ascend line.text.toList)
  rw [List.take_zero] at counted
  exact counted.symm

end

def Match.put (m : Match) (text : String) : Edit.Operation := ⟨m.line, m.column, m.endColumn, text⟩

/-- The columns of a match name these bytes of the source. -/
def Match.Resolves (source : String) (m : Match) (span : Nat × Nat) : Prop :=
  ∀ text, Edit.resolve source [m.put text] = .ok [⟨span.1, span.2, m.put text⟩]

section

variable {program : Program} {withGroups : Bool} {source : String} {line : Line}

theorem matchOf_resolves (found : Text.line? source line.number = some line) {hit : Hit}
    (within : hit.Within 0 line.text.toList.length) {m : Match}
    (made : matchOf program withGroups line hit = some m) (stands : m.StandsIn source) :
    m.Resolves source ((Stretch.ofHit program withGroups line.text.toList hit).span line.offset) := by
  intro text
  obtain ⟨_, number, column, endColumn, _⟩ := matchOf_eq_some made
  have order := within.order
  have stop := within.stop
  rw [String.length_toList] at stop
  have bytes {place : Nat} (inside : place ≤ line.text.length) :
      line.offset + byteLength (line.text.toList.take place) =
        byteLength (source.toList.take (Text.position source line.number (place + 1))) :=
    Text.offset_add_byteLength found (Nat.succ_le_succ inside)
  have inRange : ∀ operation ∈ [m.put text], operation.InRange source := by
    intro operation member
    rw [List.mem_singleton.mp member]
    exact Edit.inRange_of_standsIn stands text
  have resolved := Edit.resolve_of_perm (.refl [m.put text]) inRange (List.pairwise_singleton _ _)
  rw [resolved, Stretch.span, Stretch.ofHit, bytes (by omega), bytes stop, ← number, ← column,
    ← endColumn]
  rfl

/-- The matches of a line resolve, one after the other, to what was reported of it. -/
theorem matchesOn_resolve (member : line ∈ Text.lines source) :
    List.Forall₂ (Match.Resolves source) (matchesOn program withGroups line)
      (((stretchesOn program withGroups line).filter Stretch.isReal).map
        (Stretch.span line.offset)) := by
  have found := Text.line?_of_mem member
  have stands : ∀ m ∈ matchesOn program withGroups line, m.StandsIn source := fun m onLine =>
    matchesOn_standsIn found onLine
  have within := (program.allMatches_ascend line.text.toList).within
  rw [stretchesOn]
  rw [matchesOn] at stands ⊢
  generalize program.allMatches line.text.toList = hits at stands within ⊢
  induction hits with
  | nil => exact .nil
  | cons hit later ih =>
    obtain ⟨first, others⟩ := List.forall_mem_cons.mp within
    rw [List.map_cons, List.filterMap_cons]
    rw [List.filterMap_cons] at stands
    by_cases empty : hit.start = hit.stop
    · have passed := mt (Stretch.isReal_ofHit program withGroups first).mp (not_not_intro empty)
      rw [matchOf, if_pos empty] at stands ⊢
      rw [List.filter_cons_of_neg passed]
      exact ih stands others
    · obtain ⟨m, made, _⟩ := countOn_real program withGroups first empty []
      rw [made] at stands ⊢
      obtain ⟨here, ahead⟩ := List.forall_mem_cons.mp stands
      rw [List.filter_cons_of_pos ((Stretch.isReal_ofHit program withGroups first).mpr empty),
        List.map_cons]
      exact .cons (matchOf_resolves found first made here) (ih ahead others)

end

theorem forall₂_flatMap {α β γ : Type} {related : β → γ → Prop} {f : α → List β} {g : α → List γ}
    {entries : List α} (each : ∀ entry ∈ entries, List.Forall₂ related (f entry) (g entry)) :
    List.Forall₂ related (entries.flatMap f) (entries.flatMap g) := by
  induction entries with
  | nil => exact .nil
  | cons first later ih =>
    obtain ⟨here, ahead⟩ := List.forall_mem_cons.mp each
    exact List.rel_append here (ih ahead)

theorem matchesOn_groups {program : Program} {line : Line} {m : Match}
    (member : m ∈ matchesOn program false line) : m.groups = [] := by
  obtain ⟨hit, _, made⟩ := List.mem_filterMap.mp member
  unfold matchOf at made
  split at made
  · cases made
  · cases made
    rfl

/-- Groups are those of a pattern: a text searched for as it is has none. -/
theorem find_groups (source query : String) (options : Options) {m : Match}
    (member : m ∈ (find source query options).found) (literal : options.regex = false) :
    m.groups = [] := by
  rcases find_cases source query options with ⟨_, eq⟩ | ⟨_, _, _, eq⟩ | ⟨_, program, _, eq⟩ <;>
    rw [eq] at member
  · cases member
  · cases member
  · obtain ⟨line, _, onLine⟩ := List.mem_flatMap.mp member
    rw [literal] at onLine
    exact matchesOn_groups onLine

/-- Every match set is well formed. Each match is a stretch of characters of its line, with groups only
for a pattern; the matches ascend and do not overlap. When the query compiles to a program, the
matches are those whose columns are counted on from report to report of its matcher, and their columns
resolve to exactly the bytes reported, one match for each report that is not empty. -/
theorem find_wellFormed (source query : String) (options : Options) :
    let found := (find source query options).found
    (∀ m ∈ found, m.StandsIn source ∧ (options.regex = false → m.groups = [])) ∧
    (found.Pairwise fun a b =>
      (a.line < b.line ∨ a.line = b.line ∧ a.column < b.column) ∧
        (a.line = b.line → a.endColumn ≤ b.column)) ∧
    ((query = "" ∨ ∃ error, compile query options = .error error) → found = []) ∧
    ∀ program, query ≠ "" → compile query options = .ok program →
      (found = (Text.lines source).flatMap fun line =>
        countOn line 1 0 (stretchesOn program options.regex line)) ∧
      List.Forall₂ (Match.Resolves source) found (reportedSpans program options.regex source) := by
  refine ⟨fun m member => ⟨find_standsIn source query options member,
    find_groups source query options member⟩, ?_, ?_, ?_⟩
  · refine (find_pairwise source query options).imp_of_mem fun {a b} memberA _ precedes => ?_
    have nonempty := (find_standsIn source query options memberA).nonempty
    rcases precedes with less | ⟨same, le⟩
    · exact ⟨.inl less, by omega⟩
    · exact ⟨.inr ⟨same, by omega⟩, fun _ => le⟩
  · rintro (empty | ⟨error, failed⟩)
    · simp [find, empty]
    · by_cases empty : query = "" <;> simp [find, empty, failed]
  · intro program nonempty compiled
    have found : (find source query options).found =
        (Text.lines source).flatMap (matchesOn program options.regex) := by
      simp [find, nonempty, compiled]
    rw [found]
    refine ⟨?_, forall₂_flatMap fun line member => matchesOn_resolve member⟩
    exact List.flatMap_congr fun line _ => matchesOn_eq_countOn program options.regex line

end StoryScript.Search
