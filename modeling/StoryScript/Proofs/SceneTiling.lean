import Mathlib.Algebra.BigOperators.Group.List.Basic
import Mathlib.Algebra.GroupWithZero.Nat
import Mathlib.Data.List.Sort
import StoryScript.Proofs.Sites
import StoryScript.Script.Structure

/-! The spans of scenes tile a source. Definitions stand on lines of the source, at most one on a line
and in the order of the lines. So a span ends right before the next one starts, no span reaches over
the end of the source, and every line from the first definition on belongs to one scene. -/
namespace StoryScript.Script

/-! ### Stretches of lines -/

def SceneSpan.covers (span : SceneSpan) (line : Line) : Bool :=
  span.startLine ≤ line.number && line.number ≤ span.endLine

theorem mem_stretch_iff {source : String} {first last : Nat} {line : Line} :
    line ∈ ((Text.lines source).take last).drop (first - 1) ↔
      line ∈ Text.lines source ∧ first ≤ line.number ∧ line.number ≤ last := by
  constructor
  · intro member
    obtain ⟨i, found⟩ := List.mem_iff_getElem?.mp member
    simp only [List.getElem?_drop, List.getElem?_take, Option.ite_none_right_eq_some] at found
    have numbered := Text.getElem?_lines found.2
    exact ⟨List.mem_of_getElem? found.2, by omega, by omega⟩
  · rintro ⟨member, low, high⟩
    obtain ⟨i, found⟩ := List.mem_iff_getElem?.mp member
    have numbered := Text.getElem?_lines found
    have place : first - 1 + (i - (first - 1)) = i := by omega
    apply List.mem_iff_getElem?.mpr
    exact ⟨i - (first - 1), by simp [List.getElem?_take, place, found]; omega⟩

/-- A stretch of a source is made of the lines with its numbers. -/
theorem stretch_eq_filter (source : String) (first last : Nat) :
    ((Text.lines source).take last).drop (first - 1) =
      (Text.lines source).filter fun line => first ≤ line.number && line.number ≤ last := by
  have ascending := Text.lines_pairwise source
  have part : (((Text.lines source).take last).drop (first - 1)).Sublist (Text.lines source) :=
    (List.drop_sublist _ _).trans (List.take_sublist _ _)
  have irrefl : Std.Irrefl fun a b : Line => a.number < b.number := ⟨fun _ => Nat.lt_irrefl _⟩
  have antisymm : Std.Antisymm fun a b : Line => a.number < b.number :=
    ⟨fun _ _ less more => absurd less (Nat.lt_asymm more)⟩
  refine (ascending.sublist part).eq_of_mem_iff (ascending.filter _) fun line => ?_
  simp [mem_stretch_iff]

theorem drop_eq_filter (source : String) (first : Nat) :
    (Text.lines source).drop (first - 1) =
      (Text.lines source).filter fun line => first ≤ line.number := by
  have whole := stretch_eq_filter source first (Text.lines source).length
  rw [List.take_length] at whole
  refine whole.trans (List.filter_congr fun line member => ?_)
  simp [(Text.number_of_mem member).2]

theorem totalChars_eq_sum (lines : List Line) (extra : Nat) :
    totalChars lines extra = (lines.map fun line => line.text.length + extra).sum := by
  induction lines with
  | nil => rfl
  | cons line rest ih =>
    rw [List.map_cons, List.sum_cons, ← ih]
    rfl

/-! ### Spans without a gap -/

/-- From the first line up to the last one, each span starts on the line behind the one before it. -/
inductive Tiles (last : Nat) : Nat → List SceneSpan → Prop
  | done {first : Nat} : first = last + 1 → Tiles last first []
  | next {first : Nat} {span : SceneSpan} {rest : List SceneSpan} : span.startLine = first →
      first ≤ span.endLine → Tiles last (span.endLine + 1) rest → Tiles last first (span :: rest)

namespace Tiles

variable {first last : Nat} {spans : List SceneSpan}

theorem first_le (tiles : Tiles last first spans) : first ≤ last + 1 := by
  induction tiles with
  | done => omega
  | next => omega

theorem ordered (tiles : Tiles last first spans) :
    ∀ span ∈ spans, span.startLine ≤ span.endLine ∧ span.endLine ≤ last := by
  induction tiles with
  | done => simp
  | next starts ordered later ih =>
    have reached := later.first_le
    exact List.forall_mem_cons.mpr ⟨by omega, ih⟩

theorem isChain (tiles : Tiles last first spans) :
    spans.IsChain fun span next => next.startLine = span.endLine + 1 := by
  induction tiles with
  | done => exact .nil
  | next _ _ later ih =>
    cases later with
    | done => exact .singleton _
    | next starts => exact .cons_cons starts ih

theorem endLine_of_getLast? (tiles : Tiles last first spans) :
    ∀ span ∈ spans.getLast?, span.endLine = last := by
  induction tiles with
  | done => simp
  | next _ _ later ih =>
    cases later with
    | done ends => simpa using ends
    | next => simpa using ih

/-- A line belongs to one span, unless it stands before all of them. -/
theorem countP_covers (tiles : Tiles last first spans) {line : Line} (inside : line.number ≤ last) :
    spans.countP (·.covers line) = if first ≤ line.number then 1 else 0 := by
  induction tiles with
  | done => simp; omega
  | @next first span rest starts ordered later ih =>
    have here : span.covers line = true ↔ first ≤ line.number ∧ line.number ≤ span.endLine := by
      simp [SceneSpan.covers, starts]
    rw [List.countP_cons, ih]
    simp only [here]
    split <;> split <;> split <;> omega

end Tiles

/-! ### The spans of definitions -/

/-- Sites on lines of a source with so many lines, at most one on a line and in their order. -/
structure InLines (length : Nat) (sites : List Site) : Prop where
  ascending : sites.Pairwise fun a b => a.line < b.line
  within : ∀ site ∈ sites, 1 ≤ site.line ∧ site.line ≤ length

theorem inLines_definitions (source : String) :
    InLines (Text.lines source).length (Scenes.ofSource source).definitions := by
  refine ⟨definitions_pairwise source, fun site member => ?_⟩
  rw [Scenes.definitions_ofSource] at member
  obtain ⟨line, kept, mark, _, rfl⟩ := mem_sitesOf.mp member
  exact Text.number_of_mem (mem_uncommented.mp kept).1

/-- The last line before the first of the sites, the last of all if there is none. -/
def lineBefore (length : Nat) : List Site → Nat
  | [] => length
  | site :: _ => site.line - 1

theorem spansOf_cons (lines : List Line) (site : Site) (rest : List Site) :
    spansOf lines (site :: rest) = ⟨site.name, site.line, lineBefore lines.length rest,
      charsOfLines lines site.line (lineBefore lines.length rest)⟩ :: spansOf lines rest := by
  cases rest <;> rfl

section

variable {length : Nat} {site : Site} {rest : List Site}

theorem InLines.tail (placed : InLines length (site :: rest)) : InLines length rest :=
  ⟨placed.ascending.of_cons, fun other member => placed.within other (List.mem_cons_of_mem _ member)⟩

/-- The scene of a site has a line at least, and it ends within the source. -/
theorem InLines.head_le (placed : InLines length (site :: rest)) :
    1 ≤ site.line ∧ site.line ≤ lineBefore length rest ∧ lineBefore length rest ≤ length := by
  obtain ⟨positive, inside⟩ := placed.within site List.mem_cons_self
  cases rest with
  | nil => exact ⟨positive, inside, Nat.le_refl _⟩
  | cons next rest =>
    have less := List.rel_of_pairwise_cons placed.ascending (by simp : next ∈ next :: rest)
    have inside := (placed.within next (by simp)).2
    rw [lineBefore]
    omega

end

variable {lines : List Line} {sites : List Site}

theorem tiles_spansOf (placed : InLines lines.length sites) :
    Tiles lines.length (lineBefore lines.length sites + 1) (spansOf lines sites) := by
  induction sites with
  | nil => exact .done rfl
  | cons site rest ih =>
    obtain ⟨positive, ordered, _⟩ := placed.head_le
    have starts : lineBefore lines.length (site :: rest) + 1 = site.line :=
      Nat.sub_add_cancel positive
    rw [spansOf_cons, starts]
    exact .next rfl ordered (ih placed.tail)

theorem starts_spansOf (lines : List Line) (sites : List Site) :
    (spansOf lines sites).map (fun span => (span.name, span.startLine)) =
      sites.map fun site => (site.name, site.line) := by
  induction sites with
  | nil => rfl
  | cons site rest ih => simp [spansOf_cons, ih]

theorem startLine_spansOf (lines : List Line) (sites : List Site) :
    (spansOf lines sites).map (·.startLine) = sites.map (·.line) := by
  simpa [Function.comp_def] using congrArg (List.map Prod.snd) (starts_spansOf lines sites)

theorem chars_of_mem_spansOf {span : SceneSpan} (member : span ∈ spansOf lines sites) :
    span.chars = charsOfLines lines span.startLine span.endLine := by
  induction sites with
  | nil => simp [spansOf] at member
  | cons site rest ih =>
    rw [spansOf_cons] at member
    rcases List.mem_cons.mp member with rfl | later
    · rfl
    · exact ih later

theorem totalChars_append (first second : List Line) (extra : Nat) :
    totalChars (first ++ second) extra = totalChars first extra + totalChars second extra := by
  simp [totalChars_eq_sum]

/-- The scenes take up all characters from the first definition on. -/
theorem sum_chars_spansOf (placed : InLines lines.length sites) :
    ((spansOf lines sites).map (·.chars)).sum =
      totalChars (lines.drop (lineBefore lines.length sites)) 1 := by
  induction sites with
  | nil => simp [spansOf, lineBefore, totalChars]
  | cons site rest ih =>
    obtain ⟨_, ordered, inside⟩ := placed.head_le
    have joined : (lines.take (lineBefore lines.length rest)).drop (site.line - 1) ++
        lines.drop (lineBefore lines.length rest) = lines.drop (site.line - 1) := by
      rw [← List.drop_append_of_le_length, List.take_append_drop]
      simp
      omega
    rw [spansOf_cons, List.map_cons, List.sum_cons, ih placed.tail, charsOfLines,
      ← totalChars_append, joined]
    rfl

/-! ### Within bounds -/

def oneLess? : Nat → Option Nat
  | 0 => none
  | n + 1 => some n

def lineBefore? (length : Nat) : List Site → Option Nat
  | [] => some length
  | site :: _ => oneLess? site.line

def slice? (lines : List Line) (start stop : Nat) : Option (List Line) :=
  if start ≤ stop ∧ stop ≤ lines.length then some ((lines.take stop).drop start) else none

/-- The spans of sites, if every number and every slice that they are made from exists. -/
def spansOf? (lines : List Line) : List Site → Option (List SceneSpan)
  | [] => some []
  | site :: rest => do
    let last ← lineBefore? lines.length rest
    let inside ← slice? lines (← oneLess? site.line) last
    return ⟨site.name, site.line, last, totalChars inside 1⟩ :: (← spansOf? lines rest)

theorem oneLess?_of_pos {n : Nat} (positive : 1 ≤ n) : oneLess? n = some (n - 1) := by
  cases n with
  | zero => cases positive
  | succ n => rfl

/-- Nothing that the spans are made from is missing. -/
theorem spansOf?_eq_some (placed : InLines lines.length sites) :
    spansOf? lines sites = some (spansOf lines sites) := by
  induction sites with
  | nil => rfl
  | cons site rest ih =>
    obtain ⟨positive, ordered, inside⟩ := placed.head_le
    have first := oneLess?_of_pos positive
    have cut : slice? lines (site.line - 1) (lineBefore lines.length rest) =
        some ((lines.take (lineBefore lines.length rest)).drop (site.line - 1)) :=
      if_pos ⟨by omega, inside⟩
    have last : lineBefore? lines.length rest = some (lineBefore lines.length rest) := by
      cases rest with
      | nil => rfl
      | cons next _ => exact oneLess?_of_pos (placed.within next (by simp)).1
    simp [spansOf?, last, first, cut, ih placed.tail, spansOf_cons, charsOfLines]

/-! ### Tilings -/

/-- Spans against the lines and the definitions of a source. -/
structure Tiling (lines : List Line) (definitions : List Site) (spans : List SceneSpan) : Prop where
  /-- Nothing is looked up out of bounds. -/
  within : spansOf? lines definitions = some spans
  /-- There is one span for each definition, and it starts on the line of the definition. -/
  starts : spans.map (fun span => (span.name, span.startLine)) =
    definitions.map fun site => (site.name, site.line)
  follows : spans.IsChain fun span next => next.startLine = span.endLine + 1
  last : ∀ span ∈ spans.getLast?, span.endLine = lines.length
  ordered : ∀ span ∈ spans, span.startLine ≤ span.endLine
  chars : ∀ span ∈ spans,
    span.chars = ((lines.filter span.covers).map fun line => line.text.length + 1).sum
  total : ∀ first ∈ definitions.head?, (spans.map (·.chars)).sum =
    ((lines.filter fun line => first.line ≤ line.number).map fun line => line.text.length + 1).sum
  once : ∀ first ∈ definitions.head?, ∀ line ∈ lines,
    spans.countP (·.covers line) = if first.line ≤ line.number then 1 else 0

/-- The spans of the scenes follow each other from the first definition up to the end of the source,
and each line from there on is counted in one of them. -/
theorem sceneSpans_tile (source : String) :
    Tiling (Text.lines source) (Scenes.ofSource source).definitions (sceneSpans source) := by
  have placed := inLines_definitions source
  have tiles := tiles_spansOf placed
  unfold sceneSpans
  -- The first definition stands one line behind what is before all of them.
  have firstLine {first : Site} (found : first ∈ (Scenes.ofSource source).definitions.head?) :
      lineBefore (Text.lines source).length (Scenes.ofSource source).definitions = first.line - 1 ∧
        1 ≤ first.line := by
    obtain ⟨rest, split⟩ := List.head?_eq_some_iff.mp found
    exact ⟨by rw [split]; rfl, (placed.within first (by simp [split])).1⟩
  constructor
  case within => exact spansOf?_eq_some placed
  case starts => exact starts_spansOf _ _
  case follows => exact tiles.isChain
  case last => exact tiles.endLine_of_getLast?
  case ordered => exact fun span member => (tiles.ordered span member).1
  case chars =>
    intro span member
    rw [chars_of_mem_spansOf member, charsOfLines, stretch_eq_filter, totalChars_eq_sum]
    rfl
  case total =>
    intro first found
    rw [sum_chars_spansOf placed, (firstLine found).1, drop_eq_filter, totalChars_eq_sum]
  case once =>
    intro first found line member
    obtain ⟨before, positive⟩ := firstLine found
    rw [before, Nat.sub_add_cancel positive] at tiles
    exact tiles.countP_covers (Text.number_of_mem member).2

end StoryScript.Script
