import Mathlib.Data.List.Basic
import StoryScript.Script.Structure

/-! Words of braces and their partners. Two braces are partners if the first opens, the second closes
and what stands between them is balanced. What has no partner is followed as a word grows: an opening
brace has none yet, and a closing one is the partner of the last opening brace that has none. -/
namespace StoryScript.Script

def Brace.char : Brace → Char
  | .opening _ => '{'
  | .closing _ => '}'

/-- A word is balanced if it is empty, or a block with a balanced word inside and one behind it. -/
inductive Balanced : List Brace → Prop
  | nil : Balanced []
  | block {inner rest : List Brace} (opened : Block) (line : Nat) (inside : Balanced inner)
      (behind : Balanced rest) : Balanced (.opening opened :: (inner ++ .closing line :: rest))

/-- The brace at the first place opens a block that the one at the second place closes. -/
def Partners (word : List Brace) (first second : Nat) : Prop :=
  ∃ before opened inner line after,
    word = before ++ .opening opened :: (inner ++ .closing line :: after) ∧ Balanced inner ∧
      before.length = first ∧ before.length + inner.length + 1 = second

/-- A closing brace without a partner, by its place in the word and its line. -/
def StrayAt (word : List Brace) (place line : Nat) : Prop :=
  word[place]? = some (.closing line) ∧ ∀ first, ¬ Partners word first place

/-- An opening brace without a partner, by its place in the word and its block. -/
def OpenAt (word : List Brace) (place : Nat) (block : Block) : Prop :=
  word[place]? = some (.opening block) ∧ ∀ second, ¬ Partners word place second

/-- The list has an entry for each place at which the property holds, in order of the places. -/
def ListsInOrder {α : Type} (holds : Nat → α → Prop) (list : List α) : Prop :=
  ∃ entries : List (Nat × α), entries.Pairwise (·.1 < ·.1) ∧
    (∀ place a, (place, a) ∈ entries ↔ holds place a) ∧ list = entries.map (·.2)

namespace ListsInOrder

variable {α : Type} {holds holds' : Nat → α → Prop} {list : List α}

theorem congr (lists : ListsInOrder holds list)
    (same : ∀ place a, holds' place a ↔ holds place a) : ListsInOrder holds' list := by
  obtain ⟨entries, ascending, members, rfl⟩ := lists
  exact ⟨entries, ascending, fun place a => (members place a).trans (same place a).symm, rfl⟩

theorem snoc (lists : ListsInOrder holds list) {length : Nat} {last : α}
    (bound : ∀ place a, holds place a → place < length)
    (more : ∀ place a, holds' place a ↔ holds place a ∨ place = length ∧ a = last) :
    ListsInOrder holds' (list ++ [last]) := by
  obtain ⟨entries, ascending, members, rfl⟩ := lists
  refine ⟨entries ++ [(length, last)], ?_, ?_, by simp⟩
  · refine List.pairwise_append.mpr ⟨ascending, List.pairwise_singleton _ _, ?_⟩
    rintro ⟨place, a⟩ member entry final
    rw [List.mem_singleton.mp final]
    exact bound place a ((members place a).mp member)
  · intro place a
    simp [members, more]

end ListsInOrder

/-! ### Balanced words -/

def countChar (c : Char) (word : List Brace) : Nat := (word.map Brace.char).count c

section

variable (word word' : List Brace) (block : Block) (line : Nat)

@[simp] theorem countChar_nil (c : Char) : countChar c [] = 0 := rfl

@[simp] theorem countChar_append (c : Char) :
    countChar c (word ++ word') = countChar c word + countChar c word' := by
  simp [countChar]

@[simp] theorem countChar_opening_cons :
    countChar '{' (.opening block :: word) = countChar '{' word + 1 := by
  simp [countChar, Brace.char]

@[simp] theorem countChar_closing_cons :
    countChar '}' (.closing line :: word) = countChar '}' word + 1 := by
  simp [countChar, Brace.char]

@[simp] theorem countChar_other_opening_cons :
    countChar '}' (.opening block :: word) = countChar '}' word := by
  simp [countChar, Brace.char]

@[simp] theorem countChar_other_closing_cons :
    countChar '{' (.closing line :: word) = countChar '{' word := by
  simp [countChar, Brace.char]

end

namespace Balanced

variable {word rest : List Brace}

theorem append (balanced : Balanced word) (behind : Balanced rest) : Balanced (word ++ rest) := by
  induction balanced with
  | nil => exact behind
  | block opened line inside _ _ ih =>
    have whole := Balanced.block opened line inside ih
    simpa using whole

theorem pair (inside : Balanced word) (opened : Block) (line : Nat) :
    Balanced (.opening opened :: (word ++ [.closing line])) :=
  .block opened line inside .nil

theorem countChar_eq (balanced : Balanced word) : countChar '{' word = countChar '}' word := by
  induction balanced with
  | nil => rfl
  | block opened line _ _ inner rest =>
    simp only [countChar_append, countChar_opening_cons, countChar_closing_cons,
      countChar_other_opening_cons, countChar_other_closing_cons]
    omega

end Balanced

/-- No final part of the word opens more blocks than it closes. -/
def TailsClose (word : List Brace) : Prop :=
  ∀ front tail, word = front ++ tail → countChar '{' tail ≤ countChar '}' tail

namespace TailsClose

variable {word rest : List Brace}

theorem closing (tails : TailsClose word) (behind : Balanced rest) (tails' : TailsClose rest)
    (line : Nat) : TailsClose (word ++ .closing line :: rest) := by
  intro front tail split
  have counts := behind.countChar_eq
  rcases List.append_eq_append_iff.mp split with ⟨middle, rfl, later⟩ | ⟨middle, rfl, rfl⟩
  · cases middle with
    | nil =>
      rw [List.nil_append] at later
      simp only [← later, countChar_closing_cons, countChar_other_closing_cons]
      omega
    | cons first middle => exact tails' middle tail (List.cons.inj later).2
  · have part := tails front middle rfl
    simp only [countChar_append, countChar_closing_cons, countChar_other_closing_cons]
    omega

/-- A block that is open at the end would open more than is closed after it. -/
theorem ne_append_opening (tails : TailsClose word) (inside : Balanced rest) {front : List Brace}
    {block : Block} : word ≠ front ++ .opening block :: rest := by
  intro split
  have counts := inside.countChar_eq
  have part := tails front _ split
  simp only [countChar_opening_cons, countChar_other_opening_cons] at part
  omega

end TailsClose

theorem Balanced.tailsClose {word : List Brace} (balanced : Balanced word) : TailsClose word := by
  induction balanced with
  | nil =>
    intro front tail split
    obtain ⟨-, rfl⟩ := List.append_eq_nil_iff.mp split.symm
    exact Nat.le_refl 0
  | @block inner rest opened line inside behind ihInner ihRest =>
    intro front tail split
    cases front with
    | nil =>
      have whole := (inside.block opened line behind).countChar_eq
      rw [split] at whole
      exact Nat.le_of_eq whole
    | cons first front => exact ihInner.closing behind ihRest line _ _ (List.cons.inj split).2

/-- There is one place at most from which a word opens a block and is balanced after it. -/
theorem opening_tail_unique {front front' inner inner' : List Brace} {block block' : Block}
    (same : front ++ .opening block :: inner = front' ++ .opening block' :: inner')
    (inside : Balanced inner) (inside' : Balanced inner') : front = front' := by
  rcases List.append_eq_append_iff.mp same with ⟨middle, rfl, split⟩ | ⟨middle, rfl, split⟩
  · cases middle with
    | nil => simp
    | cons first middle =>
      exact absurd (List.cons.inj split).2 (inside.tailsClose.ne_append_opening inside')
  · cases middle with
    | nil => simp
    | cons first middle =>
      exact absurd (List.cons.inj split).2 (inside'.tailsClose.ne_append_opening inside)

/-! ### One more brace -/

theorem Partners.lt {word : List Brace} {first second : Nat}
    (partners : Partners word first second) : first < second ∧ second < word.length := by
  obtain ⟨before, opened, inner, line, after, rfl, -, rfl, rfl⟩ := partners
  simp only [List.length_append, List.length_cons]
  omega

/-- A further brace closes a block if it is a closing one and the word is balanced since that block
was opened. -/
theorem partners_snoc_iff {word : List Brace} {brace : Brace} {first second : Nat} :
    Partners (word ++ [brace]) first second ↔ Partners word first second ∨
      second = word.length ∧ ∃ before opened inner line, brace = .closing line ∧
        word = before ++ .opening opened :: inner ∧ Balanced inner ∧ before.length = first := by
  constructor
  · rintro ⟨before, opened, inner, line, after, split, balanced, rfl, rfl⟩
    rcases List.eq_nil_or_concat after with rfl | ⟨after, last, rfl⟩
    · have split : word ++ [brace] = (before ++ .opening opened :: inner) ++ [.closing line] := by
        simpa using split
      obtain ⟨rfl, same⟩ := List.append_inj' split rfl
      refine .inr ⟨?_, before, opened, inner, line, (List.cons.inj same).1, rfl, balanced, rfl⟩
      simp [Nat.add_assoc]
    · have split : word ++ [brace] =
          (before ++ .opening opened :: (inner ++ .closing line :: after)) ++ [last] := by
        simpa using split
      obtain ⟨rfl, -⟩ := List.append_inj' split rfl
      exact .inl ⟨before, opened, inner, line, after, rfl, balanced, rfl, rfl⟩
  · rintro (⟨before, opened, inner, line, after, rfl, balanced, rfl, rfl⟩ |
      ⟨rfl, before, opened, inner, line, rfl, rfl, balanced, rfl⟩)
    · exact ⟨before, opened, inner, line, after ++ [brace], by simp, balanced, rfl, rfl⟩
    · exact ⟨before, opened, inner, line, [], by simp, balanced, rfl, by simp [Nat.add_assoc]⟩

theorem partners_opening_iff {word : List Brace} {block : Block} {first second : Nat} :
    Partners (word ++ [.opening block]) first second ↔ Partners word first second := by
  rw [partners_snoc_iff]
  simp

/-- A closing brace is the partner of the last opening one since which the word is balanced. -/
theorem partners_closing_iff {outer inner : List Brace} (inside : Balanced inner) {block : Block}
    {line first second : Nat} :
    Partners (outer ++ .opening block :: inner ++ [.closing line]) first second ↔
      Partners (outer ++ .opening block :: inner) first second ∨
        second = (outer ++ .opening block :: inner).length ∧ first = outer.length := by
  rw [partners_snoc_iff]
  refine or_congr_right (and_congr_right fun _ => ⟨?_, ?_⟩)
  · rintro ⟨before, other, inner', _, -, same, inside', rfl⟩
    rw [opening_tail_unique same inside inside']
  · rintro rfl
    exact ⟨outer, block, inner, line, rfl, rfl, inside, rfl⟩

theorem getElem?_snoc_eq_some_iff {word : List Brace} {last brace : Brace} {place : Nat} :
    (word ++ [last])[place]? = some brace ↔
      word[place]? = some brace ∨ place = word.length ∧ last = brace := by
  rcases Nat.lt_trichotomy place word.length with less | rfl | more
  · simp [List.getElem?_append_left less, Nat.ne_of_lt less]
  · simp
  · have beyond : (word ++ [last])[place]? = none := by
      rw [List.getElem?_eq_none_iff, List.length_append, List.length_singleton]
      omega
    simp [beyond, List.getElem?_eq_none_iff.mpr (Nat.le_of_lt more), Nat.ne_of_gt more]

/-! ### Words cut at the braces without a partner -/

/-- A word is balanced parts and the braces between them. These are first closing ones and then
opening ones; both are given with their places, the opening ones from the last to the first. -/
inductive Cut : List Brace → List (Nat × Nat) → List (Nat × Block) → Prop
  | balanced {word : List Brace} (all : Balanced word) : Cut word [] []
  | stray {word rest : List Brace} {strays : List (Nat × Nat)} (line : Nat)
      (cut : Cut word strays []) (behind : Balanced rest) :
      Cut (word ++ .closing line :: rest) (strays ++ [(word.length, line)]) []
  | pending {word rest : List Brace} {strays : List (Nat × Nat)} {opened : List (Nat × Block)}
      (block : Block) (cut : Cut word strays opened) (behind : Balanced rest) :
      Cut (word ++ .opening block :: rest) strays ((word.length, block) :: opened)

namespace Cut

variable {word rest : List Brace} {strays : List (Nat × Nat)} {opened : List (Nat × Block)}

theorem append (cut : Cut word strays opened) (behind : Balanced rest) :
    Cut (word ++ rest) strays opened := by
  cases cut with
  | balanced all => exact .balanced (all.append behind)
  | stray line cut inside =>
    rw [List.append_assoc, List.cons_append]
    exact .stray line cut (inside.append behind)
  | pending block cut inside =>
    rw [List.append_assoc, List.cons_append]
    exact .pending block cut (inside.append behind)

/-- Where no block is open, no final part opens more than it closes. -/
theorem tailsClose (cut : Cut word strays []) : TailsClose word := by
  generalize closed : [] = opened at cut
  induction cut with
  | balanced all => exact all.tailsClose
  | stray line _ behind ih => exact (ih closed).closing behind behind.tailsClose line
  | pending => cases closed

theorem strays_pairwise (cut : Cut word strays opened) :
    strays.Pairwise (·.1 < ·.1) ∧ ∀ entry ∈ strays, entry.1 < word.length := by
  induction cut with
  | balanced => simp
  | stray line _ _ ih =>
    refine ⟨List.pairwise_append.mpr ⟨ih.1, List.pairwise_singleton _ _, by simpa using ih.2⟩, ?_⟩
    intro entry member
    rcases List.mem_append.mp member with earlier | last
    · have := ih.2 entry earlier
      simp only [List.length_append, List.length_cons]
      omega
    · simp [List.mem_singleton.mp last]
  | pending block _ _ ih =>
    refine ⟨ih.1, fun entry member => ?_⟩
    have := ih.2 entry member
    simp only [List.length_append, List.length_cons]
    omega

theorem opened_pairwise (cut : Cut word strays opened) :
    opened.Pairwise (·.1 > ·.1) ∧ ∀ entry ∈ opened, entry.1 < word.length := by
  induction cut with
  | balanced => simp
  | stray => simp
  | pending block _ _ ih =>
    refine ⟨List.pairwise_cons.mpr ⟨ih.2, ih.1⟩, fun entry member => ?_⟩
    simp only [List.length_append, List.length_cons]
    rcases List.mem_cons.mp member with rfl | earlier
    · exact Nat.lt_add_of_pos_right (Nat.succ_pos _)
    · have := ih.2 entry earlier
      omega

end Cut

/-- The braces of a word that have no partner. -/
structure Tally (word : List Brace) (strays : List (Nat × Nat)) (opened : List (Nat × Block)) :
    Prop where
  cut : Cut word strays opened
  strays_iff : ∀ place line, (place, line) ∈ strays ↔ StrayAt word place line
  opened_iff : ∀ place block, (place, block) ∈ opened ↔ OpenAt word place block

namespace Tally

variable {word : List Brace} {strays : List (Nat × Nat)} {opened : List (Nat × Block)}

theorem nil : Tally [] [] [] :=
  ⟨.balanced .nil, by simp [StrayAt], by simp [OpenAt]⟩

theorem opening (tally : Tally word strays opened) (block : Block) :
    Tally (word ++ [.opening block]) strays ((word.length, block) :: opened) where
  cut := .pending block tally.cut .nil
  strays_iff := by
    intro place line
    simp [tally.strays_iff, StrayAt, getElem?_snoc_eq_some_iff, partners_opening_iff]
  opened_iff := by
    intro place other
    have alone (second : Nat) : ¬ Partners word word.length second := fun partners => by
      have := partners.lt
      omega
    rw [List.mem_cons, tally.opened_iff, OpenAt, OpenAt, getElem?_snoc_eq_some_iff]
    simp only [partners_opening_iff, Prod.mk.injEq, Brace.opening.injEq, or_and_right]
    constructor
    · rintro (⟨rfl, rfl⟩ | earlier)
      · exact .inr ⟨⟨rfl, rfl⟩, alone⟩
      · exact .inl earlier
    · rintro (earlier | ⟨⟨rfl, rfl⟩, -⟩)
      · exact .inr earlier
      · exact .inl ⟨rfl, rfl⟩

/-- A closing brace is the partner of the last opening one that has none. -/
theorem closing {place : Nat} {block : Block}
    (tally : Tally word strays ((place, block) :: opened)) (line : Nat) :
    Tally (word ++ [.closing line]) strays opened := by
  obtain ⟨cut, strays_iff, opened_iff⟩ := tally
  -- The other open blocks were opened before, so the new brace is not their partner.
  have distinct := (List.pairwise_cons.mp cut.opened_pairwise.1).1
  cases cut with
  | @pending outer inner _ _ _ cut inside =>
    refine ⟨?_, ?_, ?_⟩
    · have closed := cut.append (inside.pair block line)
      simpa using closed
    · intro place other
      rw [strays_iff, StrayAt, StrayAt, getElem?_snoc_eq_some_iff]
      simp only [partners_closing_iff inside, not_or, not_and]
      constructor
      · rintro ⟨found, alone⟩
        refine ⟨.inl found, fun first => ⟨alone first, fun last => ?_⟩⟩
        have := (List.getElem?_eq_some_iff.mp found).1
        omega
      · rintro ⟨found | ⟨last, -⟩, alone⟩
        · exact ⟨found, fun first => (alone first).1⟩
        · exact absurd rfl ((alone outer.length).2 last)
    · intro place other
      have kept := opened_iff place other
      rw [List.mem_cons, OpenAt] at kept
      rw [OpenAt, getElem?_snoc_eq_some_iff]
      simp only [partners_closing_iff inside, not_or, not_and, reduceCtorEq, and_false, or_false]
      constructor
      · intro member
        obtain ⟨found, alone⟩ := kept.mp (.inr member)
        have before : place < outer.length := distinct _ member
        exact ⟨found, fun second => ⟨alone second, fun _ => Nat.ne_of_lt before⟩⟩
      · rintro ⟨found, alone⟩
        rcases kept.mpr ⟨found, fun second => (alone second).1⟩ with same | member
        · exact absurd (Prod.mk.inj same).1 ((alone _).2 rfl)
        · exact member

/-- Where no block is open, a closing brace has no partner. -/
theorem stray (tally : Tally word strays []) (line : Nat) :
    Tally (word ++ [.closing line]) (strays ++ [(word.length, line)]) [] := by
  have partners_iff {first second : Nat} :
      Partners (word ++ [.closing line]) first second ↔ Partners word first second := by
    rw [partners_snoc_iff]
    refine or_iff_left ?_
    rintro ⟨-, before, block, inner, _, -, split, inside, -⟩
    exact tally.cut.tailsClose.ne_append_opening inside split
  refine ⟨.stray line tally.cut .nil, ?_, ?_⟩
  · intro place other
    have alone (first : Nat) : ¬ Partners word first word.length := fun partners => by
      have := partners.lt
      omega
    rw [List.mem_append, List.mem_singleton, tally.strays_iff, StrayAt, StrayAt,
      getElem?_snoc_eq_some_iff]
    simp only [partners_iff, Prod.mk.injEq, Brace.closing.injEq, or_and_right]
    refine or_congr_right ⟨?_, ?_⟩
    · rintro ⟨rfl, rfl⟩
      exact ⟨⟨rfl, rfl⟩, alone⟩
    · rintro ⟨⟨rfl, rfl⟩, -⟩
      exact ⟨rfl, rfl⟩
  · intro place block
    rw [tally.opened_iff, OpenAt, OpenAt, getElem?_snoc_eq_some_iff]
    simp [partners_iff]

theorem listsInOrder_strays (tally : Tally word strays opened) :
    ListsInOrder (StrayAt word) (strays.map (·.2)) :=
  ⟨strays, tally.cut.strays_pairwise.1, tally.strays_iff, rfl⟩

theorem listsInOrder_opened (tally : Tally word strays opened) :
    ListsInOrder (OpenAt word) (opened.map (·.2)).reverse := by
  refine ⟨opened.reverse, List.pairwise_reverse.mpr tally.cut.opened_pairwise.1, ?_, ?_⟩
  · simpa using tally.opened_iff
  · rw [List.map_reverse]

end Tally

end StoryScript.Script
