import Mathlib.Data.List.Induction
import StoryScript.Proofs.BraceMatching
import StoryScript.Proofs.Braces
import StoryScript.Proofs.Marks

/-! The scan of blocks. The braces of a source are read as one word, with a stack of the open blocks
and a separate count of the conditional ones. The scan finds exactly the braces that have no partner,
and at every point its count is the number of conditional blocks on the stack. -/
namespace StoryScript.Script

namespace Nesting

@[simp] theorem ofBraces_snoc (word : List Brace) (brace : Brace) :
    ofBraces (word ++ [brace]) = (ofBraces word).step brace := by
  simp [ofBraces]

@[simp] theorem stack_step_opening (nesting : Nesting) (block : Block) :
    (nesting.step (.opening block)).stack = block :: nesting.stack := by
  simp only [step]
  split <;> rfl

@[simp] theorem unmatched_step_opening (nesting : Nesting) (block : Block) :
    (nesting.step (.opening block)).unmatched = nesting.unmatched := by
  simp only [step]
  split <;> rfl

theorem step_closing_nil {nesting : Nesting} (empty : nesting.stack = []) (line : Nat) :
    nesting.step (.closing line) = { nesting with unmatched := nesting.unmatched ++ [line] } := by
  simp only [step, empty]

theorem step_closing_cons {nesting : Nesting} {block : Block} {outer : List Block}
    (top : nesting.stack = block :: outer) (line : Nat) :
    nesting.step (.closing line) = { nesting with
      stack := outer
      depth := if block.kind = .conditional then nesting.depth - 1 else nesting.depth } := by
  simp only [step, top]

@[simp] theorem openings_step_closing (nesting : Nesting) (line : Nat) :
    (nesting.step (.closing line)).openings = nesting.openings := by
  simp only [step]
  split <;> rfl

@[simp] theorem maxDepth_step_closing (nesting : Nesting) (line : Nat) :
    (nesting.step (.closing line)).maxDepth = nesting.maxDepth := by
  simp only [step]
  split <;> rfl

/-! ### Braces without a partner -/

/-- The stack and the unmatched lines are what has no partner. -/
theorem exists_tally (word : List Brace) : ∃ strays opened, Tally word strays opened ∧
    (ofBraces word).unmatched = strays.map (·.2) ∧ (ofBraces word).stack = opened.map (·.2) := by
  induction word using List.reverseRecOn with
  | nil => exact ⟨[], [], .nil, rfl, rfl⟩
  | append_singleton word brace ih =>
    obtain ⟨strays, opened, tally, unmatched, stack⟩ := ih
    rw [ofBraces_snoc]
    cases brace with
    | opening block => exact ⟨_, _, tally.opening block, by simp [unmatched], by simp [stack]⟩
    | closing line =>
      cases opened with
      | nil =>
        refine ⟨_, _, tally.stray line, ?_⟩
        simp [step_closing_nil stack, unmatched, stack]
      | cons entry opened =>
        obtain ⟨place, block⟩ := entry
        refine ⟨_, _, tally.closing line, ?_⟩
        simp [step_closing_cons stack, unmatched]

theorem listsInOrder_unmatched (word : List Brace) :
    ListsInOrder (StrayAt word) (ofBraces word).unmatched := by
  obtain ⟨strays, opened, tally, unmatched, -⟩ := exists_tally word
  exact unmatched ▸ tally.listsInOrder_strays

theorem listsInOrder_stack (word : List Brace) :
    ListsInOrder (OpenAt word) (ofBraces word).stack.reverse := by
  obtain ⟨strays, opened, tally, -, stack⟩ := exists_tally word
  exact stack ▸ tally.listsInOrder_opened

theorem foldl_step_of_balanced {word : List Brace} (balanced : Balanced word) (nesting : Nesting) :
    (word.foldl step nesting).stack = nesting.stack ∧
      (word.foldl step nesting).unmatched = nesting.unmatched := by
  induction balanced generalizing nesting with
  | nil => exact ⟨rfl, rfl⟩
  | block opened line _ _ ihInner ihRest =>
    obtain ⟨stack, unmatched⟩ := ihInner (nesting.step (.opening opened))
    rw [stack_step_opening] at stack
    rw [List.foldl_cons, List.foldl_append, List.foldl_cons, (ihRest _).1, (ihRest _).2,
      step_closing_cons stack]
    exact ⟨rfl, by simp [unmatched]⟩

theorem nothing_left_iff_balanced (word : List Brace) :
    (ofBraces word).unmatched = [] ∧ (ofBraces word).stack = [] ↔ Balanced word := by
  constructor
  · rintro ⟨noStray, noneOpen⟩
    obtain ⟨strays, opened, tally, unmatched, stack⟩ := exists_tally word
    have cut := tally.cut
    rw [List.map_eq_nil_iff.mp (stack.symm.trans noneOpen)] at cut
    have noStray := List.map_eq_nil_iff.mp (unmatched.symm.trans noStray)
    -- Without braces between them, the balanced parts of the word are only one.
    cases cut with
    | balanced all => exact all
    | stray => simp at noStray
  · intro balanced
    obtain ⟨stack, unmatched⟩ := foldl_step_of_balanced balanced start
    exact ⟨unmatched, stack⟩

theorem countChar_add_length (word : List Brace) :
    countChar '{' word + (ofBraces word).unmatched.length =
      countChar '}' word + (ofBraces word).stack.length := by
  induction word using List.reverseRecOn with
  | nil => rfl
  | append_singleton word brace ih =>
    cases brace with
    | opening block =>
      simp only [ofBraces_snoc, stack_step_opening, unmatched_step_opening, countChar_append,
        countChar_opening_cons, countChar_other_opening_cons, countChar_nil, List.length_cons]
      omega
    | closing line =>
      cases stack : (ofBraces word).stack with
      | nil =>
        simp only [stack, List.length_nil] at ih
        simp only [ofBraces_snoc, step_closing_nil stack, stack, countChar_append,
          countChar_closing_cons, countChar_other_closing_cons, countChar_nil, List.length_append,
          List.length_cons, List.length_nil]
        omega
      | cons block outer =>
        simp only [stack, List.length_cons] at ih
        simp only [ofBraces_snoc, step_closing_cons stack, countChar_append, countChar_closing_cons,
          countChar_other_closing_cons, countChar_nil]
        omega

/-! ### Depths -/

def openConditionals (nesting : Nesting) : Nat :=
  nesting.stack.countP (·.kind == .conditional)

theorem depth_step {nesting : Nesting} (counted : nesting.depth = nesting.openConditionals)
    (brace : Brace) : (nesting.step brace).depth = (nesting.step brace).openConditionals := by
  cases brace with
  | opening block =>
    by_cases conditional : block.kind = .conditional
    · simp [step, openConditionals, conditional, counted]
    · simp [step, openConditionals, conditional, counted]
  | closing line =>
    cases stack : nesting.stack with
    | nil => simpa [step_closing_nil stack, openConditionals] using counted
    | cons block outer =>
      rw [openConditionals, stack] at counted
      by_cases conditional : block.kind = .conditional
      · simp [step_closing_cons stack, openConditionals, conditional, counted]
      · simpa [step_closing_cons stack, openConditionals, conditional] using counted

theorem depth_ofBraces (word : List Brace) :
    (ofBraces word).depth = (ofBraces word).openConditionals := by
  induction word using List.reverseRecOn with
  | nil => rfl
  | append_singleton word brace ih =>
    rw [ofBraces_snoc]
    exact depth_step ih brace

theorem maxDepth_ofBraces (word : List Brace) : (ofBraces word).maxDepth =
    ((ofBraces word).openings.map (·.depth)).foldl max 0 := by
  induction word using List.reverseRecOn with
  | nil => rfl
  | append_singleton word brace ih =>
    rw [ofBraces_snoc]
    cases brace with
    | opening block =>
      by_cases conditional : block.kind = .conditional
      · simp [step, conditional, ih]
      · simpa [step, conditional] using ih
    | closing line => simpa using ih

/-- The state in which the first braces of a word are read. -/
def after (word : List Brace) (count : Nat) : Nesting := ofBraces (word.take count)

theorem after_succ {word : List Brace} {count : Nat} {brace : Brace}
    (next : word[count]? = some brace) :
    after word (count + 1) = (after word count).step brace := by
  rw [after, List.take_add_one, next, Option.toList_some, ofBraces_snoc, after]

theorem after_append {word : List Brace} {count : Nat} (inside : count ≤ word.length)
    (rest : List Brace) : after (word ++ rest) count = after word count := by
  rw [after, List.take_append_of_le_length inside, after]

theorem after_of_length_le {word : List Brace} {count : Nat} (all : word.length ≤ count) :
    after word count = ofBraces word := by
  rw [after, List.take_of_length_le all]

theorem depth_after_closing {word : List Brace} {count line : Nat} {block : Block}
    {outer : List Block} (next : word[count]? = some (.closing line))
    (top : (after word count).stack = block :: outer) (conditional : block.kind = .conditional) :
    (after word (count + 1)).depth + 1 = (after word count).depth := by
  -- The block on top is among those that are counted, so the subtraction takes one away.
  have counted : (after word count).depth = outer.countP (·.kind == .conditional) + 1 := by
    rw [after, depth_ofBraces, ← after, openConditionals, top]
    simp [conditional]
  rw [after_succ next, step_closing_cons top]
  simp only [conditional, if_true]
  omega

end Nesting

/-- A conditional block opens at the place: its line, and how many conditional blocks are open when
it is read. -/
def ConditionalAt (word : List Brace) (place : Nat) (opening : Opening) : Prop :=
  ∃ block, word[place]? = some (.opening block) ∧ block.kind = .conditional ∧
    opening = ⟨block.line, (Nesting.after word (place + 1)).openConditionals⟩

theorem ConditionalAt.lt {word : List Brace} {place : Nat} {opening : Opening}
    (conditionalAt : ConditionalAt word place opening) : place < word.length := by
  obtain ⟨block, found, -⟩ := conditionalAt
  exact (List.getElem?_eq_some_iff.mp found).1

theorem conditionalAt_snoc_iff {word : List Brace} {brace : Brace} {place : Nat}
    {opening : Opening} : ConditionalAt (word ++ [brace]) place opening ↔
      ConditionalAt word place opening ∨ place = word.length ∧ ∃ block, brace = .opening block ∧
        block.kind = .conditional ∧
          opening = ⟨block.line, (Nesting.ofBraces (word ++ [brace])).openConditionals⟩ := by
  have last : Nesting.after (word ++ [brace]) (word.length + 1) = .ofBraces (word ++ [brace]) :=
    Nesting.after_of_length_le (by simp)
  constructor
  · rintro ⟨block, found, conditional, rfl⟩
    rcases getElem?_snoc_eq_some_iff.mp found with earlier | ⟨rfl, rfl⟩
    · have inside := (List.getElem?_eq_some_iff.mp earlier).1
      exact .inl ⟨block, earlier, conditional, by rw [Nesting.after_append inside]⟩
    · exact .inr ⟨rfl, block, rfl, conditional, by rw [last]⟩
  · rintro (earlier | ⟨rfl, block, rfl, conditional, rfl⟩)
    · have inside := earlier.lt
      obtain ⟨block, found, conditional, rfl⟩ := earlier
      exact ⟨block, getElem?_snoc_eq_some_iff.mpr (.inl found), conditional,
        by rw [Nesting.after_append inside]⟩
    · exact ⟨block, getElem?_snoc_eq_some_iff.mpr (.inr ⟨rfl, rfl⟩), conditional, by rw [last]⟩

/-- The scan records each conditional block that opens, with its depth. -/
theorem Nesting.listsInOrder_openings (word : List Brace) :
    ListsInOrder (ConditionalAt word) (ofBraces word).openings := by
  induction word using List.reverseRecOn with
  | nil => exact ⟨[], List.Pairwise.nil, by simp [ConditionalAt], rfl⟩
  | append_singleton word brace ih =>
    cases brace with
    | opening block =>
      by_cases conditional : block.kind = .conditional
      · have openings : (ofBraces (word ++ [.opening block])).openings = (ofBraces word).openings ++
            [⟨block.line, (ofBraces (word ++ [.opening block])).openConditionals⟩] := by
          rw [← depth_ofBraces]
          simp [step, conditional]
        rw [openings]
        refine ih.snoc (fun _ _ => ConditionalAt.lt) fun place opening => ?_
        simp [conditionalAt_snoc_iff, conditional]
      · have openings : (ofBraces (word ++ [.opening block])).openings =
            (ofBraces word).openings := by
          simp [step, conditional]
        rw [openings]
        refine ih.congr fun place opening => ?_
        simp [conditionalAt_snoc_iff, conditional]
    | closing line =>
      rw [ofBraces_snoc, openings_step_closing]
      refine ih.congr fun place opening => ?_
      simp [conditionalAt_snoc_iff]

/-! ### The braces of a source -/

theorem char_bracesFrom (line : Nat) (kind : BlockKind) (text : List Char) :
    (bracesFrom line kind text).map (fun brace => (brace.char, brace.line)) =
      (text.filter fun c => c == '{' || c == '}').map (·, line) := by
  fun_induction bracesFrom line kind text with
  | case1 => rfl
  | case2 kind rest ih => simpa [Brace.char, Brace.line] using ih
  | case3 kind rest _ ih => simpa [Brace.char, Brace.line] using ih
  | case4 kind c rest notOpening notClosing ih => simp [ih, notOpening, notClosing]

theorem bracesOn_of_isBlank {line : Line} (isBlank : Text.isBlank line.text) :
    bracesOn line = [] := by
  have blank : Blank line.text.toList := List.all_eq_true.mp isBlank
  have noOpening : '{' ∉ line.text.toList := blank.notMem (by decide)
  have strings := removeStrings_append (blank.notMem (by decide)) []
  have markers := removeMarkers_append noOpening []
  have braces := bracesFrom_append noOpening (blank.notMem (by decide)) line.number
    (openingKind line.text) []
  rw [List.append_nil] at strings markers braces
  rw [bracesOn, structuralText, strings, removeStrings, List.append_nil, markers, removeMarkers,
    List.append_nil, braces, bracesFrom]

/-- Blank lines may be read or not. -/
theorem bracesOf_eq (source : String) : bracesOf source = (uncommented source).flatMap bracesOn := by
  rw [bracesOf, codeOf]
  induction uncommented source with
  | nil => rfl
  | cons line rest ih =>
    by_cases blank : Text.isBlank line.text
    · simp [blank, ih, bracesOn_of_isBlank blank]
    · simp [blank, ih]

namespace Structure

theorem unmatched_ofSource (source : String) :
    (ofSource source).unmatched = (Nesting.ofBraces (bracesOf source)).unmatched := by
  simp only [ofSource, bracesOf]

theorem unclosed_ofSource (source : String) :
    (ofSource source).unclosed = (Nesting.ofBraces (bracesOf source)).stack.reverse := by
  simp only [ofSource, bracesOf]

theorem openings_ofSource (source : String) :
    (ofSource source).openings = (Nesting.ofBraces (bracesOf source)).openings := by
  simp only [ofSource, bracesOf]

theorem maxDepth_ofSource (source : String) :
    (ofSource source).maxDepth = (Nesting.ofBraces (bracesOf source)).maxDepth := by
  simp only [ofSource, bracesOf]

end Structure

/-- The scan of a source and its braces as one word. The lines that close nothing and the blocks that
are never closed are those of the braces without a partner, and there are none if the word is
balanced. At every point of the scan the stack holds the blocks that have no partner up to there, and
the depth is the number of conditional blocks on it; the scan records the depth at each of these as it
opens, and the maximum. -/
theorem scan_matches_braces (source : String) :
    (bracesOf source).map (fun brace => (brace.char, brace.line)) =
      (uncommented source).flatMap (fun line =>
        ((structuralText line.text).filter fun c => c == '{' || c == '}').map (·, line.number)) ∧
    ListsInOrder (StrayAt (bracesOf source)) (Structure.ofSource source).unmatched ∧
    ListsInOrder (OpenAt (bracesOf source)) (Structure.ofSource source).unclosed ∧
    countChar '{' (bracesOf source) + (Structure.ofSource source).unmatched.length =
      countChar '}' (bracesOf source) + (Structure.ofSource source).unclosed.length ∧
    ((Structure.ofSource source).unmatched = [] ∧ (Structure.ofSource source).unclosed = [] ↔
      Balanced (bracesOf source)) ∧
    (∀ count, ListsInOrder (OpenAt ((bracesOf source).take count))
        (Nesting.after (bracesOf source) count).stack.reverse ∧
      (Nesting.after (bracesOf source) count).depth =
        (Nesting.after (bracesOf source) count).openConditionals) ∧
    (∀ count line block outer, (bracesOf source)[count]? = some (.closing line) →
      (Nesting.after (bracesOf source) count).stack = block :: outer → block.kind = .conditional →
        (Nesting.after (bracesOf source) (count + 1)).depth + 1 =
          (Nesting.after (bracesOf source) count).depth) ∧
    ListsInOrder (ConditionalAt (bracesOf source)) (Structure.ofSource source).openings ∧
    (Structure.ofSource source).maxDepth =
      ((Structure.ofSource source).openings.map (·.depth)).foldl max 0 := by
  simp only [Structure.unmatched_ofSource, Structure.unclosed_ofSource,
    Structure.openings_ofSource, Structure.maxDepth_ofSource, List.length_reverse,
    List.reverse_eq_nil_iff]
  refine ⟨?_, Nesting.listsInOrder_unmatched _, Nesting.listsInOrder_stack _,
    Nesting.countChar_add_length _, Nesting.nothing_left_iff_balanced _, ?_, ?_,
    Nesting.listsInOrder_openings _, Nesting.maxDepth_ofBraces _⟩
  · simp only [bracesOf_eq, List.map_flatMap, bracesOn, char_bracesFrom]
  · intro count
    exact ⟨Nesting.listsInOrder_stack _, Nesting.depth_ofBraces _⟩
  · intro count line block outer next top conditional
    exact Nesting.depth_after_closing next top conditional

end StoryScript.Script
