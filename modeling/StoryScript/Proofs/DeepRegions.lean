import StoryScript.Proofs.BlockScan
import StoryScript.Proofs.Findings

/-! Regions that are nested too deep. The conditional depth changes by one at most from brace to
brace, so it passes the limit at the blocks that open one level too deep, and there is one warning for
each maximal stretch of braces beyond the limit. -/
namespace StoryScript.Script

/-- A stretch of places below the length at which the property holds, and that cannot be made
longer. -/
structure MaximalRun (length : Nat) (holds : Nat → Prop) (first last : Nat) : Prop where
  ordered : first ≤ last
  within : last < length
  throughout : ∀ place, first ≤ place → place ≤ last → holds place
  starts : first = 0 ∨ ¬ holds (first - 1)
  ends : last + 1 = length ∨ ¬ holds (last + 1)

namespace MaximalRun

variable {length first last first' last' : Nat} {holds : Nat → Prop}

theorem apart (run : MaximalRun length holds first last)
    (run' : MaximalRun length holds first' last') (less : first < first') : last < first' := by
  by_contra overlap
  rcases run'.starts with zero | gap
  · omega
  · exact gap (run.throughout (first' - 1) (by omega) (by omega))

theorem last_le (run : MaximalRun length holds first last)
    (run' : MaximalRun length holds first last') : last ≤ last' := by
  by_contra longer
  have ordered := run'.ordered
  have within := run.within
  rcases run'.ends with final | gap
  · omega
  · exact gap (run.throughout (last' + 1) (by omega) (by omega))

theorem last_unique (run : MaximalRun length holds first last)
    (run' : MaximalRun length holds first last') : last = last' :=
  Nat.le_antisymm (run.last_le run') (run'.last_le run)

theorem exists_last (inside : first < length) (held : holds first)
    (starts : first = 0 ∨ ¬ holds (first - 1)) : ∃ last, MaximalRun length holds first last := by
  classical
  -- The run goes up to the first gap, which is at the end of the word at the latest.
  have gap : ∃ place, first < place ∧ (place = length ∨ ¬ holds place) :=
    ⟨length, inside, .inl rfl⟩
  obtain ⟨beyond, stop⟩ := Nat.find_spec gap
  have before {place : Nat} (after : first < place) (less : place < Nat.find gap) :
      place ≠ length ∧ holds place := by
    simpa [after] using Nat.find_min gap less
  have upTo : Nat.find gap ≤ length := Nat.find_min' gap ⟨inside, .inl rfl⟩
  refine ⟨Nat.find gap - 1, by omega, by omega, ?_, starts, ?_⟩
  · intro place notBefore notAfter
    rcases Nat.lt_or_eq_of_le notBefore with after | rfl
    · exact (before after (by omega)).2
    · exact held
  · have next : Nat.find gap - 1 + 1 = Nat.find gap := by omega
    rwa [next]

theorem exists_of_holds {place : Nat} (inside : place < length) (held : holds place) :
    ∃ first last, MaximalRun length holds first last := by
  induction place with
  | zero => exact ⟨0, exists_last inside held (.inl rfl)⟩
  | succ place ih =>
    by_cases earlier : holds place
    · exact ih (Nat.lt_of_succ_lt inside) earlier
    · exact ⟨place + 1, exists_last inside held (.inr earlier)⟩

theorem exists_list {starts : List Nat} (ascending : starts.Pairwise (· < ·))
    (each : ∀ first, first ∈ starts ↔ ∃ last, MaximalRun length holds first last) :
    ∃ runs : List (Nat × Nat), runs.map (·.1) = starts ∧ runs.Pairwise (·.2 < ·.1) ∧
      ∀ first last, (first, last) ∈ runs ↔ MaximalRun length holds first last := by
  -- A run has one end, so the ends are a function of the starts.
  have one_end (first : Nat) :
      ∃ last, ∀ other, MaximalRun length holds first other → other = last := by
    by_cases some_run : ∃ last, MaximalRun length holds first last
    · obtain ⟨last, run⟩ := some_run
      exact ⟨last, fun _ other => other.last_unique run⟩
    · exact ⟨0, fun last run => absurd ⟨last, run⟩ some_run⟩
  choose lastOf isLast using one_end
  have run {first : Nat} (member : first ∈ starts) :
      MaximalRun length holds first (lastOf first) := by
    obtain ⟨last, run⟩ := (each first).mp member
    exact isLast first last run ▸ run
  refine ⟨starts.map fun first => (first, lastOf first), by simp [Function.comp_def], ?_, ?_⟩
  · refine List.pairwise_map.mpr (ascending.imp_of_mem ?_)
    intro first second member member' less
    exact (run member).apart (run member') less
  · intro first last
    rw [List.mem_map]
    constructor
    · rintro ⟨_, member, same⟩
      obtain ⟨rfl, rfl⟩ := Prod.mk.inj same
      exact run member
    · intro found
      exact ⟨first, (each first).mpr ⟨last, found⟩, by rw [isLast first last found]⟩

end MaximalRun

/-! ### Depths along a word -/

def depthAt (word : List Brace) (place : Nat) : Nat := (Nesting.after word (place + 1)).depth

/-- A maximal stretch of braces after which the conditional depth is beyond the limit. -/
def DeepStretch (limit : Nat) (word : List Brace) : Nat → Nat → Prop :=
  MaximalRun word.length fun place => limit < depthAt word place

theorem depthAt_conditional {word : List Brace} {place : Nat} {block : Block}
    (found : word[place]? = some (.opening block)) (conditional : block.kind = .conditional) :
    depthAt word place = (Nesting.after word place).depth + 1 := by
  rw [depthAt, Nesting.after_succ found]
  simp [Nesting.step, conditional]

theorem Nesting.depth_step_closing_le (nesting : Nesting) (line : Nat) :
    (nesting.step (.closing line)).depth ≤ nesting.depth := by
  cases stack : nesting.stack with
  | nil => simp [step_closing_nil stack]
  | cons block outer =>
    by_cases conditional : block.kind = .conditional
    · simp [step_closing_cons stack, conditional]
    · simp [step_closing_cons stack, conditional]

/-- The depth rises only where a conditional block opens. -/
theorem exists_conditional_of_lt {word : List Brace} {place : Nat} (inside : place < word.length)
    (rises : (Nesting.after word place).depth < depthAt word place) :
    ∃ block, word[place]? = some (.opening block) ∧ block.kind = .conditional := by
  have found := List.getElem?_eq_getElem inside
  rw [depthAt, Nesting.after_succ found] at rises
  cases brace : word[place] with
  | opening block =>
    refine ⟨block, by rw [found, brace], ?_⟩
    by_contra other
    simp [brace, Nesting.step, other] at rises
  | closing line =>
    rw [brace] at rises
    exact absurd rises (Nat.not_lt_of_le (Nesting.depth_step_closing_le _ line))

theorem depth_le_iff {word : List Brace} {limit place : Nat} :
    (Nesting.after word place).depth ≤ limit ↔ place = 0 ∨ ¬ limit < depthAt word (place - 1) := by
  cases place with
  | zero => simp [Nesting.after, Nesting.ofBraces, Nesting.start]
  | succ place => simp [depthAt]

/-- A deep stretch starts with a conditional block one level beyond the limit, and wherever such a
block opens one starts. -/
theorem exists_deepStretch_iff {limit first : Nat} {word : List Brace} :
    (∃ last, DeepStretch limit word first last) ↔
      ∃ block, word[first]? = some (.opening block) ∧ block.kind = .conditional ∧
        depthAt word first = limit + 1 := by
  constructor
  · rintro ⟨last, run⟩
    have low := depth_le_iff.mpr run.starts
    have high : limit < depthAt word first := run.throughout first (Nat.le_refl _) run.ordered
    have inside := Nat.lt_of_le_of_lt run.ordered run.within
    obtain ⟨block, found, conditional⟩ :=
      exists_conditional_of_lt inside (Nat.lt_of_le_of_lt low high)
    have next := depthAt_conditional found conditional
    exact ⟨block, found, conditional, by omega⟩
  · rintro ⟨block, found, conditional, depth⟩
    have next := depthAt_conditional found conditional
    have low : (Nesting.after word first).depth ≤ limit := by omega
    exact MaximalRun.exists_last (List.getElem?_eq_some_iff.mp found).1
      (by rw [depth]; exact Nat.lt_succ_self limit) (depth_le_iff.mp low)

theorem conditionalAt_iff {word : List Brace} {place : Nat} {opening : Opening} :
    ConditionalAt word place opening ↔ ∃ block, word[place]? = some (.opening block) ∧
      block.kind = .conditional ∧ opening = ⟨block.line, depthAt word place⟩ := by
  rw [ConditionalAt, depthAt, Nesting.after, Nesting.depth_ofBraces]

/-- The openings one level beyond the limit are the starts of the deep stretches. -/
theorem deep_openings (limit : Nat) (word : List Brace) : ∃ stretches : List (Nat × Nat),
    stretches.Pairwise (·.2 < ·.1) ∧
    (∀ first last, (first, last) ∈ stretches ↔ DeepStretch limit word first last) ∧
    List.Forall₂ (fun stretch opening => ConditionalAt word stretch.1 opening) stretches
      ((Nesting.ofBraces word).openings.filter (·.depth == limit + 1)) := by
  obtain ⟨entries, ascending, members, openings⟩ := Nesting.listsInOrder_openings word
  have starts (first : Nat) : first ∈ (entries.filter (·.2.depth == limit + 1)).map (·.1) ↔
      ∃ last, DeepStretch limit word first last := by
    rw [exists_deepStretch_iff, List.mem_map]
    constructor
    · rintro ⟨⟨place, opening⟩, member, rfl⟩
      obtain ⟨member, deep⟩ := List.mem_filter.mp member
      obtain ⟨block, found, conditional, rfl⟩ := conditionalAt_iff.mp ((members _ _).mp member)
      exact ⟨block, found, conditional, by simpa using deep⟩
    · rintro ⟨block, found, conditional, depth⟩
      refine ⟨(first, ⟨block.line, limit + 1⟩), List.mem_filter.mpr ⟨?_, by simp⟩, rfl⟩
      exact (members _ _).mpr (conditionalAt_iff.mpr ⟨block, found, conditional, by rw [depth]⟩)
  obtain ⟨stretches, places, apart, runs⟩ :=
    MaximalRun.exists_list (List.pairwise_map.mpr (ascending.filter _)) starts
  refine ⟨stretches, apart, runs, ?_⟩
  have paired : List.Forall₂ (ConditionalAt word) (stretches.map (·.1))
      ((entries.filter (·.2.depth == limit + 1)).map (·.2)) := by
    rw [places, List.forall₂_map_left_iff, List.forall₂_map_right_iff]
    refine List.forall₂_same.mpr fun entry member => ?_
    exact (members entry.1 entry.2).mp (List.mem_filter.mp member).1
  rw [openings, List.filter_map]
  exact List.forall₂_map_left_iff.mp paired

theorem lt_foldl_max_iff {limit start : Nat} {numbers : List Nat} :
    limit < numbers.foldl max start ↔ limit < start ∨ ∃ number ∈ numbers, limit < number := by
  induction numbers generalizing start with
  | nil => simp
  | cons number rest ih => simp [ih, or_assoc]

/-- The depth passes the limit somewhere if and only if the maximal depth is beyond it. -/
theorem exists_deepStretch_iff_lt_maxDepth {limit : Nat} {word : List Brace} :
    (∃ first last, DeepStretch limit word first last) ↔
      limit < (Nesting.ofBraces word).maxDepth := by
  obtain ⟨entries, -, members, openings⟩ := Nesting.listsInOrder_openings word
  rw [Nesting.maxDepth_ofBraces, lt_foldl_max_iff, openings]
  simp only [List.map_map, List.mem_map, Nat.not_lt_zero, false_or]
  constructor
  · rintro ⟨first, last, run⟩
    obtain ⟨block, found, conditional, depth⟩ := exists_deepStretch_iff.mp ⟨last, run⟩
    refine ⟨depthAt word first, ⟨(first, ⟨block.line, depthAt word first⟩), ?_, rfl⟩, by omega⟩
    exact (members _ _).mpr (conditionalAt_iff.mpr ⟨block, found, conditional, rfl⟩)
  · rintro ⟨_, ⟨⟨place, opening⟩, member, rfl⟩, deep⟩
    obtain ⟨block, found, -, rfl⟩ := conditionalAt_iff.mp ((members _ _).mp member)
    exact MaximalRun.exists_of_holds (List.getElem?_eq_some_iff.mp found).1 deep

end StoryScript.Script

namespace StoryScript.Report

open Script (bracesOf DeepStretch Structure)

/-- The warnings about deep nesting are, in order, one for each maximal stretch of braces after which
more conditional blocks are open than the limit allows, with the line of the brace that starts the
stretch. So there is one if and only if the maximal depth is beyond the limit. -/
theorem deepNesting_per_stretch (config : Config) (source : String) :
    (∃ stretches : List (Nat × Nat), stretches.Pairwise (·.2 < ·.1) ∧
      (∀ first last, (first, last) ∈ stretches ↔
        DeepStretch config.maxNestingDepth (bracesOf source) first last) ∧
      List.Forall₂ (fun stretch warning => ∃ block,
          (bracesOf source)[stretch.1]? = some (.opening block) ∧ warning.line = some block.line)
        stretches ((analyze config source).warnings.filter (·.kind == .deepNesting))) ∧
    ((∃ warning ∈ (analyze config source).warnings, warning.kind = .deepNesting) ↔
      config.maxNestingDepth < (Structure.ofSource source).maxDepth) := by
  obtain ⟨stretches, apart, members, starts⟩ :=
    Script.deep_openings config.maxNestingDepth (bracesOf source)
  have warned : List.Forall₂ (fun stretch warning => ∃ block,
      (bracesOf source)[stretch.1]? = some (.opening block) ∧ warning.line = some block.line)
      stretches ((analyze config source).warnings.filter (·.kind == .deepNesting)) := by
    rw [filter_warnings, checked, nestingWarnings, Structure.openings_ofSource,
      List.forall₂_map_right_iff]
    refine starts.imp ?_
    rintro stretch opening ⟨block, found, -, rfl⟩
    exact ⟨block, found, rfl⟩
  refine ⟨⟨stretches, apart, members, warned⟩, ?_⟩
  rw [Structure.maxDepth_ofSource, ← Script.exists_deepStretch_iff_lt_maxDepth]
  simp only [← members]
  have sameLength := warned.length_eq
  constructor
  · rintro ⟨warning, member, kind⟩
    have kept : warning ∈ (analyze config source).warnings.filter (·.kind == .deepNesting) :=
      List.mem_filter.mpr ⟨member, by simp [kind]⟩
    have kept := List.length_pos_of_mem kept
    rw [← sameLength] at kept
    obtain ⟨⟨first, last⟩, member⟩ := List.exists_mem_of_length_pos kept
    exact ⟨first, last, member⟩
  · rintro ⟨first, last, member⟩
    have kept := List.length_pos_of_mem member
    rw [sameLength] at kept
    obtain ⟨warning, member⟩ := List.exists_mem_of_length_pos kept
    obtain ⟨member, kind⟩ := List.mem_filter.mp member
    exact ⟨warning, member, beq_iff_eq.mp kind⟩

end StoryScript.Report
