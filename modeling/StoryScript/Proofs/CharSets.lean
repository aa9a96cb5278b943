import StoryScript.Proofs.CaseClasses
import StoryScript.Unicode.Property

/-! Sets of characters and their ranges. Membership is settled by comparing a character with the
borders of a set, so that it is the same at two characters with no border between them, and the ranges
that are read off the borders hold the members and nothing else. -/
namespace StoryScript.Unicode

/-! ### Ascending lists -/

namespace CharSet

theorem mem_insert {n m : Nat} {points : List Nat} : m ∈ insert n points ↔ m = n ∨ m ∈ points := by
  induction points with
  | nil => simp [insert]
  | cons first rest ih =>
    rw [insert]
    split
    · rw [List.mem_cons]
    · rw [List.mem_cons, List.mem_cons, ih, or_left_comm]

theorem pairwise_insert (n : Nat) {points : List Nat} (sorted : points.Pairwise (· ≤ ·)) :
    (insert n points).Pairwise (· ≤ ·) := by
  induction points with
  | nil => simp [insert]
  | cons first rest ih =>
    obtain ⟨least, sorted'⟩ := List.pairwise_cons.mp sorted
    rw [insert]
    split
    · rename_i le
      refine List.pairwise_cons.mpr ⟨fun m member => ?_, sorted⟩
      rcases List.mem_cons.mp member with rfl | member
      · exact le
      · exact Nat.le_trans le (least m member)
    · rename_i greater
      refine List.pairwise_cons.mpr ⟨fun m member => ?_, ih sorted'⟩
      rcases mem_insert.mp member with rfl | member
      · exact Nat.le_of_not_le greater
      · exact least m member

theorem mem_ascending {m : Nat} {points : List Nat} : m ∈ ascending points ↔ m ∈ points := by
  induction points with
  | nil => rfl
  | cons first rest ih => rw [List.mem_cons, ← ih, ascending, List.foldr_cons, mem_insert, ascending]

theorem pairwise_ascending (points : List Nat) : (ascending points).Pairwise (· ≤ ·) := by
  induction points with
  | nil => exact List.Pairwise.nil
  | cons first rest ih => exact pairwise_insert first ih

theorem mem_merge {m : Nat} {first second : List Nat} :
    m ∈ merge first second ↔ m ∈ first ∨ m ∈ second := by
  fun_induction merge first second with
  | case1 => simp
  | case2 => simp
  | case3 n first k second less ih => simp only [List.mem_cons, ih, or_assoc]
  | case4 n first k second _ less ih => simp only [List.mem_cons, ih, or_left_comm]
  | case5 n first k second le ge ih =>
    have same : n = k := by omega
    rw [List.mem_cons, ih, List.mem_cons, List.mem_cons, same, ← or_or_distrib_left]

theorem pairwise_merge {first second : List Nat} (sorted : first.Pairwise (· ≤ ·))
    (sorted' : second.Pairwise (· ≤ ·)) : (merge first second).Pairwise (· ≤ ·) := by
  fun_induction merge first second with
  | case1 => exact sorted'
  | case2 => exact sorted
  | case3 n first k second less ih =>
    obtain ⟨least, rest⟩ := List.pairwise_cons.mp sorted
    refine List.pairwise_cons.mpr ⟨fun m member => ?_, ih rest sorted'⟩
    rcases mem_merge.mp member with member | member
    · exact least m member
    · rcases List.mem_cons.mp member with rfl | member
      · exact Nat.le_of_lt less
      · exact Nat.le_trans (Nat.le_of_lt less) ((List.pairwise_cons.mp sorted').1 m member)
  | case4 n first k second _ less ih =>
    obtain ⟨least, rest⟩ := List.pairwise_cons.mp sorted'
    refine List.pairwise_cons.mpr ⟨fun m member => ?_, ih sorted rest⟩
    rcases mem_merge.mp member with member | member
    · rcases List.mem_cons.mp member with rfl | member
      · exact Nat.le_of_lt less
      · exact Nat.le_trans (Nat.le_of_lt less) ((List.pairwise_cons.mp sorted).1 m member)
    · exact least m member
  | case5 n first k second le ge ih =>
    obtain ⟨least, rest⟩ := List.pairwise_cons.mp sorted
    obtain ⟨least', rest'⟩ := List.pairwise_cons.mp sorted'
    refine List.pairwise_cons.mpr ⟨fun m member => ?_, ih rest rest'⟩
    rcases mem_merge.mp member with member | member
    · exact least m member
    · exact Nat.le_trans (Nat.le_of_not_lt ge) (least' m member)

theorem pairwise_borders (set : CharSet) : set.borders.Pairwise (· ≤ ·) := by
  induction set with
  | none => exact List.Pairwise.nil
  | only | anyCase | range | listed => exact pairwise_ascending _
  | union a b ihA ihB | inter a b ihA ihB | diff a b ihA ihB | symDiff a b ihA ihB =>
    exact pairwise_merge ihA ihB
  | compl a ih => exact ih
  | foldCase a ih | foldAscii a ih => exact pairwise_merge (pairwise_ascending _) ih

theorem mem_around {n : Nat} {points : List Nat} :
    n ∈ around points ↔ ∃ m ∈ points, n = m ∨ n = m + 1 := by
  simp [around, mem_ascending]

end CharSet

/-! ### Borders -/

/-- None of the borders lies between the two code points. -/
def Apart (borders : List Nat) (n m : Nat) : Prop := ∀ border ∈ borders, border ≤ n ↔ border ≤ m

namespace Apart

variable {borders borders' points : List Nat} {n m : Nat}

theorem symm (apart : Apart borders n m) : Apart borders m n :=
  fun border member => (apart border member).symm

theorem left (apart : Apart (CharSet.merge borders borders') n m) : Apart borders n m :=
  fun border member => apart border (CharSet.mem_merge.mpr (.inl member))

theorem right (apart : Apart (CharSet.merge borders borders') n m) : Apart borders' n m :=
  fun border member => apart border (CharSet.mem_merge.mpr (.inr member))

theorem eq_of_mem (apart : Apart (CharSet.around points) n m) (member : n ∈ points) : n = m := by
  have here := apart n (CharSet.mem_around.mpr ⟨n, member, .inl rfl⟩)
  have next := apart (n + 1) (CharSet.mem_around.mpr ⟨n, member, .inr rfl⟩)
  omega

theorem mem_iff (apart : Apart (CharSet.around points) n m) : n ∈ points ↔ m ∈ points := by
  constructor
  · intro member
    exact apart.eq_of_mem member ▸ member
  · intro member
    exact apart.symm.eq_of_mem member ▸ member

end Apart

namespace RunTable

variable {α β : Type} {table : RunTable α} {n m : Nat}

/-- Bisection sees no more of a table than which of its runs start at or before the code point. -/
theorem position_eq_position {other : RunTable β}
    (same : ∀ i : Nat, table.runs[i]?.map (fun run => decide (run.1 ≤ n)) =
      other.runs[i]?.map fun run => decide (run.1 ≤ m)) (lo hi : Nat) :
    table.position n lo hi = other.position m lo hi := by
  fun_induction table.position n lo hi with
  | case1 lo hi less middle start value found below ih =>
    have here := (same middle).symm
    rw [found, Option.map_some, decide_eq_true below] at here
    obtain ⟨run, found', below'⟩ := Option.map_eq_some_iff.mp here
    rw [ih, position.eq_def other m lo hi, dif_pos less]
    simp only [middle] at found'
    simp only [found', of_decide_eq_true below', if_true, middle]
  | case2 lo hi less middle start value found above ih =>
    have here := (same middle).symm
    rw [found, Option.map_some, decide_eq_false above] at here
    obtain ⟨run, found', above'⟩ := Option.map_eq_some_iff.mp here
    rw [ih, position.eq_def other m lo hi, dif_pos less]
    simp only [middle] at found'
    simp only [found', of_decide_eq_false above', if_false, middle]
  | case3 lo hi less middle found =>
    have here := (same middle).symm
    rw [found, Option.map_none, Option.map_eq_none_iff] at here
    rw [position.eq_def other m lo hi, dif_pos less]
    simp only [middle] at here
    simp only [here]
  | case4 lo hi done => rw [position, dif_neg done]

theorem position_congr (apart : Apart table.borders n m) (lo hi : Nat) :
    table.position n lo hi = table.position m lo hi := by
  refine position_eq_position (fun i => ?_) lo hi
  cases found : table.runs[i]? with
  | none => rfl
  | some run =>
    have border : run.1 ∈ table.borders :=
      List.mem_map.mpr ⟨_, Array.mem_toList_iff.mpr (Array.mem_of_getElem? found), rfl⟩
    exact congrArg some (decide_eq_decide.mpr (apart _ border))

theorem lookup_congr (apart : Apart table.borders n m) : table.lookup n = table.lookup m := by
  rw [lookup, lookup, position_congr apart]

end RunTable

/-! ### Characters that have no case -/

theorem FoldRun.mem_points {run : FoldRun} {n m : Nat} (image : run.image? n = some m) :
    n ∈ run.points ∧ m ∈ run.points := by
  obtain ⟨low, high, divides, rfl⟩ := FoldRun.image?_eq_some_iff.mp image
  have place : (n - run.first) / run.step * run.step = n - run.first :=
    Nat.div_mul_cancel (Nat.dvd_of_mod_eq_zero divides)
  have inside : (n - run.first) / run.step < (run.last - run.first) / run.step + 1 :=
    Nat.lt_succ_of_le (Nat.div_le_div_right (by omega))
  have start : run.first + (n - run.first) = n := by omega
  constructor <;>
    refine List.mem_flatMap.mpr ⟨(n - run.first) / run.step, List.mem_range.mpr inside, ?_⟩ <;>
    simp [place, start]

theorem caseVariants_eq_singleton {c : Char} (caseless : c.toNat ∉ casedPoints) :
    caseVariants c = [c] := by
  have related {run : FoldRun} {n m : Nat} (member : run ∈ foldRuns)
      (image : run.image? n = some m) : n ∈ casedPoints ∧ m ∈ casedPoints := by
    have points := FoldRun.mem_points image
    exact ⟨List.mem_flatMap.mpr ⟨run, member, points.1⟩,
      List.mem_flatMap.mpr ⟨run, member, points.2⟩⟩
  have fixed : fold c = c := by
    rcases fold_cases c with ⟨run, member, image⟩ | fixed
    · exact absurd (related member image).1 caseless
    · exact fixed
  have alone : foldRuns.filterMap (fun run => (run.preimage? c.toNat).map Char.ofNat) = [] := by
    refine List.filterMap_eq_nil_iff.mpr fun run member => ?_
    cases preimage : run.preimage? c.toNat with
    | none => rfl
    | some n =>
      exact absurd (related member (FoldRun.preimage?_eq_some_iff.mp preimage)).2 caseless
  rw [caseVariants, fixed, foldClass, alone]

namespace CharSet

variable {c d : Char}

theorem isUpper_eq_false (other : c.toNat ∉ asciiLetters) : c.isUpper = false := by
  refine Bool.eq_false_iff.mpr fun upper => other ?_
  have bounds : 'A'.val ≤ c.val ∧ c.val ≤ 'Z'.val := of_decide_eq_true upper
  have low : 0x41 ≤ c.toNat := UInt32.le_iff_toNat_le.mp bounds.1
  have high : c.toNat ≤ 0x5A := UInt32.le_iff_toNat_le.mp bounds.2
  exact List.mem_append_left _ (List.mem_range'_1.mpr (by omega))

theorem isLower_eq_false (other : c.toNat ∉ asciiLetters) : c.isLower = false := by
  refine Bool.eq_false_iff.mpr fun lower => other ?_
  have bounds : 'a'.val ≤ c.val ∧ c.val ≤ 'z'.val :=
    (Bool.and_eq_true_iff.mp lower).imp of_decide_eq_true of_decide_eq_true
  have low : 0x61 ≤ c.toNat := UInt32.le_iff_toNat_le.mp bounds.1
  have high : c.toNat ≤ 0x7A := UInt32.le_iff_toNat_le.mp bounds.2
  exact List.mem_append_right _ (List.mem_range'_1.mpr (by omega))

/-- Characters with no border of a set between them are members together. -/
theorem mem_congr (set : CharSet) (apart : Apart set.borders c.toNat d.toNat) :
    set.mem c = set.mem d := by
  induction set with
  | none => rfl
  | only e =>
    have same := apart.mem_iff
    simp only [List.mem_singleton, Char.toNat_inj] at same
    simpa [mem] using same
  | anyCase e =>
    have same := apart.mem_iff
    simp only [List.mem_map, Char.toNat_inj, exists_eq_right, mem_caseVariants_iff] at same
    simpa [mem] using same
  | range low high =>
    have first := apart low.toNat (by simp [borders, mem_ascending])
    have last := apart (high.toNat + 1) (by simp [borders, mem_ascending])
    simp only [mem, Char.le_def, UInt32.le_iff_toNat_le] at *
    simp only [Char.toNat] at first last
    have above : c.val.toNat ≤ high.val.toNat ↔ d.val.toNat ≤ high.val.toNat := by omega
    simp only [first, above]
  | listed points =>
    have apart' : Apart points.borders c.toNat d.toNat :=
      fun border member => apart border (mem_ascending.mpr member)
    rw [mem, mem, CodePoints.contains, CodePoints.contains, RunTable.lookup_congr apart']
  | union a b ihA ihB | inter a b ihA ihB | diff a b ihA ihB | symDiff a b ihA ihB =>
    simp only [mem, ihA apart.left, ihB apart.right]
  | compl a ih => simp only [mem, ih apart]
  | foldCase a ih =>
    by_cases cased : c.toNat ∈ casedPoints
    · rw [Char.toNat_inj.mp (apart.left.eq_of_mem cased)]
    · rw [mem, mem, caseVariants_eq_singleton cased,
        caseVariants_eq_singleton (mt apart.left.mem_iff.mpr cased), List.any_cons, List.any_cons,
        ih apart.right]
  | foldAscii a ih =>
    by_cases letter : c.toNat ∈ asciiLetters
    · rw [Char.toNat_inj.mp (apart.left.eq_of_mem letter)]
    · have letter' := mt apart.left.mem_iff.mpr letter
      simp only [mem, ih apart.right, isUpper_eq_false letter, isUpper_eq_false letter',
        isLower_eq_false letter, isLower_eq_false letter', Bool.false_and]

/-! ### Ranges -/

section

variable {member : Nat → Bool} {last n : Nat}

/-- Membership at `n` is that of the last of the given code points up to it. -/
def Settles (member : Nat → Bool) (starts : List Nat) (n : Nat) : Prop :=
  ∀ start ∈ starts, start ≤ n → (∀ other ∈ starts, other ≤ n → other ≤ start) →
    member start = member n

theorem Settles.tail {start : Nat} {later : List Nat} (settles : Settles member (start :: later) n)
    (first : ∀ other ∈ later, start ≤ other) : Settles member later n := by
  intro other among below greatest
  refine settles other (List.mem_cons_of_mem _ among) below fun third among' below' => ?_
  rcases List.mem_cons.mp among' with rfl | among'
  · exact first other among
  · exact greatest third among' below'

/-- A code point is in one of the ranges if the last border up to it is a member, or if there is no
border up to it and a range was started before. -/
theorem mem_runs_iff (inside : n ≤ last) {starts : List Nat} (ascending : starts.Pairwise (· ≤ ·))
    (settles : Settles member starts n) :
    ((∀ start ∈ starts.tail, 0 < start) →
      ((∃ range ∈ runs member last Option.none starts, range.1 ≤ n ∧ n ≤ range.2) ↔
        (∃ start ∈ starts, start ≤ n) ∧ member n)) ∧
    ∀ low, (∀ start ∈ starts, 0 < start ∧ low ≤ start) →
      ((∃ range ∈ runs member last (some low) starts, range.1 ≤ n ∧ n ≤ range.2) ↔
        low ≤ n ∧ ((∃ start ∈ starts, start ≤ n) → member n)) := by
  induction starts with
  | nil => simp [runs, inside]
  | cons start later ih =>
    obtain ⟨first, ascending⟩ := List.pairwise_cons.mp ascending
    obtain ⟨closed, opened⟩ := ih ascending (settles.tail first)
    -- If no later border is reached, the first one settles membership.
    have here (below : start ≤ n) (none : ¬ ∃ other ∈ later, other ≤ n) :
        member start = member n := by
      refine settles start List.mem_cons_self below fun other among below' => ?_
      rcases List.mem_cons.mp among with rfl | among
      · exact Nat.le_refl _
      · exact absurd ⟨other, among, below'⟩ none
    have reached : (∃ other ∈ start :: later, other ≤ n) ↔ start ≤ n := by
      constructor
      · rintro ⟨other, among, below⟩
        rcases List.mem_cons.mp among with rfl | among
        · exact below
        · exact Nat.le_trans (first other among) below
      · exact fun below => ⟨start, List.mem_cons_self, below⟩
    have ahead : (∃ other ∈ later, other ≤ n) → start ≤ n := by
      rintro ⟨other, among, below⟩
      exact Nat.le_trans (first other among) below
    refine ⟨fun positive => ?_, fun low bounds => ?_⟩
    · rw [List.tail_cons] at positive
      rw [runs, reached]
      split
      · rw [opened start fun other among => ⟨positive other among, first other among⟩]
        grind
      · rw [closed fun other among => positive other (List.mem_of_mem_tail among)]
        grind
    · have positive := (bounds start List.mem_cons_self).1
      have bounds' (other : Nat) (among : other ∈ later) := bounds other (List.mem_cons_of_mem _ among)
      rw [runs, reached]
      split
      · rw [opened low bounds']
        grind
      · have low_le := (bounds start List.mem_cons_self).2
        simp only [List.mem_cons, exists_eq_or_imp]
        rw [closed fun other among => (bounds' other (List.mem_of_mem_tail among)).1]
        grind

end

/-- The ranges of a set hold its members and nothing else. -/
theorem mem_rangesWithin_iff (set : CharSet) {first last : Nat}
    (valid : FoldRun.validBetween first last) (low : first ≤ c.toNat) (high : c.toNat ≤ last) :
    (∃ range ∈ set.rangesWithin first last, range.1 ≤ c.toNat ∧ c.toNat ≤ range.2) ↔ set.mem c := by
  let inner := set.borders.filter fun n => first < n && n ≤ last
  have bounds (n : Nat) : n ∈ inner ↔ n ∈ set.borders ∧ first < n ∧ n ≤ last := by
    simp [inner]
  have sorted : (first :: inner).Pairwise (· ≤ ·) :=
    List.pairwise_cons.mpr ⟨fun n member => Nat.le_of_lt ((bounds n).mp member).2.1,
      set.pairwise_borders.sublist List.filter_sublist⟩
  have settles : Settles (fun n => set.mem (Char.ofNat n)) (first :: inner)
      c.toNat := by
    intro start among below greatest
    have after : first ≤ start := by
      rcases List.mem_cons.mp among with rfl | among
      · exact Nat.le_refl _
      · exact Nat.le_of_lt ((bounds start).mp among).2.1
    have same : (Char.ofNat start).toNat = start :=
      toNat_ofNat_of_validBetween valid after (Nat.le_trans below high)
    simp only [Char.ofNat_toNat]
    refine set.mem_congr fun border member => ?_
    rw [same]
    refine ⟨fun le => Nat.le_trans le below, fun le => ?_⟩
    rcases Nat.lt_or_ge first border with less | le'
    · exact greatest border (List.mem_cons_of_mem _ ((bounds border).mpr ⟨member, less, by omega⟩)) le
    · exact Nat.le_trans le' after
  have positive : ∀ start ∈ (first :: inner).tail, 0 < start := by
    intro start among
    have := ((bounds start).mp among).2.1
    omega
  have covered := (mem_runs_iff high sorted settles).1 positive
  rw [rangesWithin, covered, Char.ofNat_toNat]
  exact and_iff_right ⟨first, List.mem_cons_self, low⟩

end CharSet

/-! ### Classes with a name

Word characters, digits and white space are asked for one by one on the lines of a script, and are
sets in patterns. -/

namespace RunTable

variable {α β : Type} (f : α → β) (table : RunTable α) (n : Nat)

theorem position_map (lo hi : Nat) : (table.map f).position n lo hi = table.position n lo hi := by
  refine position_eq_position (fun i => ?_) lo hi
  simp [map, Function.comp_def]

theorem lookup_map : (table.map f).lookup n = (table.lookup n).map f := by
  have size : (table.map f).runs.size = table.runs.size := by simp [map]
  rw [lookup, lookup, size, position_map]
  split
  · rfl
  · simp [map, Function.comp_def]

end RunTable

section

variable (c : Char)

theorem mem_ofCategory {test : Category → Bool} (unassigned : test .unassigned = false) :
    (ofCategory test).mem c = test (Category.of c) := by
  rw [ofCategory, CharSet.mem, CodePoints.contains, RunTable.lookup_map, Category.of]
  cases Category.table.lookup c.toNat <;> simp [unassigned]

theorem mem_range (low high : Char) :
    (CharSet.range low high).mem c = (low.toNat ≤ c.toNat && c.toNat ≤ high.toNat) := rfl

theorem mem_union (a b : CharSet) : (a.union b).mem c = (a.mem c || b.mem c) := rfl

theorem mem_diff (a b : CharSet) : (a.diff b).mem c = (a.mem c && !b.mem c) := rfl

theorem mem_whiteSpace : whiteSpace.mem c = isWhite c := by
  simp only [whiteSpace, CharSet.ofRanges, List.map_cons, List.map_nil, CharSet.anyOf, mem_union,
    mem_range, isWhite]
  rw [Bool.eq_iff_iff]
  simp only [Char.reduceToNat, Bool.or_eq_true, Bool.and_eq_true, decide_eq_true_eq, beq_iff_eq]
  omega

theorem mem_asciiWord : asciiWord.mem c = isAsciiWord c := by
  have underscore : ('_' ≤ c ∧ c ≤ '_') ↔ c = '_' :=
    ⟨fun ⟨low, high⟩ => Char.le_antisymm high low, by rintro rfl; simp⟩
  simp only [asciiWord, CharSet.ofRanges, List.map_cons, List.map_nil, CharSet.anyOf, mem_union,
    CharSet.mem, isAsciiWord]
  rw [Bool.eq_iff_iff]
  simp [underscore, or_assoc]

theorem mem_wordSymbols : wordSymbols.mem c = isWordSymbol c := by
  simp only [wordSymbols, CharSet.ofRanges, List.map_cons, List.map_nil, CharSet.anyOf, mem_union,
    mem_range, isWordSymbol]
  rw [Bool.eq_iff_iff]
  simp only [Char.reduceToNat, Bool.or_eq_true, Bool.and_eq_true, decide_eq_true_eq, beq_iff_eq]
  omega

theorem mem_ascii : ascii.mem c = decide (c.toNat < 128) := by
  simp only [ascii, mem_range, Char.reduceToNat, Nat.zero_le, decide_true, Bool.true_and]
  exact decide_eq_decide.mpr Nat.lt_succ_iff.symm

theorem mem_decimal : decimal.mem c = isDecimal c := by
  rw [decimal, mem_union, mem_diff, mem_ofCategory c rfl, mem_ascii, isDecimal, asciiDigit]
  split
  · simp [*, CharSet.mem]
  · rename_i beyond
    have other : (CharSet.range '0' '9').mem c = false := by
      simp only [mem_range, Char.reduceToNat, Bool.and_eq_false_iff, decide_eq_false_iff_not]
      omega
    simp [beyond, other]

theorem isAsciiWord_eq_false {c : Char} (beyond : ¬ c.toNat < 128) : isAsciiWord c = false := by
  rw [← mem_asciiWord]
  simp only [asciiWord, CharSet.ofRanges, List.map_cons, List.map_nil, CharSet.anyOf, mem_union,
    mem_range, Char.reduceToNat, Bool.or_eq_false_iff, Bool.and_eq_false_iff, decide_eq_false_iff_not]
  omega

theorem mem_word : word.mem c = isWord c := by
  rw [word, mem_union, mem_diff, mem_union, mem_union, mem_ofCategory c rfl, mem_ascii, mem_asciiWord,
    mem_whiteSpace, mem_wordSymbols, isWord]
  split
  · simp [*]
  · rename_i beyond
    rw [isAsciiWord_eq_false beyond]
    split <;> simp [*]

end

end StoryScript.Unicode
