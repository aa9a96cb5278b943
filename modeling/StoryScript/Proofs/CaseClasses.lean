import Mathlib.Data.List.Chain
import Mathlib.Tactic.ByContra
import StoryScript.Unicode.CaseFolding

/-! Classes of characters that are equal up to case. The runs of the folding table do not overlap, so
a code point is folded by one run at most, and no image is folded again. Therefore the class that is
listed for a character holds exactly the characters with the same folding. -/
namespace StoryScript.Unicode

/-! ### Looking up a code point -/

namespace RunTable

variable {α : Type} {table : RunTable α} {n : Nat}

theorem position_le (table : RunTable α) (n : Nat) {lo hi : Nat} (le : lo ≤ hi) :
    table.position n lo hi ≤ hi := by
  fun_induction table.position n lo hi with
  | case1 lo hi less middle start _ found below ih =>
    have : middle < hi := by omega
    exact ih (by omega)
  | case2 lo hi less middle start _ found above ih =>
    have : middle < hi := by omega
    exact Nat.le_trans (ih (by omega)) (by omega)
  | case3 => exact le
  | case4 => exact le

theorem start_le (ascending : table.runs.toList.Pairwise (·.1 < ·.1)) {i j : Nat}
    {entry entry' : Nat × α} (found : table.runs[i]? = some entry)
    (found' : table.runs[j]? = some entry') (le : i ≤ j) : entry.1 ≤ entry'.1 := by
  simp only [← Array.getElem?_toList, List.getElem?_eq_some_iff] at found found'
  obtain ⟨inside, rfl⟩ := found
  obtain ⟨inside', rfl⟩ := found'
  rcases Nat.lt_or_eq_of_le le with less | rfl
  · exact Nat.le_of_lt (List.pairwise_iff_getElem.mp ascending i j inside inside' less)
  · exact Nat.le_refl _

/-- Bisection counts the runs that start at or before a code point. -/
theorem lt_position_iff (ascending : table.runs.toList.Pairwise (·.1 < ·.1)) {lo hi : Nat}
    (inside : hi ≤ table.runs.size)
    (below : ∀ {i entry}, table.runs[i]? = some entry → i < lo → entry.1 ≤ n)
    (above : ∀ {i entry}, table.runs[i]? = some entry → hi ≤ i → n < entry.1)
    {i : Nat} {entry : Nat × α} (found : table.runs[i]? = some entry) :
    i < table.position n lo hi ↔ entry.1 ≤ n := by
  fun_induction table.position n lo hi with
  | case1 lo hi less middle start _ atMiddle starts ih =>
    refine ih inside (fun found early => ?_) above
    exact Nat.le_trans (start_le ascending found atMiddle (by omega)) starts
  | case2 lo hi less middle start _ atMiddle starts ih =>
    refine ih (by omega) below fun found late => ?_
    exact Nat.lt_of_lt_of_le (by simpa using starts) (start_le ascending atMiddle found late)
  | case3 lo hi less middle missing =>
    have := Array.getElem?_eq_none_iff.mp missing
    omega
  | case4 lo hi done =>
    constructor
    · exact below found
    · intro starts
      by_contra late
      have := above found (by omega)
      omega

/-- A code point between the starts of a run and of the next one has the value of the run. -/
theorem lookup_eq_some (ascending : table.runs.toList.Pairwise (·.1 < ·.1)) {i : Nat}
    {entry : Nat × α} (found : table.runs[i]? = some entry) (low : entry.1 ≤ n)
    (high : ∀ entry', table.runs[i + 1]? = some entry' → n < entry'.1) :
    table.lookup n = some entry.2 := by
  have count {j : Nat} {other : Nat × α} (at_j : table.runs[j]? = some other) :
      j < table.position n 0 table.runs.size ↔ other.1 ≤ n := by
    refine lt_position_iff ascending (Nat.le_refl _) ?_ ?_ at_j
    · exact fun _ early => absurd early (Nat.not_lt_zero _)
    · intro j other at_j late
      have := (Array.getElem?_eq_some_iff.mp at_j).1
      omega
  have most := table.position_le n (Nat.zero_le table.runs.size)
  have exactly : table.position n 0 table.runs.size = i + 1 := by
    have this_one := (count found).mpr low
    by_contra other
    have inside : i + 1 < table.runs.size := by omega
    have next := Array.getElem?_eq_getElem inside
    have := (count next).mp (by omega)
    have := high _ next
    omega
  rw [lookup, exactly]
  simp [found]

theorem exists_of_lookup {value : α} (found : table.lookup n = some value) :
    ∃ start, (start, value) ∈ table.runs.toList := by
  unfold lookup at found
  split at found
  · cases found
  · obtain ⟨⟨start, _⟩, atPlace, rfl⟩ := Option.map_eq_some_iff.mp found
    exact ⟨start, List.mem_of_getElem? (by rwa [Array.getElem?_toList])⟩

end RunTable

/-! ### The runs of the folding table -/

namespace FoldRun

variable {run other : FoldRun} {n m : Nat}

theorem image?_eq_some_iff : run.image? n = some m ↔ run.first ≤ n ∧ n ≤ run.last ∧
    (n - run.first) % run.step = 0 ∧ m = run.target + (n - run.first) := by
  simp only [image?, Option.ite_none_right_eq_some, Option.some.injEq, and_assoc]
  exact and_congr_right' (and_congr_right' (and_congr_right' eq_comm))

theorem preimage?_eq_some_iff : run.preimage? m = some n ↔ run.image? n = some m := by
  simp only [image?_eq_some_iff, preimage?, Option.ite_none_right_eq_some, Option.some.injEq]
  constructor
  · rintro ⟨⟨low, high, divides⟩, rfl⟩
    refine ⟨by omega, high, by rwa [Nat.add_sub_cancel_left], by omega⟩
  · rintro ⟨low, high, divides, rfl⟩
    rw [Nat.add_sub_cancel_left]
    exact ⟨⟨by omega, by omega, divides⟩, by omega⟩

/-- All code points from one up to another are characters. -/
def validBetween (first last : Nat) : Bool :=
  last < 0xD800 || 0xDFFF < first && last < 0x110000

def sound (run : FoldRun) : Bool :=
  0x61 ≤ run.target && validBetween run.first run.last &&
    validBetween run.target (run.target + (run.last - run.first)) &&
    (128 ≤ run.first || run.first == 0x41 && run.last == 0x5A && run.step == 1 && run.target == 0x61)

def Precedes (run other : FoldRun) : Prop := run.first ≤ run.last ∧ run.last < other.first

instance : DecidableRel Precedes := fun _ _ => inferInstanceAs (Decidable (_ ∧ _))

instance : Trans Precedes Precedes Precedes :=
  ⟨fun first second => ⟨first.1, by have := first.2; have := second.1; have := second.2; omega⟩⟩

/-- The other run folds no image of the run: it does not reach there, or it takes every other code
point and the images are those in between. -/
def missesImages (other run : FoldRun) : Bool :=
  Nat.blt (run.target + (run.last - run.first)) other.first || Nat.blt other.last run.target ||
    ((Nat.beq run.step 2 || Nat.beq run.first run.last) && Nat.beq other.step 2 &&
      Nat.beq ((run.target + other.first) % 2) 1)

theorem image?_of_missesImages (misses : other.missesImages run) (image : run.image? n = some m) :
    other.image? m = none := by
  obtain ⟨low, high, divides, rfl⟩ := image?_eq_some_iff.mp image
  by_contra folded
  obtain ⟨again, image'⟩ := Option.ne_none_iff_exists'.mp folded
  obtain ⟨low', high', divides', -⟩ := image?_eq_some_iff.mp image'
  simp only [missesImages, Bool.or_eq_true, Bool.and_eq_true, Nat.blt_eq, Nat.beq_eq] at misses
  rcases misses with (before | behind) | ⟨⟨even | single, step⟩, odd⟩
  · omega
  · omega
  · rw [even] at divides
    rw [step] at divides'
    omega
  · rw [step] at divides'
    omega

end FoldRun

/-! The table as it stands. -/

theorem foldRuns_sound : foldRuns.all FoldRun.sound := by decide +kernel

theorem foldRuns_isChain : foldRuns.IsChain FoldRun.Precedes := by decide +kernel

theorem foldRuns_missImages :
    foldRuns.all (fun run => foldRuns.all fun other => other.missesImages run) := by
  decide +kernel

/-! ### Folding a character -/

variable {run : FoldRun} {n m : Nat} {c d : Char}

theorem toNat_ofNat_of_validBetween {first last : Nat} (valid : FoldRun.validBetween first last)
    (low : first ≤ n) (high : n ≤ last) : (Char.ofNat n).toNat = n := by
  simp only [FoldRun.validBetween, Bool.or_eq_true, Bool.and_eq_true, decide_eq_true_eq] at valid
  have isChar : n.isValidChar := by
    rw [Nat.isValidChar]
    omega
  rw [Char.ofNat, dif_pos isChar]
  rfl

/-- An image is a character, and no control character, digit or capital letter. -/
theorem image_sound (member : run ∈ foldRuns) (image : run.image? n = some m) :
    (Char.ofNat n).toNat = n ∧ (Char.ofNat m).toNat = m ∧ 0x61 ≤ m := by
  have sound := List.all_eq_true.mp foldRuns_sound run member
  simp only [FoldRun.sound, Bool.and_eq_true, decide_eq_true_eq] at sound
  obtain ⟨⟨⟨letter, origins⟩, images⟩, -⟩ := sound
  obtain ⟨low, high, -, rfl⟩ := FoldRun.image?_eq_some_iff.mp image
  exact ⟨toNat_ofNat_of_validBetween origins low high,
    toNat_ofNat_of_validBetween images (by omega) (by omega), by omega⟩

theorem lookup_foldTable (member : run ∈ foldRuns) (low : run.first ≤ n) (high : n ≤ run.last) :
    foldTable.lookup n = some run := by
  have chain := List.isChain_iff_pairwise.mp foldRuns_isChain
  have ascending : foldTable.runs.toList.Pairwise (·.1 < ·.1) := by
    simp only [foldTable, List.toList_toArray, List.pairwise_map]
    exact chain.imp fun {a b} precedes => Nat.lt_of_le_of_lt precedes.1 precedes.2
  have entries (i : Nat) : foldTable.runs[i]? = foldRuns[i]?.map fun run => (run.first, run) := by
    simp [foldTable]
  obtain ⟨i, found⟩ := List.mem_iff_getElem?.mp member
  have atPlace : foldTable.runs[i]? = some (run.first, run) := by simp [entries, found]
  refine RunTable.lookup_eq_some ascending atPlace low fun entry next => ?_
  rw [entries, Option.map_eq_some_iff] at next
  obtain ⟨later, next, rfl⟩ := next
  obtain ⟨inside, rfl⟩ := List.getElem?_eq_some_iff.mp found
  obtain ⟨inside', rfl⟩ := List.getElem?_eq_some_iff.mp next
  have precedes := List.pairwise_iff_getElem.mp chain i (i + 1) inside inside' (Nat.lt_succ_self i)
  exact Nat.lt_of_le_of_lt high precedes.2

theorem fold_of_image? (member : run ∈ foldRuns) (image : run.image? c.toNat = some m) :
    fold c = Char.ofNat m := by
  obtain ⟨low, high, -, made⟩ := FoldRun.image?_eq_some_iff.mp image
  have sound := List.all_eq_true.mp foldRuns_sound run member
  simp only [FoldRun.sound, Bool.and_eq_true, Bool.or_eq_true, decide_eq_true_eq, beq_iff_eq] at sound
  unfold fold
  split
  · rename_i ascii
    obtain ⟨⟨⟨first, last⟩, -⟩, target⟩ := sound.2.resolve_left (by omega)
    have capital : 'A' ≤ c ∧ c ≤ 'Z' := ⟨show 65 ≤ c.toNat by omega, show c.toNat ≤ 90 by omega⟩
    rw [if_pos capital, made, first, target]
    congr 1
    omega
  · simp [lookup_foldTable member low high, image]

theorem fold_of_no_image (none : ∀ run ∈ foldRuns, run.image? c.toNat = none) : fold c = c := by
  unfold fold
  split
  · have capitals : (⟨0x41, 0x5A, 1, 0x61⟩ : FoldRun) ∈ foldRuns := List.mem_cons_self
    have outside := none _ capitals
    rw [if_neg]
    rintro ⟨low, high⟩
    have low : 65 ≤ c.toNat := low
    have high : c.toNat ≤ 90 := high
    simp [FoldRun.image?, low, high, Nat.mod_one] at outside
  · cases found : foldTable.lookup c.toNat with
    | none => rfl
    | some run =>
      obtain ⟨start, entry⟩ := RunTable.exists_of_lookup found
      have member : run ∈ foldRuns := by
        simp only [foldTable, List.toList_toArray, List.mem_map, Prod.mk.injEq] at entry
        obtain ⟨_, member, -, rfl⟩ := entry
        exact member
      simp [none run member]

/-- The folding of a character is an image that some run gives for it, or the character itself. -/
theorem fold_cases (c : Char) :
    (∃ run ∈ foldRuns, run.image? c.toNat = some (fold c).toNat) ∨ fold c = c := by
  by_cases folded : ∃ run ∈ foldRuns, ∃ m, run.image? c.toNat = some m
  · obtain ⟨run, member, m, image⟩ := folded
    refine .inl ⟨run, member, ?_⟩
    rw [fold_of_image? member image, (image_sound member image).2.1, image]
  · refine .inr (fold_of_no_image fun run member => ?_)
    by_contra image
    exact folded ⟨run, member, Option.ne_none_iff_exists'.mp image⟩

theorem fold_fold (c : Char) : fold (fold c) = fold c := by
  rcases fold_cases c with ⟨run, member, image⟩ | same
  · refine fold_of_no_image fun other member' => ?_
    have misses := List.all_eq_true.mp foldRuns_missImages run member
    exact FoldRun.image?_of_missesImages (List.all_eq_true.mp misses other member') image
  · rw [same, same]

/-- A character that is no small letter is the folding of itself alone. -/
theorem eq_of_fold_eq (low : d.toNat < 0x61) (folded : fold c = d) : c = d := by
  rcases fold_cases c with ⟨run, member, image⟩ | same
  · have := (image_sound member image).2.2
    rw [folded] at this
    omega
  · exact same.symm.trans folded

/-- The class of a character is made of the characters with the same folding. -/
theorem mem_caseVariants_iff : d ∈ caseVariants c ↔ fold d = fold c := by
  simp only [caseVariants, foldClass, List.mem_cons, List.mem_filterMap, Option.map_eq_some_iff,
    FoldRun.preimage?_eq_some_iff]
  constructor
  · rintro (rfl | ⟨run, member, n, image, rfl⟩)
    · exact fold_fold c
    · have origin : run.image? (Char.ofNat n).toNat = some (fold c).toNat := by
        rw [(image_sound member image).1, image]
      rw [fold_of_image? member origin, Char.ofNat_toNat]
  · intro same
    rcases fold_cases d with ⟨run, member, image⟩ | itself
    · exact .inr ⟨run, member, d.toNat, by rw [← same, image], Char.ofNat_toNat d⟩
    · exact .inl (itself.symm.trans same)

end StoryScript.Unicode
