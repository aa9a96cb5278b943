import StoryScript.Proofs.SourceScan

/-! Replacing occurrences of a phrase. If what is put in shares no character with the phrase, it is
part of no occurrence, so the phrase occurs in the new text only where it did so in the old one. -/
namespace StoryScript.Pattern.Phrase

open Edit (Spliced)
open Search (cutAt)
open Unicode (CharSet)

/-- Replaces the first `count` occurrences that a scan finds, and leaves out the characters that it
skips. -/
def replace (phrase : Phrase) (put : List Char) : Nat → Nat → Option Char → List Char → List Char
  | _, _, _, [] => []
  | count, skip + 1, _, c :: rest => replace phrase put count skip (some c) rest
  | count, 0, before, c :: rest =>
    if 0 < count ∧ phrase.occurs before (c :: rest) then
      put ++ replace phrase put (count - 1) (phrase.width - 1) (some c) rest
    else c :: replace phrase put count 0 (some c) rest

variable {phrase : Phrase} {put : List Char}

@[simp] theorem replace_zero (phrase : Phrase) (put : List Char) (before : Option Char)
    (text : List Char) : phrase.replace put 0 0 before text = text := by
  induction text generalizing before with
  | nil => rfl
  | cons c rest ih => simp [replace, ih]

/-- Replacing occurrences cuts them out of the text where the scan finds them. -/
theorem replace_spliced (phrase : Phrase) (put : List Char) (count skip offset : Nat)
    (before : Option Char) (text : List Char) :
    Spliced (offset + skip) (text.drop skip)
      (((phrase.scan skip before offset text).take count).map (cutAt phrase.width put))
      (phrase.replace put count skip before text) := by
  fun_induction replace phrase put count skip before text generalizing offset with
  | case1 =>
    rw [scan, List.drop_nil, List.take_nil]
    exact .rest
  | case2 count skip before c rest ih =>
    have next := ih (offset + 1)
    rw [Nat.add_assoc, Nat.add_comm 1] at next
    exact next
  | case3 count before c rest condition ih =>
    obtain ⟨positive, occurs⟩ := condition
    obtain ⟨later, rfl⟩ : ∃ later, count = later + 1 := ⟨count - 1, by omega⟩
    have some_char := phrase.width_pos
    have next := ih (offset + 1)
    have whole : (c :: rest).take phrase.width ++ rest.drop (phrase.width - 1) = c :: rest := by
      conv => rhs; rw [← List.take_append_drop phrase.width (c :: rest)]
      rw [← Nat.sub_add_cancel some_char, List.drop_succ_cons, Nat.add_sub_cancel]
    have stop : offset + ((c :: rest).take phrase.width).length = offset + phrase.width := by
      rw [List.length_take_of_le (width_le_of_occurs occurs)]
    rw [Nat.add_assoc, Nat.add_sub_cancel' some_char] at next
    rw [scan, if_pos occurs, List.take_succ_cons, List.map_cons, List.drop_zero]
    conv => arg 2; rw [← whole]
    have start : offset + ([] : List Char).length = (cutAt phrase.width put offset).start := rfl
    exact .cut start stop next
  | case4 count before c rest condition ih =>
    have next := ih (offset + 1)
    by_cases none : count = 0
    · subst none
      rw [replace_zero, List.take_zero]
      exact .rest
    · have kept : offset + [c].length = offset + 1 := rfl
      rw [scan, if_neg fun occurs => condition ⟨by omega, occurs⟩]
      exact next.append_left kept

/-! ### What is put in -/

/-- The characters are members of no set of the phrase, and there are some. -/
structure Avoids (phrase : Phrase) (put : List Char) : Prop where
  nonempty : put ≠ []
  foreign : ∀ c ∈ put, ∀ set ∈ phrase.sets, set.mem c = false

/-- The phrase may start where it may end, and may end where it occurs. -/
structure Abuts (phrase : Phrase) : Prop where
  opens : ∀ before after, phrase.closes before after → phrase.opens before after
  closes : ∀ before rest, phrase.occurs before rest → phrase.closes before rest.head?

theorem Avoids.completes_eq_false (avoids : phrase.Avoids put) {set : CharSet} {sets : List CharSet}
    (member : set ∈ phrase.sets) (before : Option Char) {c : Char} (foreign : c ∈ put)
    (rest : List Char) : phrase.completes (set :: sets) before (c :: rest) = false := by
  rw [completes, avoids.foreign c foreign set member, Bool.false_and]

theorem Avoids.occurs_eq_false (avoids : phrase.Avoids put) (before : Option Char) {c : Char}
    (foreign : c ∈ put) (rest : List Char) : phrase.occurs before (c :: rest) = false := by
  obtain ⟨set, sets, first⟩ := List.exists_cons_of_ne_nil phrase.nonempty
  have member : set ∈ phrase.sets := by simp [first]
  rw [occurs, first, avoids.completes_eq_false member before foreign, Bool.and_false]

theorem Avoids.completes_append (avoids : phrase.Avoids put) {set : CharSet} {sets : List CharSet}
    (member : set ∈ phrase.sets) (before : Option Char) (rest : List Char) :
    phrase.completes (set :: sets) before (put ++ rest) = false := by
  cases put with
  | nil => exact absurd rfl avoids.nonempty
  | cons c more => exact avoids.completes_eq_false member before (by simp) (more ++ rest)

theorem Avoids.scan_append (avoids : phrase.Avoids put) {front : List Char} (part : front ⊆ put)
    (before : Option Char) (offset : Nat) (rest : List Char) :
    phrase.scan 0 before offset (front ++ rest) =
      phrase.scan 0 (lastChar before front) (offset + front.length) rest := by
  induction front generalizing before offset with
  | nil => rfl
  | cons c front ih =>
    obtain ⟨foreign, part⟩ := List.cons_subset.mp part
    rw [List.cons_append, scan, avoids.occurs_eq_false before foreign, ih part, List.length_cons,
      Nat.add_assoc, Nat.add_comm 1]
    rfl

theorem Avoids.replace_append (avoids : phrase.Avoids put) {front : List Char} (part : front ⊆ put)
    (count : Nat) (before : Option Char) (rest : List Char) :
    phrase.replace put count 0 before (front ++ rest) =
      front ++ phrase.replace put count 0 (lastChar before front) rest := by
  induction front generalizing before with
  | nil => rfl
  | cons c front ih =>
    obtain ⟨foreign, part⟩ := List.cons_subset.mp part
    rw [List.cons_append, replace, avoids.occurs_eq_false before foreign, ih part]
    simp [lastChar]

/-- What can be read in the new text could be read in the old one: nothing that was put in is part
of it, and where something was put in behind it, an occurrence stood. -/
theorem completes_of_replace (abuts : phrase.Abuts) (avoids : phrase.Avoids put)
    {sets : List CharSet} (part : sets ⊆ phrase.sets) {count : Nat} {before : Option Char}
    {text : List Char} (new : phrase.completes sets before (phrase.replace put count 0 before text)) :
    phrase.completes sets before text := by
  induction sets generalizing before text with
  | nil =>
    cases text with
    | nil => exact new
    | cons c rest =>
      by_cases condition : 0 < count ∧ phrase.occurs before (c :: rest)
      · exact abuts.closes before (c :: rest) condition.2
      · rw [replace, if_neg condition] at new
        exact new
  | cons set sets ih =>
    obtain ⟨member, part⟩ := List.cons_subset.mp part
    cases text with
    | nil => exact new
    | cons c rest =>
      rw [replace] at new
      split at new
      · rw [avoids.completes_append member] at new
        cases new
      · rw [completes, Bool.and_eq_true_iff] at new ⊢
        exact ⟨new.1, ih part new.2⟩

/-- An occurrence in the new text that starts with a character of the old one stood in the old one. -/
theorem occurs_of_replace (abuts : phrase.Abuts) (avoids : phrase.Avoids put) {count : Nat}
    {before before' : Option Char} {c : Char} {rest : List Char}
    (opens : phrase.opens before' (some c) → phrase.opens before (some c))
    (new : phrase.occurs before' (c :: phrase.replace put count 0 (some c) rest)) :
    phrase.occurs before (c :: rest) := by
  obtain ⟨set, sets, first⟩ := List.exists_cons_of_ne_nil phrase.nonempty
  have part : sets ⊆ phrase.sets := by
    rw [first]
    exact List.subset_cons_self set sets
  rw [occurs, first, completes, Bool.and_eq_true_iff, Bool.and_eq_true_iff] at new ⊢
  exact ⟨opens new.1, new.2.1, completes_of_replace abuts avoids part new.2.2⟩

/-! ### All occurrences -/

/-- A scan that goes on in the new text finds nothing that it would not find in the old one: either
it stands in both where the phrase may start in the new text only if it may do so in the old one, or
it is still inside an occurrence. -/
def Resumes (phrase : Phrase) (skip : Nat) (before before' : Option Char) (text : List Char) : Prop :=
  (skip = 0 ∧ (phrase.opens before' text.head? → phrase.opens before text.head?)) ∨
    ∃ set sets, sets.length + 1 = skip ∧ phrase.completes (set :: sets) before text

theorem resumes_of_completes (abuts : phrase.Abuts) {sets : List CharSet} {before : Option Char}
    {text : List Char} (completes : phrase.completes sets before text) (before' : Option Char) :
    phrase.Resumes sets.length before before' text := by
  cases sets with
  | nil => exact .inl ⟨rfl, fun _ => abuts.opens _ _ completes⟩
  | cons set sets => exact .inr ⟨set, sets, rfl, completes⟩

theorem scan_replace_eq_nil (abuts : phrase.Abuts) (avoids : phrase.Avoids put)
    {count skip offset : Nat} {before before' : Option Char} {text : List Char}
    (all : (phrase.scan skip before offset text).length ≤ count)
    (resumes : phrase.Resumes skip before before' text) (offset' : Nat) :
    phrase.scan 0 before' offset' (phrase.replace put count skip before text) = [] := by
  fun_induction replace phrase put count skip before text generalizing before' offset offset' with
  | case1 => rfl
  | case2 count skip before c rest ih =>
    obtain ⟨⟨⟩, _⟩ | ⟨set, sets, size, completes⟩ := resumes
    rw [Phrase.completes, Bool.and_eq_true_iff] at completes
    obtain rfl : sets.length = skip := by omega
    exact ih all (resumes_of_completes abuts completes.2 before') offset'
  | case3 count before c rest condition ih =>
    obtain ⟨positive, occurs⟩ := condition
    rw [scan, if_pos occurs, List.length_cons] at all
    have fewer := Nat.le_sub_of_add_le all
    obtain ⟨set, sets, first⟩ := List.exists_cons_of_ne_nil phrase.nonempty
    have size : sets.length = phrase.width - 1 := by
      rw [width, first, List.length_cons, Nat.add_sub_cancel]
    rw [Phrase.occurs, first, completes, Bool.and_eq_true_iff, Bool.and_eq_true_iff] at occurs
    have resumes' := resumes_of_completes abuts occurs.2.2 (lastChar before' put)
    rw [size] at resumes'
    rw [avoids.scan_append (List.Subset.refl put)]
    exact ih fewer resumes' _
  | case4 count before c rest condition ih =>
    have missing : ¬ phrase.occurs before (c :: rest) := by
      intro occurs
      rw [scan, if_pos occurs, List.length_cons] at all
      exact condition ⟨by omega, occurs⟩
    obtain ⟨_, opens⟩ | ⟨_, _, ⟨⟩, _⟩ := resumes
    have still_missing : ¬ phrase.occurs before' (c :: phrase.replace put count 0 (some c) rest) :=
      fun occurs => missing (occurs_of_replace abuts avoids opens occurs)
    rw [scan, if_neg missing] at all
    rw [scan, if_neg still_missing]
    exact ih all (.inl ⟨rfl, id⟩) _

/-! ### Some occurrences -/

def Free (phrase : Phrase) : Prop := ∀ before after, phrase.opens before after = true

theorem Free.occurs_eq (free : phrase.Free) (before before' : Option Char) (c : Char)
    (rest : List Char) : phrase.occurs before (c :: rest) = phrase.occurs before' (c :: rest) := by
  rw [occurs, occurs, free, free, completes_sets_cons before before']

theorem Free.length_scan_eq (free : phrase.Free) (skip : Nat) (before before' : Option Char)
    (offset offset' : Nat) (text : List Char) :
    (phrase.scan skip before offset text).length = (phrase.scan skip before' offset' text).length := by
  induction text generalizing skip before before' offset offset' with
  | nil => rfl
  | cons c rest ih =>
    cases skip with
    | succ skip => exact ih skip ..
    | zero =>
      rw [scan, scan, free.occurs_eq before before']
      split
      · exact congrArg (· + 1) (ih (phrase.width - 1) ..)
      · exact ih 0 ..

theorem Free.replace_eq (free : phrase.Free) (count : Nat) (before before' : Option Char)
    (text : List Char) :
    phrase.replace put count 0 before text = phrase.replace put count 0 before' text := by
  cases text with
  | nil => rfl
  | cons c rest => rw [replace, replace, free.occurs_eq before before']

theorem Free.not_occurs_of_replace (free : phrase.Free) (abuts : phrase.Abuts)
    (avoids : phrase.Avoids put) (count : Nat) {before : Option Char} (before' : Option Char)
    {c : Char} {rest : List Char} (missing : ¬ phrase.occurs before (c :: rest)) :
    ¬ phrase.occurs before' (c :: phrase.replace put count 0 (some c) rest) :=
  fun occurs => missing (occurs_of_replace abuts avoids (fun _ => free ..) occurs)

/-- Replacing some occurrences and then some more is replacing all of these at once. -/
theorem replace_replace (free : phrase.Free) (abuts : phrase.Abuts) (avoids : phrase.Avoids put)
    (more count skip : Nat) (before before' : Option Char) (text : List Char) :
    phrase.replace put more 0 before' (phrase.replace put count skip before text) =
      phrase.replace put (count + more) skip before text := by
  fun_induction replace phrase put count skip before text generalizing before' with
  | case1 => rfl
  | case2 count skip before c rest ih => rw [ih, replace]
  | case3 count before c rest condition ih =>
    have some_left : 0 < count + more ∧ phrase.occurs before (c :: rest) :=
      ⟨Nat.add_pos_left condition.1 more, condition.2⟩
    rw [avoids.replace_append (List.Subset.refl put), ih, replace, if_pos some_left,
      Nat.sub_add_comm condition.1]
  | case4 count before c rest condition ih =>
    by_cases none : count = 0
    · subst none
      rw [replace_zero, Nat.zero_add]
      exact free.replace_eq more before' before (c :: rest)
    · have missing : ¬ phrase.occurs before (c :: rest) := fun occurs => condition ⟨by omega, occurs⟩
      have still_missing := free.not_occurs_of_replace abuts avoids count before' missing
      rw [replace, if_neg fun both => still_missing both.2, ih, replace,
        if_neg fun both => missing both.2]

/-- Every replacement leaves one occurrence less to be found. -/
theorem length_scan_replace (free : phrase.Free) (abuts : phrase.Abuts) (avoids : phrase.Avoids put)
    (count skip offset offset' : Nat) (before before' : Option Char) (text : List Char) :
    (phrase.scan 0 before' offset' (phrase.replace put count skip before text)).length =
      (phrase.scan skip before offset text).length - count := by
  fun_induction replace phrase put count skip before text generalizing before' offset offset' with
  | case1 => simp [scan]
  | case2 count skip before c rest ih => rw [ih (offset + 1), scan]
  | case3 count before c rest condition ih =>
    rw [avoids.scan_append (List.Subset.refl put), ih (offset + 1), scan, if_pos condition.2,
      List.length_cons]
    omega
  | case4 count before c rest condition ih =>
    by_cases none : count = 0
    · subst none
      rw [replace_zero, Nat.sub_zero]
      exact free.length_scan_eq 0 before' before offset' offset (c :: rest)
    · have missing : ¬ phrase.occurs before (c :: rest) := fun occurs => condition ⟨by omega, occurs⟩
      have still_missing := free.not_occurs_of_replace abuts avoids count before' missing
      rw [scan, if_neg still_missing, ih (offset + 1), scan, if_neg missing]

end StoryScript.Pattern.Phrase
