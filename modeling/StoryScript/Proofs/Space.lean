import Mathlib.Algebra.BigOperators.Group.List.Basic
import Mathlib.Algebra.GroupWithZero.Nat
import Mathlib.Data.Finset.Max
import StoryScript.Pattern.Space
import StoryScript.Proofs.CharSets

/-! What the automata of a pattern need at the least. Each of them has as many states as the longest
text of one character that it reads has bytes, so that a set is never cheaper than one of its
members, and a sequence needs what its parts need. -/
namespace StoryScript.Pattern

open Unicode (CharSet)

/-! ### Byte ranges -/

theorem weight_pos (count : Nat) : 0 < weight count := by
  induction count with
  | zero => exact Nat.zero_lt_one
  | succ count ih => exact Nat.mul_pos (by decide) ih

theorem length_of_mem_byteRanges {lead count low high : Nat} {sequence : ByteRanges}
    (member : sequence ∈ byteRanges lead count low high) : sequence.length = count + 1 := by
  induction count generalizing lead low high sequence with
  | zero =>
    rw [byteRanges, List.mem_singleton] at member
    rw [member]
    rfl
  | succ count ih =>
    have under {digit low high : Nat} {sequence : ByteRanges}
        (member : sequence ∈ (byteRanges 0x80 count low high).map (⟨lead + digit, lead + digit⟩ :: ·)) :
        sequence.length = count + 1 + 1 := by
      obtain ⟨rest, inner, rfl⟩ := List.mem_map.mp member
      rw [List.length_cons, ih inner]
    simp only [byteRanges] at member
    split at member
    · exact under member
    · rcases List.mem_append.mp member with member | closing
      · rcases List.mem_append.mp member with opening | whole
        · exact under (List.mem_ite_nil_right.mp opening).2
        · rw [List.mem_singleton.mp (List.mem_ite_nil_right.mp whole).2]
          simp [anyDigits]
      · exact under (List.mem_ite_nil_right.mp closing).2

theorem byteRanges_ne_nil {lead count low high : Nat} (le : low ≤ high) :
    byteRanges lead count low high ≠ [] := by
  induction count generalizing lead low high with
  | zero => simp [byteRanges]
  | succ count ih =>
    have positive := weight_pos (count + 1)
    simp only [byteRanges]
    split
    · rename_i same
      have le' : low % weight (count + 1) ≤ high % weight (count + 1) := by
        have first := Nat.div_add_mod low (weight (count + 1))
        have second := Nat.div_add_mod high (weight (count + 1))
        rw [same] at first
        omega
      simpa using ih le'
    · rename_i differ
      have less : low / weight (count + 1) < high / weight (count + 1) :=
        Nat.lt_of_le_of_ne (Nat.div_le_div_right le) differ
      by_cases opening : low / weight (count + 1) < (low + weight (count + 1) - 1) / weight (count + 1)
      · have le' : low % weight (count + 1) ≤ weight (count + 1) - 1 :=
          Nat.le_sub_one_of_lt (Nat.mod_lt _ positive)
        simp [opening, ih le']
      · -- All digits may follow the first value, which is less than the last.
        have reaches : high / weight (count + 1) ≤ (high + 1) / weight (count + 1) :=
          Nat.div_le_div_right (Nat.le_succ _)
        have whole : (low + weight (count + 1) - 1) / weight (count + 1) <
            (high + 1) / weight (count + 1) := by omega
        simp [whole]

theorem length_of_mem_utf8Ranges {set : CharSet} {sequence : ByteRanges}
    (member : sequence ∈ utf8Ranges set) : sequence.length ≤ 4 := by
  obtain ⟨window, window', member⟩ := List.mem_flatMap.mp member
  obtain ⟨range, -, member⟩ := List.mem_flatMap.mp member
  have digits : window.digits ≤ 3 := by
    have all : ∀ window ∈ windows, window.digits ≤ 3 := by decide
    exact all window window'
  rw [length_of_mem_byteRanges member]
  omega

theorem exists_window (c : Char) : ∃ window ∈ windows, window.first ≤ c.toNat ∧
    c.toNat ≤ window.last ∧ window.digits + 1 = c.utf8Size := by
  have valid : c.toNat < 0xD800 ∨ 0xDFFF < c.toNat ∧ c.toNat < 0x110000 := c.valid
  have size : c.utf8Size = if c.toNat ≤ 0x7F then 1 else if c.toNat ≤ 0x7FF then 2 else
      if c.toNat ≤ 0xFFFF then 3 else 4 := by
    simp only [Char.utf8Size, UInt32.le_iff_toNat_le]
    rfl
  rw [size]
  simp only [windows, List.mem_cons, List.not_mem_nil, or_false, exists_eq_or_imp, exists_eq_left]
  split
  · omega
  · split
    · omega
    · split
      · omega
      · omega

/-- A member of a set is one of the texts that its byte ranges stand for. -/
theorem exists_mem_utf8Ranges {set : CharSet} {c : Char} (member : set.mem c) :
    ∃ sequence ∈ utf8Ranges set, sequence.length = c.utf8Size := by
  obtain ⟨window, among, low, high, size⟩ := exists_window c
  have valid : Unicode.FoldRun.validBetween window.first window.last := by
    have all : ∀ window ∈ windows, Unicode.FoldRun.validBetween window.first window.last := by decide
    exact all window among
  obtain ⟨range, found, from', upTo⟩ := (set.mem_rangesWithin_iff valid low high).mpr member
  obtain ⟨sequence, inside⟩ := List.exists_mem_of_ne_nil _
    (@byteRanges_ne_nil window.lead window.digits _ _ (Nat.le_trans from' upTo))
  exact ⟨sequence, List.mem_flatMap.mpr ⟨window, among, List.mem_flatMap.mpr ⟨range, found, inside⟩⟩,
    (length_of_mem_byteRanges inside).trans size⟩

/-! ### States -/

section

variable {sequences : List ByteRanges} {sequence : ByteRanges}

theorem mem_tails {head : ByteRange} : sequence ∈ tails head sequences ↔ head :: sequence ∈ sequences := by
  rw [tails, List.mem_filterMap]
  constructor
  · rintro ⟨whole, member, found⟩
    cases whole with
    | nil => cases found
    | cons first rest =>
      obtain ⟨rfl, same⟩ := Option.ite_none_right_eq_some.mp found
      cases same
      exact member
  · exact fun member => ⟨_, member, if_pos rfl⟩

theorem mem_heads {head : ByteRange} (member : head :: sequence ∈ sequences) : head ∈ heads sequences :=
  List.mem_eraseDups.mpr (List.mem_filterMap.mpr ⟨_, member, rfl⟩)

/-- What may still follow does not grow. -/
theorem length_le_of_mem_reached {bound length : Nat} (within : ∀ other ∈ sequences, other.length ≤ bound)
    {state : List ByteRanges} (member : state ∈ reached length sequences) :
    ∀ other ∈ state, other.length ≤ bound := by
  induction length generalizing sequences with
  | zero =>
    rw [List.mem_singleton.mp member]
    exact within
  | succ length ih =>
    rcases List.mem_cons.mp member with rfl | later
    · exact within
    · obtain ⟨head, -, later⟩ := List.mem_flatMap.mp later
      refine ih (fun other among => ?_) later
      exact Nat.le_of_succ_le (within _ (mem_tails.mp among))

/-- Reading the longest sequence passes a new state with each byte, since less and less can follow. -/
theorem length_lt_card_reached {length : Nat} (member : sequence ∈ sequences)
    (longest : ∀ other ∈ sequences, other.length ≤ sequence.length) (within : sequence.length ≤ length) :
    sequence.length < (reached length sequences).toFinset.card := by
  induction length generalizing sequences sequence with
  | zero => simpa [reached] using within
  | succ length ih =>
    cases sequence with
    | nil =>
      refine Finset.card_pos.mpr ⟨sequences, ?_⟩
      simp [reached]
    | cons head rest =>
      have longest' : ∀ other ∈ tails head sequences, other.length ≤ rest.length :=
        fun other among => Nat.le_of_succ_le_succ (longest _ (mem_tails.mp among))
      have more := ih (mem_tails.mpr member) longest' (Nat.le_of_succ_le_succ within)
      have new : sequences ∉ (reached length (tails head sequences)).toFinset := by
        intro again
        have shorter := length_le_of_mem_reached longest' (List.mem_toFinset.mp again) _ member
        exact absurd shorter (Nat.not_succ_le_self _)
      have part : insert sequences (reached length (tails head sequences)).toFinset ⊆
          (reached (length + 1) sequences).toFinset := by
        intro state among
        rw [List.mem_toFinset, reached, List.mem_cons]
        rcases Finset.mem_insert.mp among with rfl | among
        · exact .inl rfl
        · exact .inr (List.mem_flatMap.mpr ⟨head, mem_heads member, List.mem_toFinset.mp among⟩)
      have count := Finset.card_le_card part
      rw [Finset.card_insert_of_notMem new] at count
      rw [List.length_cons]
      omega

theorem length_le_forwardSpace (within : ∀ other ∈ sequences, other.length ≤ 4)
    (member : sequence ∈ sequences) : sequence.length * stateBytes ≤ forwardSpace sequences := by
  obtain ⟨top, among, longest⟩ := Finset.exists_max_image sequences.toFinset List.length
    ⟨sequence, List.mem_toFinset.mpr member⟩
  simp only [List.mem_toFinset] at among longest
  have states : top.length < (reached 4 sequences).eraseDups.length := by
    have same : (reached 4 sequences).eraseDups.toFinset = (reached 4 sequences).toFinset := by
      ext state
      simp
    have distinct := length_lt_card_reached among longest (within top among)
    rw [← same] at distinct
    exact Nat.lt_of_lt_of_le distinct (List.toFinset_card_le _)
  have shorter := longest sequence member
  calc sequence.length * stateBytes
    _ ≤ (reached 4 sequences).eraseDups.length * stateBytes := Nat.mul_le_mul_right _ (by omega)
    _ ≤ forwardSpace sequences := Nat.le_add_right _ _

theorem shared_le_left (a b : ByteRanges) : shared a b ≤ a.length := by
  fun_induction shared a b <;> simp_all

theorem shared_le_right (a b : ByteRanges) : shared a b ≤ b.length := by
  fun_induction shared a b <;> simp_all

theorem min_shared_le (a b c : ByteRanges) : min (shared a b) (shared b c) ≤ shared a c := by
  fun_induction shared a b generalizing c with
  | case1 first rest rest' ih =>
    cases c with
    | nil => simp [shared]
    | cons other rest'' =>
      have inner := ih rest''
      simp only [shared]
      split
      · omega
      · simp
  | case2 => simp
  | case3 => simp

/-- The sequences after a given one have states for all that they do not share with it. -/
theorem length_le_branching (last : ByteRanges) (member : sequence ∈ sequences) :
    sequence.length ≤ branching last sequences + shared last sequence := by
  induction sequences generalizing last with
  | nil => cases member
  | cons first rest ih =>
    rw [branching]
    rcases List.mem_cons.mp member with rfl | later
    · omega
    · have inner := ih first later
      have triangle := min_shared_le last first sequence
      have left := shared_le_left first sequence
      have right := shared_le_right last first
      omega

theorem length_le_backwardSpace (member : sequence ∈ sequences) :
    sequence.length * stateBytes ≤ backwardSpace sequences := by
  unfold backwardSpace
  split
  · rename_i single
    have one : sequence.length = 1 := by simpa using List.all_eq_true.mp single sequence member
    rw [one]
    exact Nat.le_trans (by decide) (Nat.le_add_right _ _)
  · have states := length_le_branching [] member
    have nothing : shared [] sequence = 0 := by simp [shared]
    calc sequence.length * stateBytes
      _ ≤ (branching [] sequences + 2) * stateBytes := Nat.mul_le_mul_right _ (by omega)
      _ ≤ _ := Nat.le_add_right _ _

theorem length_le_sequencesSpace (within : ∀ other ∈ sequences, other.length ≤ 4)
    (member : sequence ∈ sequences) (direction : Direction) :
    sequence.length * stateBytes ≤ sequencesSpace direction sequences := by
  unfold sequencesSpace
  split
  · cases member
  · split
    · rename_i first rest single
      rw [single.1, List.mem_singleton] at member
      rw [member]
    · cases direction with
      | forward => exact length_le_forwardSpace within member
      | backward => exact length_le_backwardSpace member

end

/-- A set needs at least what any of its members needs. -/
theorem utf8Size_le_setSpace {set : CharSet} {c : Char} (member : set.mem c) (direction : Direction) :
    c.utf8Size * stateBytes ≤ setSpace direction set := by
  unfold setSpace
  split
  · rename_i only
    have same : c = only := by simpa [CharSet.mem] using member
    rw [same]
  · obtain ⟨sequence, among, size⟩ := exists_mem_utf8Ranges member
    rw [← size]
    exact length_le_sequencesSpace (fun _ => length_of_mem_utf8Ranges) among direction

/-- What a character needs without regard to case depends on its class alone. -/
theorem setSpace_anyCase_congr {c d : Char} (same : Unicode.fold c = Unicode.fold d)
    (direction : Direction) :
    setSpace direction (.anyCase c) = setSpace direction (.anyCase d) := by
  have borders : (CharSet.anyCase c).borders = (CharSet.anyCase d).borders := by
    rw [CharSet.borders, CharSet.borders, Unicode.caseVariants, Unicode.caseVariants, same]
  have members : (CharSet.anyCase c).mem = (CharSet.anyCase d).mem := by
    funext x
    rw [CharSet.mem, CharSet.mem, same]
  simp only [setSpace, utf8Ranges, CharSet.rangesWithin, borders, members]

/-! ### Sequences of nodes -/

theorem Node.space_sequence (direction : Direction) (nodes : List Node) :
    (sequence nodes).space direction = (nodes.map (·.space direction)).sum := by
  induction nodes with
  | nil => rfl
  | cons first more ih =>
    cases more with
    | nil => simp [sequence]
    | cons second more =>
      have unfolded : sequence (first :: second :: more) = seq first (sequence (second :: more)) := rfl
      rw [unfolded, space, ih]
      rfl

theorem Node.space_ofText (direction : Direction) (ignoreCase wholeWord : Bool) (text : List Char) :
    (ofText ignoreCase wholeWord text).space direction =
      (text.map fun c => setSpace direction (.ofChar ignoreCase c)).sum +
        if wholeWord then 2 * stateBytes else 0 := by
  have chars : (sequence (text.map fun c => set (.ofChar ignoreCase c))).space direction =
      (text.map fun c => setSpace direction (.ofChar ignoreCase c)).sum := by
    rw [space_sequence, List.map_map]
    rfl
  cases wholeWord with
  | false => simp [ofText, chars]
  | true =>
    simp [ofText, sequence, space, chars]
    omega

end StoryScript.Pattern
