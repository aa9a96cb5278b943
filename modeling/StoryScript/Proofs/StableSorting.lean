import Mathlib.Data.List.Sort

/-! Sorting keeps the order of what it does not tell apart. -/
namespace StoryScript

section

variable {α : Type} {le : α → α → Bool}

/-- There is one place at most where a property ends. -/
theorem append_eq_append_of_holds {p : α → Bool} {first second first' second' : List α}
    (same : first ++ second = first' ++ second') (holds : ∀ a ∈ first, p a)
    (fails : ∀ a ∈ second, ¬ p a) (holds' : ∀ a ∈ first', p a) (fails' : ∀ a ∈ second', ¬ p a) :
    first = first' ∧ second = second' := by
  have start : ∀ {front back : List α}, (∀ a ∈ front, p a) → (∀ a ∈ back, ¬ p a) →
      (front ++ back).takeWhile p = front := by
    intro front back holds fails
    rw [List.takeWhile_append_of_pos holds]
    cases back with
    | nil => simp
    | cons a rest => simp [fails a List.mem_cons_self]
  have first_eq : first = first' := by rw [← start holds fails, same, start holds' fails']
  subst first_eq
  exact ⟨rfl, List.append_cancel_left same⟩

variable (trans : ∀ a b c, le a b → le b c → le a c) (total : ∀ a b, le a b || le b a)
include trans total

/-- Sorting what is kept of a list gives what is kept of the sorted list. -/
theorem filter_mergeSort (p : α → Bool) (list : List α) :
    (list.mergeSort le).filter p = (list.filter p).mergeSort le := by
  induction list with
  | nil => simp
  | cons a rest ih =>
    obtain ⟨before, after, whole, split, less⟩ := List.mergeSort_cons trans total a rest
    have sorted := List.pairwise_mergeSort trans total (a :: rest)
    rw [whole] at sorted ⊢
    rw [split, List.filter_append] at ih
    rw [List.filter_append]
    by_cases kept : p a
    · obtain ⟨before', after', whole', split', less'⟩ :=
        List.mergeSort_cons trans total a (rest.filter p)
      have sorted' := List.pairwise_mergeSort trans total (a :: rest.filter p)
      rw [whole'] at sorted'
      have above := List.pairwise_cons.mp (List.pairwise_append.mp sorted).2.1
      have above' := List.pairwise_cons.mp (List.pairwise_append.mp sorted').2.1
      -- The new element goes in where `le a` begins to hold, and that is one place.
      obtain ⟨rfl, rfl⟩ := append_eq_append_of_holds (ih.trans split')
        (fun b member => less b (List.mem_filter.mp member).1)
        (fun b member => by simpa using above.1 b (List.mem_filter.mp member).1) less'
        (fun b member => by simpa using above'.1 b member)
      rw [List.filter_cons_of_pos kept, List.filter_cons_of_pos kept, whole']
    · rw [List.filter_cons_of_neg kept, List.filter_cons_of_neg kept, ih]

/-- Elements that the order does not tell apart keep the order in which they came. -/
theorem pairwise_mergeSort_stable {R : α → α → Prop} {list : List α} (came : list.Pairwise R) :
    (list.mergeSort le).Pairwise fun a b => le a b ∧ (le b a → R a b) := by
  refine List.pairwise_iff_forall_sublist.mpr fun {a b} sub => ?_
  have forward : le a b :=
    List.pairwise_iff_forall_sublist.mp (List.pairwise_mergeSort trans total list) sub
  refine ⟨forward, fun back => ?_⟩
  have refl : ∀ c, le c c := fun c => by simpa using total c c
  have level : (list.filter fun c => le a c && le c b).Pairwise (le · ·) := by
    refine List.pairwise_of_forall_mem_list fun x memberX y memberY => ?_
    simp only [List.mem_filter, Bool.and_eq_true] at memberX memberY
    exact trans x b y memberX.2.2 (trans b a y back memberY.2.1)
  have kept := sub.filter fun c => le a c && le c b
  rw [filter_mergeSort trans total, List.mergeSort_of_pairwise level] at kept
  simp only [List.filter_cons, refl, forward, Bool.and_self, if_true, List.filter_nil] at kept
  exact List.pairwise_iff_forall_sublist.mp came (kept.trans List.filter_sublist)

end

end StoryScript
