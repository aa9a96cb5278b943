import Mathlib.Data.List.Sort
import Mathlib.Data.String.Basic
import StoryScript.Script.NameSet

/-! Sets of names. A set is a list in strictly ascending order, so its members determine it, and its
length is their number. -/
namespace StoryScript.Script.NameSet

def Ascending (set : NameSet) : Prop := set.Pairwise (· < ·)

@[simp] theorem mem_insert {name other : String} {set : NameSet} :
    other ∈ insert name set ↔ other = name ∨ other ∈ set := by
  fun_induction insert name set with
  | case1 => simp
  | case2 => simp
  | case3 => simp
  | case4 first rest _ _ ih => rw [List.mem_cons, ih, List.mem_cons, or_left_comm]

theorem Ascending.insert {set : NameSet} (ascending : set.Ascending) (name : String) :
    (NameSet.insert name set).Ascending := by
  fun_induction NameSet.insert name set with
  | case1 => exact List.pairwise_singleton _ _
  | case2 first rest less =>
    refine List.pairwise_cons.mpr ⟨?_, ascending⟩
    intro other member
    rcases List.mem_cons.mp member with rfl | member
    · exact less
    · exact less.trans (List.rel_of_pairwise_cons ascending member)
  | case3 => exact ascending
  | case4 first rest notLess different ih =>
    refine List.pairwise_cons.mpr ⟨?_, ih ascending.of_cons⟩
    intro other member
    rcases mem_insert.mp member with rfl | member
    · exact lt_of_le_of_ne (not_lt.mp notLess) (Ne.symm different)
    · exact List.rel_of_pairwise_cons ascending member

theorem mem_foldl_insert {name : String} {names : List String} {set : NameSet} :
    name ∈ names.foldl (fun set name => insert name set) set ↔ name ∈ set ∨ name ∈ names := by
  induction names generalizing set with
  | nil => simp
  | cons first rest ih => simp only [List.foldl_cons, ih, mem_insert, List.mem_cons, or_assoc,
      or_left_comm]

@[simp] theorem mem_ofList {name : String} {names : List String} :
    name ∈ ofList names ↔ name ∈ names := by
  simp [ofList, mem_foldl_insert]

theorem ascending_ofList (names : List String) : (ofList names).Ascending := by
  suffices step : ∀ set : NameSet, set.Ascending →
      (names.foldl (fun set name => insert name set) set).Ascending from step [] List.Pairwise.nil
  induction names with
  | nil => exact fun set ascending => ascending
  | cons first rest ih => exact fun set ascending => ih _ (ascending.insert first)

@[simp] theorem mem_difference {name : String} {a b : NameSet} :
    name ∈ a.difference b ↔ name ∈ a ∧ name ∉ b := by
  simp [difference]

theorem Ascending.difference {a : NameSet} (ascending : a.Ascending) (b : NameSet) :
    (a.difference b).Ascending :=
  List.Pairwise.filter _ ascending

theorem Ascending.nodup {set : NameSet} (ascending : set.Ascending) : set.Nodup :=
  ascending.imp ne_of_lt

theorem Ascending.ext {a b : NameSet} (ascendingA : a.Ascending) (ascendingB : b.Ascending)
    (same : ∀ name, name ∈ a ↔ name ∈ b) : a = b :=
  List.Pairwise.eq_of_mem_iff ascendingA ascendingB same

section

variable {a b grown : NameSet} (members : ∀ name, name ∈ grown ↔ name ∈ b ∨ name ∈ a.difference b)
include members

/-- With all that was lacking, nothing is lacking. -/
theorem difference_grown : a.difference grown = [] := by
  refine List.eq_nil_iff_forall_not_mem.mpr fun name lacking => ?_
  obtain ⟨wanted, absent⟩ := mem_difference.mp lacking
  rw [members, not_or, mem_difference] at absent
  exact absent.2 ⟨wanted, absent.1⟩

/-- What was lacking is wanted, so there is nothing new that is not. -/
theorem grown_difference (ascending : grown.Ascending) (ascending' : b.Ascending) :
    grown.difference a = b.difference a := by
  refine (ascending.difference a).ext (ascending'.difference a) fun name => ?_
  rw [mem_difference, mem_difference, members, mem_difference]
  constructor
  · rintro ⟨old | ⟨wanted, -⟩, unwanted⟩
    · exact ⟨old, unwanted⟩
    · exact absurd wanted unwanted
  · rintro ⟨old, unwanted⟩
    exact ⟨.inl old, unwanted⟩

end

theorem ofList_eq_of_mem_iff {first second : List String}
    (same : ∀ name, name ∈ first ↔ name ∈ second) : ofList first = ofList second :=
  (ascending_ofList first).ext (ascending_ofList second) (by simpa using same)

/-- New names, each given once, add their number to the size of a set. -/
theorem length_ofList_append {names new : List String} (distinct : new.Nodup)
    (fresh : ∀ name ∈ new, name ∉ names) :
    (ofList (names ++ new)).length = (ofList names).length + new.length := by
  have apart : (ofList names ++ new).Nodup := by
    refine List.nodup_append.mpr ⟨(ascending_ofList names).nodup, distinct, ?_⟩
    rintro old member _ added rfl
    exact fresh old added (mem_ofList.mp member)
  have perm : (ofList (names ++ new)).Perm (ofList names ++ new) :=
    (List.perm_ext_iff_of_nodup (ascending_ofList _).nodup apart).mpr (by simp)
  rw [perm.length_eq, List.length_append]

end StoryScript.Script.NameSet
