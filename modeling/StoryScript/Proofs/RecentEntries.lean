import Mathlib.Data.List.Induction
import StoryScript.Editor.History

/-! A history over time. Whatever is put into it and however often it is cleared, it shows the distinct
values that came since, the latest first, as far as its limit goes. That older values are dropped on the
way is not seen later: a value that comes back counts as new, and makes room for itself alone. -/
namespace StoryScript.Editor

section

variable {α : Type} [DecidableEq α]

theorem eraseDups_filter (p : α → Bool) (values : List α) :
    (values.filter p).eraseDups = values.eraseDups.filter p := by
  cases values with
  | nil => rfl
  | cons first more =>
    have others := eraseDups_filter p (more.filter fun value => !value == first)
    rw [List.eraseDups_cons, List.filter_cons, List.filter_cons, ← others, List.filter_filter]
    split
    · rw [List.eraseDups_cons, List.filter_filter]
      simp only [Bool.and_comm]
    · rename_i dropped
      congr 1
      refine List.filter_congr fun value _ => ?_
      by_cases same : value = first <;> simp [same, dropped]
termination_by values.length
decreasing_by exact Nat.lt_succ_of_le (List.length_filter_le _ _)

theorem nodup_eraseDups (values : List α) : values.eraseDups.Nodup := by
  induction values with
  | nil => simp
  | cons first more ih =>
    rw [List.eraseDups_cons, eraseDups_filter]
    exact List.nodup_cons.mpr ⟨by simp, ih.sublist List.filter_sublist⟩

/-- The latest of some values moves to the front, wherever it was before. -/
theorem eraseDups_reverse_snoc (values : List α) (latest : α) :
    (values ++ [latest]).reverse.eraseDups = latest :: values.reverse.eraseDups.erase latest := by
  rw [List.reverse_append, List.reverse_singleton, List.singleton_append, List.eraseDups_cons,
    eraseDups_filter, (nodup_eraseDups values.reverse).erase_eq_filter]
  rfl

/-- Taking one value out of a list brings at most one value forward, so that it does not matter if the
list is cut one value behind the place up to which it is looked at. -/
theorem take_erase_take (values : List α) (value : α) (count : Nat) :
    ((values.take (count + 1)).erase value).take count = (values.erase value).take count := by
  induction values generalizing count with
  | nil => rfl
  | cons first more ih =>
    rw [List.take_succ_cons, List.erase_cons, List.erase_cons]
    split
    · rw [List.take_take, Nat.min_self]
    · cases count with
      | zero => rfl
      | succ count => rw [List.take_succ_cons, List.take_succ_cons, ih]

end

namespace History

inductive Action (α : Type) where
  | push (entry : α)
  | clear
  deriving DecidableEq, Repr

def Action.entry? {α : Type} : Action α → Option α
  | push entry => some entry
  | clear => none

variable {α : Type} [DecidableEq α] {history : History α}

def perform (history : History α) : Action α → History α
  | .push entry => history.push entry
  | .clear => history.clear

def run (history : History α) (actions : List (Action α)) : History α := actions.foldl perform history

/-- The values put in after the last clearing, in the order in which they came. -/
def sinceClear (actions : List (Action α)) : List α :=
  (actions.reverse.takeWhile (· ≠ .clear)).reverse.filterMap Action.entry?

@[simp] theorem sinceClear_nil : sinceClear ([] : List (Action α)) = [] := rfl

@[simp] theorem sinceClear_push (actions : List (Action α)) (entry : α) :
    sinceClear (actions ++ [.push entry]) = sinceClear actions ++ [entry] := by
  simp [sinceClear, Action.entry?]

@[simp] theorem sinceClear_clear (actions : List (Action α)) :
    sinceClear (actions ++ [.clear]) = [] := by
  simp [sinceClear]

theorem run_snoc (history : History α) (actions : List (Action α)) (action : Action α) :
    history.run (actions ++ [action]) = (history.run actions).perform action := by
  rw [run, List.foldl_append]
  rfl

@[simp] theorem limit_perform (history : History α) (action : Action α) :
    (history.perform action).limit = history.limit := by
  cases action <;> rfl

@[simp] theorem limit_run (history : History α) (actions : List (Action α)) :
    (history.run actions).limit = history.limit := by
  induction actions using List.reverseRecOn with
  | nil => rfl
  | append_singleton actions action ih => rw [run_snoc, limit_perform, ih]

/-- The entries are the distinct ones of the given values, the latest first, up to the limit. -/
def Shows (history : History α) (values : List α) : Prop :=
  history.entries = values.reverse.eraseDups.take history.limit

namespace Shows

variable {values : List α}

theorem length_le (shows : history.Shows values) : history.entries.length ≤ history.limit := by
  rw [shows]
  exact List.length_take_le _ _

theorem push (shows : history.Shows values) (entry : α) :
    (history.push entry).Shows (values ++ [entry]) := by
  have entries : (history.push entry).entries =
      (entry :: history.entries.erase entry).take history.limit := rfl
  have limit : (history.push entry).limit = history.limit := rfl
  rw [Shows, entries, eraseDups_reverse_snoc, limit, shows]
  cases history.limit with
  | zero => rfl
  | succ count => rw [List.take_succ_cons, List.take_succ_cons, take_erase_take]

theorem perform {actions : List (Action α)} (shows : history.Shows (sinceClear actions))
    (action : Action α) : (history.perform action).Shows (sinceClear (actions ++ [action])) := by
  cases action with
  | push entry =>
    rw [sinceClear_push]
    exact shows.push entry
  | clear =>
    rw [sinceClear_clear]
    exact List.take_nil.symm

end Shows

theorem empty_run_shows (limit : Nat) (actions : List (Action α)) :
    ((empty limit).run actions).Shows (sinceClear actions) := by
  induction actions using List.reverseRecOn with
  | nil => exact List.take_nil.symm
  | append_singleton actions action ih =>
    rw [run_snoc]
    exact ih.perform action

/-- An entry that is new to a history comes first, and the others stay but for at most the last. -/
theorem push_displaces_last {values : List α} (shows : history.Shows values)
    (room : 0 < history.limit) {entry : α} (absent : entry ∉ history.entries) :
    ∃ kept, (history.push entry).entries = entry :: kept ∧
      (history.entries = kept ∨ ∃ oldest, history.entries = kept ++ [oldest]) := by
  obtain ⟨count, limit⟩ := Nat.exists_eq_add_one_of_ne_zero (Nat.ne_of_gt room)
  refine ⟨history.entries.take count, ?_, ?_⟩
  · rw [push, List.erase_of_not_mem absent, limit, List.take_succ_cons]
  · have length := shows.length_le
    rcases Nat.lt_or_ge count history.entries.length with full | free
    · have last : history.entries.drop count = [history.entries[count]] := by
        rw [List.drop_eq_getElem_cons full, List.drop_eq_nil_of_le (by omega)]
      exact .inr ⟨history.entries[count], by rw [← last, List.take_append_drop]⟩
    · exact .inl (List.take_of_length_le free).symm

/-- A history is the bounded list of distinct recent entries: it shows the first `limit` of the values put
in since the last clearing, taken backwards and without repetition. So a value that was dropped, put in
again, is back at the front, and at most one entry is dropped for it. -/
theorem run_recent (limit : Nat) (actions : List (Action α)) :
    ((empty limit).run actions).entries = (sinceClear actions).reverse.eraseDups.take limit ∧
    ∀ earlier later value, actions = earlier ++ later →
      value ∈ ((empty limit).run earlier).entries → value ∉ ((empty limit).run actions).entries →
      ∃ kept, ((empty limit).run (actions ++ [.push value])).entries = value :: kept ∧
        (((empty limit).run actions).entries = kept ∨
          ∃ oldest, ((empty limit).run actions).entries = kept ++ [oldest]) := by
  have shows := empty_run_shows limit actions
  refine ⟨by rw [shows, limit_run]; rfl, ?_⟩
  intro earlier later value _ shown dropped
  have room : 0 < limit := by
    have bounded := (empty_run_shows limit earlier).length_le
    rw [limit_run] at bounded
    exact Nat.lt_of_lt_of_le (List.length_pos_of_mem shown) bounded
  rw [run_snoc]
  exact push_displaces_last shows (by rwa [limit_run]) dropped

/-- The first of three values is dropped by the third, and drops the second when it comes again. -/
theorem run_recent_dropped :
    let actions : List (Action String) := [.push "road", .push "north", .push "south"]
    "road" ∈ ((empty 2).run (actions.take 1)).entries ∧ "road" ∉ ((empty 2).run actions).entries ∧
      ∃ kept, ((empty 2).run (actions ++ [.push "road"])).entries = "road" :: kept ∧
        (((empty 2).run actions).entries = kept ∨
          ∃ oldest, ((empty 2).run actions).entries = kept ++ [oldest]) := by
  intro actions
  have shown : "road" ∈ ((empty 2).run (actions.take 1)).entries := by decide
  have dropped : "road" ∉ ((empty 2).run actions).entries := by decide
  exact ⟨shown, dropped,
    (run_recent 2 actions).2 (actions.take 1) (actions.drop 1) "road" rfl shown dropped⟩

end History

end StoryScript.Editor
