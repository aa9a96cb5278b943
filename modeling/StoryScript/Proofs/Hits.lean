import StoryScript.Pattern.Matcher

/-! Where the matches of a program lie. A thread carries the place where it started, and a match ends
at the place its thread has reached. So every match lies between the place where the search began and
the end of the text, and the matches of a text follow one another without overlap. -/
namespace StoryScript.Pattern

structure Hit.Within (low high : Nat) (hit : Hit) : Prop where
  start : low ≤ hit.start
  order : hit.start ≤ hit.stop
  stop : hit.stop ≤ high

theorem Hit.Within.mono {low high high' : Nat} {hit : Hit} (within : hit.Within low high)
    (le : high ≤ high') : hit.Within low high' :=
  ⟨within.start, within.order, Nat.le_trans within.stop le⟩

/-- The hits lie between two places, each after the one before it. -/
def Hit.Ascend (low high : Nat) : List Hit → Prop
  | [] => True
  | hit :: later => hit.Within low high ∧ Ascend hit.stop high later

theorem Hit.Ascend.within {low high : Nat} {hits : List Hit} (ascend : Ascend low high hits) :
    ∀ hit ∈ hits, hit.Within low high := by
  induction hits generalizing low with
  | nil => simp
  | cons first later ih =>
    intro hit member
    rcases List.mem_cons.mp member with rfl | member
    · exact ascend.1
    · have inside := ih ascend.2 hit member
      exact ⟨Nat.le_trans (Nat.le_trans ascend.1.start ascend.1.order) inside.start,
        inside.order, inside.stop⟩

theorem Hit.Ascend.pairwise {low high : Nat} {hits : List Hit} (ascend : Ascend low high hits) :
    hits.Pairwise fun a b => a.stop ≤ b.start := by
  induction hits generalizing low with
  | nil => exact .nil
  | cons first later ih =>
    exact .cons (fun hit member => (ascend.2.within hit member).start) (ih ascend.2)

def StartedWithin (low high : Nat) (threads : List Thread) : Prop :=
  ∀ thread ∈ threads, low ≤ thread.start ∧ thread.start ≤ high

@[simp] theorem startedWithin_nil (low high : Nat) : StartedWithin low high [] := by
  simp [StartedWithin]

@[simp] theorem startedWithin_cons (low high : Nat) (thread : Thread) (others : List Thread) :
    StartedWithin low high (thread :: others) ↔
      (low ≤ thread.start ∧ thread.start ≤ high) ∧ StartedWithin low high others := by
  simp [StartedWithin]

namespace Program

variable {program : Program} {before : Option Char} {low offset : Nat}

/-- Following threads through instructions that consume nothing keeps their starts, and a match ends
at the current place. -/
theorem settle_within (program : Program) (before after : Option Char) (seen : Array Bool)
    {waiting threads : List Thread}
    (parked : StartedWithin low offset waiting) (started : StartedWithin low offset threads) :
    StartedWithin low offset (settle program before after offset seen waiting threads).1 ∧
      ∀ hit ∈ (settle program before after offset seen waiting threads).2,
        hit.Within low offset := by
  fun_induction settle program before after offset seen waiting threads
  case case1 => exact ⟨by simpa [StartedWithin] using parked, by simp⟩
  all_goals rw [startedWithin_cons] at started
  -- The thread is dropped.
  case case2 ih | case6 ih | case10 ih | case11 ih => exact ih parked started.2
  case case3 =>
    refine ⟨by simpa [StartedWithin] using parked, ?_⟩
    simp only [Option.mem_def, Option.some.injEq, forall_eq']
    exact ⟨started.1.1, started.1.2, Nat.le_refl _⟩
  case case4 ih => exact ih ((startedWithin_cons ..).mpr ⟨started.1, parked⟩) started.2
  -- The thread goes on elsewhere, from the same start.
  case case5 ih | case7 ih | case9 ih => exact ih parked ((startedWithin_cons ..).mpr started)
  case case8 ih =>
    exact ih parked ((startedWithin_cons ..).mpr ⟨started.1, (startedWithin_cons ..).mpr started⟩)

theorem advance_start {c : Char} {thread next : Thread}
    (advanced : program.advance c thread = some next) : next.start = thread.start := by
  unfold advance at advanced
  split at advanced
  · split at advanced
    · cases advanced; rfl
    · cases advanced
  · cases advanced

theorem filterMap_advance_within {c : Char} {threads : List Thread}
    (started : StartedWithin low offset threads) :
    StartedWithin low (offset + 1) (threads.filterMap (program.advance c)) := by
  intro next member
  obtain ⟨thread, origin, advanced⟩ := List.mem_filterMap.mp member
  have := started thread origin
  rw [advance_start advanced]
  omega

theorem joined_within {threads : List Thread} (found : Option Hit) (origin : low ≤ offset)
    (started : StartedWithin low offset threads) :
    StartedWithin low offset
      (if found.isNone then threads ++ [⟨0, offset, []⟩] else threads) := by
  split
  · intro thread member
    rcases List.mem_append.mp member with old | new
    · exact started thread old
    · rw [List.mem_singleton.mp new]
      exact ⟨origin, Nat.le_refl _⟩
  · exact started

/-- A search stays between the place where it began and the end of the text: new threads start at the
current place, which only grows. -/
theorem run_within {threads : List Thread} {found : Option Hit} {rest : List Char} {hit : Hit}
    (origin : low ≤ offset) (started : StartedWithin low offset threads)
    (earlier : ∀ hit ∈ found, hit.Within low offset)
    (result : program.run before offset threads found rest = some hit) :
    hit.Within low (offset + rest.length) := by
  induction rest generalizing before offset threads found with
  | nil =>
    rw [run.eq_def] at result
    have joined := joined_within found origin started
    generalize (if found.isNone then _ else _) = all at result joined
    dsimp only at result
    split at result
    · exact earlier hit result
    · have settled := settle_within program before none
        (Array.replicate program.code.size false) (startedWithin_nil low offset) joined
      rcases Option.or_eq_some_iff.mp result with new | ⟨_, old⟩
      · exact settled.2 hit new
      · exact earlier hit old
  | cons c rest ih =>
    rw [run.eq_def] at result
    have joined := joined_within found origin started
    generalize (if found.isNone then _ else _) = all at result joined
    dsimp only at result
    split at result
    · exact (earlier hit result).mono (Nat.le_add_right _ _)
    · have settled := settle_within program before (some c)
        (Array.replicate program.code.size false) (startedWithin_nil low offset) joined
      have next := ih (by omega) (filterMap_advance_within settled.1) (fun hit member => ?_) result
      · simpa [Nat.add_assoc, Nat.add_comm 1] using next
      · rcases Option.or_eq_some_iff.mp member with new | ⟨_, old⟩
        · exact (settled.2 hit new).mono (Nat.le_succ _)
        · exact (earlier hit old).mono (Nat.le_succ _)

theorem search_within {place : Place} {hit : Hit} (result : program.search place = some hit) :
    hit.Within place.offset (place.offset + place.rest.length) :=
  run_within (Nat.le_refl _) (startedWithin_nil _ _) (by simp) result

theorem search_after_within {text : List Char} {hit : Hit} (inside : offset ≤ text.length)
    (result : program.search (.after text offset) = some hit) : hit.Within offset text.length := by
  have within := search_within result
  simpa [Place.after, Nat.add_sub_cancel' inside] using within

/-- The next match lies after the one that ended at `offset`, and the search gets ahead. -/
theorem searchAfter_within {text : List Char} {hit : Hit} (inside : offset ≤ text.length)
    (result : program.searchAfter text offset = some hit) :
    hit.Within offset text.length ∧ offset < hit.stop := by
  unfold searchAfter at result
  split at result
  · rename_i first found
    have within := search_after_within inside found
    split at result
    · split at result
      · have next := search_after_within (by omega) result
        have start := next.start
        have order := next.order
        exact ⟨⟨by omega, order, next.stop⟩, by omega⟩
      · cases result
    · cases result
      have start := within.start
      have order := within.order
      exact ⟨within, by omega⟩
  · cases result

/-- No match is lost to the bounds under which the search goes on. -/
theorem matchesAfter_eq (program : Program) {text : List Char} (inside : offset ≤ text.length) :
    program.matchesAfter text offset = match program.searchAfter text offset with
      | some hit => hit :: program.matchesAfter text hit.stop
      | none => [] := by
  rw [matchesAfter]
  cases result : program.searchAfter text offset with
  | none => rfl
  | some hit =>
    have within := searchAfter_within inside result
    simp [within.2, within.1.stop]

theorem matchesAfter_ascend (program : Program) {text : List Char} {offset : Nat}
    (inside : offset ≤ text.length) :
    Hit.Ascend offset text.length (program.matchesAfter text offset) := by
  rw [matchesAfter_eq program inside]
  cases result : program.searchAfter text offset with
  | none => trivial
  | some hit =>
    have within := searchAfter_within inside result
    exact ⟨within.1, matchesAfter_ascend program within.1.stop⟩
termination_by text.length - offset
decreasing_by have := within.1.stop; omega

theorem allMatches_ascend (program : Program) (text : List Char) :
    Hit.Ascend 0 text.length (program.allMatches text) := by
  unfold allMatches
  cases result : program.search (.start text) with
  | none => trivial
  | some hit =>
    have within : hit.Within 0 text.length := by simpa [Place.start] using search_within result
    exact ⟨within, matchesAfter_ascend program within.stop⟩

end Program

end StoryScript.Pattern
