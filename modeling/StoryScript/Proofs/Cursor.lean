import StoryScript.Proofs.SessionInvariant
import StoryScript.Proofs.SourceScan

/-! The cursor over the matches of a search. The matches come in the order of the source, so the first
one that a scan meets at or after a point is the nearest. A session that shows matches has its cursor on
one of them, and steps take it round them in either direction. -/
namespace StoryScript

namespace Search

/-! ### The nearest match -/

namespace Match

def startsBefore (m : Match) (line column : Nat) : Bool :=
  m.line < line || (m.line == line && m.column < column)

variable {m : Match} {line column : Nat}

theorem startsBefore_iff :
    m.startsBefore line column ↔ m.line < line ∨ m.line = line ∧ m.column < column := by
  simp [startsBefore]

theorem startsAtOrAfter_iff :
    m.startsAtOrAfter line column ↔ line < m.line ∨ line = m.line ∧ column ≤ m.column := by
  simp [startsAtOrAfter]

theorem not_startsBefore_iff : ¬ m.startsBefore line column ↔ m.startsAtOrAfter line column := by
  rw [startsBefore_iff, startsAtOrAfter_iff]
  omega

end Match

/-- What passes from an entry to those before it holds of a front part of the list, and the front part is
as long as the number of entries it holds of. -/
theorem lt_countP_iff {α : Type} {holds : α → Bool} {entries : List α}
    (initial : entries.Pairwise fun a b => holds b → holds a) {index : Nat} {entry : α}
    (found : entries[index]? = some entry) : index < entries.countP holds ↔ holds entry := by
  induction entries generalizing index with
  | nil => cases found
  | cons first later ih =>
    obtain ⟨ahead, initial⟩ := List.pairwise_cons.mp initial
    by_cases head : holds first
    · rw [List.countP_cons_of_pos head]
      cases index with
      | zero =>
        obtain rfl := Option.some.inj found
        simp [head]
      | succ index => rw [Nat.succ_lt_succ_iff, ih initial found]
    · have none : ∀ other ∈ first :: later, ¬ holds other := by
        intro other member
        rcases List.mem_cons.mp member with rfl | member
        · exact head
        · exact fun other_holds => head (ahead other member other_holds)
      rw [List.countP_eq_zero.mpr none]
      exact ⟨fun less => absurd less (Nat.not_lt_zero _),
        fun entry_holds => absurd entry_holds (none entry (List.mem_of_getElem? found))⟩

namespace MatchSet

def countBefore (set : MatchSet) (line column : Nat) : Nat :=
  set.found.countP (·.startsBefore line column)

section

variable {set : MatchSet} {line column : Nat}
  (splits : ∀ index m, set.found[index]? = some m →
    (index < set.countBefore line column ↔ m.startsBefore line column))

include splits

theorem findIdx?_startsAtOrAfter :
    set.found.findIdx? (·.startsAtOrAfter line column) =
      if set.countBefore line column < set.found.length then some (set.countBefore line column)
      else none := by
  have atIndex {index : Nat} (inside : index < set.found.length) :
      set.found[index].startsAtOrAfter line column ↔ set.countBefore line column ≤ index := by
    rw [← Match.not_startsBefore_iff, ← splits index _ (List.getElem?_eq_getElem inside), Nat.not_lt]
  split
  · rename_i inside
    rw [List.findIdx?_eq_some_iff_getElem]
    refine ⟨inside, (atIndex inside).mpr (Nat.le_refl _), fun index less => ?_⟩
    rw [atIndex (Nat.lt_trans less inside)]
    exact Nat.not_le_of_lt less
  · rw [List.findIdx?_eq_none_iff]
    intro m member
    obtain ⟨index, inside, rfl⟩ := List.mem_iff_getElem.mp member
    rw [Bool.eq_false_iff, ne_eq, atIndex inside]
    omega

theorem firstAtOrAfter_eq : set.firstAtOrAfter line column =
    if set.found = [] then none
    else some (if set.countBefore line column < set.found.length then set.countBefore line column
      else 0) := by
  rw [firstAtOrAfter, findIdx?_startsAtOrAfter splits]
  by_cases empty : set.found = []
  · rw [if_pos (List.isEmpty_iff.mpr empty), if_pos empty]
  · rw [if_neg (mt List.isEmpty_iff.mp empty), if_neg empty]
    split <;> rfl

end

end MatchSet

/-- The match at or after a point that a search is asked for is the nearest: the matches before it are
those that start before the point. If all of them do, it is the first of all. -/
theorem firstAtOrAfter_nearest (source query : String) (options : Options) (line column : Nat) :
    let set := find source query options
    let before := set.countBefore line column
    set.firstAtOrAfter line column =
      (if set.found = [] then none
        else some (if before < set.found.length then before else 0)) ∧
    ∀ index m, set.found[index]? = some m →
      (index < before → m.line < line ∨ m.line = line ∧ m.column < column) ∧
      (before ≤ index → line < m.line ∨ line = m.line ∧ column ≤ m.column) := by
  intro set before
  have initial : set.found.Pairwise fun a b =>
      b.startsBefore line column → a.startsBefore line column := by
    refine (find_ascending source query options).imp fun {a b} ascending => ?_
    rw [Match.startsBefore_iff, Match.startsBefore_iff]
    omega
  have splits (index : Nat) (m : Match) (found : set.found[index]? = some m) :
      index < before ↔ m.startsBefore line column := lt_countP_iff initial found
  refine ⟨MatchSet.firstAtOrAfter_eq splits, fun index m found => ⟨fun below => ?_, fun above => ?_⟩⟩
  · exact Match.startsBefore_iff.mp ((splits index m found).mp below)
  · rw [← Match.startsAtOrAfter_iff, ← Match.not_startsBefore_iff, ← splits index m found]
    exact Nat.not_lt_of_le above

end Search

namespace Editor

open Search (Match)

/-! ### Going round -/

/-- The place `offset` places on from `start`, or back, on a round of `count` places. -/
def around (count start : Nat) (offset : Int) : Nat := ((start + offset) % count).toNat

section

variable {count : Nat} (positive : 0 < count) (start : Nat) (offset : Int)

include positive

theorem around_cast : (around count start offset : Int) = (start + offset) % count :=
  Int.toNat_of_nonneg (Int.emod_nonneg _ (by omega))

theorem around_lt : around count start offset < count := by
  have cast := around_cast positive start offset
  have less := Int.emod_lt_of_pos (start + offset) (Int.natCast_pos.mpr positive)
  omega

end

theorem around_zero {count start : Nat} (inside : start < count) : around count start 0 = start := by
  rw [around, Int.add_zero, Int.emod_eq_of_lt (by omega) (by omega), Int.toNat_natCast]

namespace Direction

def toStep : Direction → Int
  | .next => 1
  | .previous => -1

def net (directions : List Direction) : Int :=
  directions.count .next - directions.count .previous

theorem net_nil : net [] = 0 := rfl

theorem net_cons (direction : Direction) (later : List Direction) :
    net (direction :: later) = direction.toStep + net later := by
  cases direction <;> simp [net, toStep] <;> omega

end Direction

namespace Session

/-- A step goes to the next place of the round, or to the one before. -/
theorem stepIndex_around {count : Nat} (positive : 0 < count) (start : Nat) (offset : Int)
    (direction : Direction) :
    stepIndex count direction (some (around count start offset)) =
      around count start (offset + direction.toStep) := by
  have here := around_cast positive start offset
  have there := around_cast positive start (offset + direction.toStep)
  apply Int.ofNat_inj.mp
  rw [there, ← Int.add_assoc]
  cases direction with
  | next =>
    rw [stepIndex, Int.natCast_emod, Int.natCast_add, here]
    exact Int.emod_add_emod ..
  | previous =>
    -- The round is added before one is taken away, so the place never falls below zero.
    have back : ((around count start offset + count - 1 : Nat) : Int) =
        around count start offset + (-1) + count := by omega
    rw [stepIndex, Int.natCast_emod, back, Int.add_emod_right, here]
    exact Int.emod_add_emod ..

/-- A sum, if it fits in a machine word. -/
def wordSum? (a b : Nat) : Option Nat := if a + b < UInt64.size then some (a + b) else none

/-- A difference, if it is not negative. -/
def wordDifference? (a b : Nat) : Option Nat := if b ≤ a then some (a - b) else none

/-- The index before or after a cursor, computed in machine words. -/
def stepIndex? (count index : Nat) : Direction → Option Nat
  | .next => (wordSum? index 1).map (· % count)
  | .previous => do
    let sum ← wordSum? index count
    let back ← wordDifference? sum 1
    return back % count

theorem stepIndex?_eq_some {count index : Nat} (inside : index < count)
    (fits : count < UInt64.size / 2) (direction : Direction) :
    stepIndex? count index direction = some (stepIndex count direction (some index)) := by
  have word : UInt64.size / 2 + UInt64.size / 2 = UInt64.size := rfl
  cases direction with
  | next =>
    rw [stepIndex?, wordSum?, if_pos (by omega)]
    rfl
  | previous =>
    have sum : wordSum? index count = some (index + count) := if_pos (by omega)
    have back : wordDifference? (index + count) 1 = some (index + count - 1) := if_pos (by omega)
    simp only [stepIndex?, sum, back, Option.bind_eq_bind, Option.bind_some]
    rfl

/-- Steps one after the other: what each returns, and the session they leave. -/
def walk (session : Session) : List Direction → List (Option Match) × Session
  | [] => ([], session)
  | direction :: later =>
    let (returned, moved) := session.step direction
    let (others, last) := moved.walk later
    (returned :: others, last)

theorem length_walk (session : Session) (directions : List Direction) :
    (session.walk directions).1.length = directions.length := by
  induction directions generalizing session with
  | nil => rfl
  | cons direction later ih => exact congrArg (· + 1) (ih (session.step direction).2)

def movedTo (session : Session) (index : Nat) : Session := { session with current := some index }

/-- The session shows results, and its cursor is so many places on from `start`. -/
structure Placed (session : Session) (start : Nat) (offset : Int) : Prop where
  ready : session.phase = .hasResults
  some_match : session.results.found ≠ []
  cursor : session.current = some (around session.results.found.length start offset)

namespace Placed

variable {session : Session} {start : Nat} {offset : Int}

theorem movedTo (placed : session.Placed start offset) (offset' : Int) :
    (session.movedTo (around session.results.found.length start offset')).Placed start offset' :=
  ⟨placed.ready, placed.some_match, rfl⟩

theorem step_eq (placed : session.Placed start offset) (direction : Direction) :
    session.step direction =
      (session.results.found[around session.results.found.length start (offset + direction.toStep)]?,
        session.movedTo
          (around session.results.found.length start (offset + direction.toStep))) := by
  have moved := stepIndex_around (List.length_pos_iff.mpr placed.some_match) start offset direction
  rw [step, if_pos ⟨placed.ready, placed.some_match⟩, placed.cursor, moved]
  rfl

/-- Steps add up, and change nothing but the cursor. -/
theorem walk_session (placed : session.Placed start offset) (directions : List Direction) :
    (session.walk directions).2 = session.movedTo
      (around session.results.found.length start (offset + Direction.net directions)) := by
  induction directions generalizing session offset with
  | nil =>
    rw [Direction.net_nil, Int.add_zero, Session.movedTo, ← placed.cursor]
    rfl
  | cons direction later ih =>
    have rest := ih (placed.movedTo (offset + direction.toStep))
    rw [Direction.net_cons, ← Int.add_assoc]
    simp only [walk, placed.step_eq direction]
    exact rest

theorem walk_returned (placed : session.Placed start offset) (directions : List Direction) (k : Nat)
    (taken : k < directions.length) :
    (session.walk directions).1[k]? = some (session.results.found[around session.results.found.length
      start (offset + Direction.net (directions.take (k + 1)))]?) := by
  induction directions generalizing session offset k with
  | nil => cases taken
  | cons direction later ih =>
    simp only [walk, placed.step_eq direction]
    rw [List.take_succ_cons, Direction.net_cons, ← Int.add_assoc]
    cases k with
    | zero => simp [Direction.net_nil]
    | succ k =>
      rw [List.length_cons] at taken
      exact ih (placed.movedTo (offset + direction.toStep)) k (by omega)

end Placed

end Session

theorem Panel.Sound.exists_placed {panel : Panel} (sound : panel.Sound)
    (ready : panel.session.phase = .hasResults) (some_match : panel.session.results.found ≠ []) :
    ∃ start < panel.session.results.found.length, panel.session.current = some start ∧
      panel.session.Placed start 0 := by
  cases cursor : panel.session.current with
  | none => exact absurd (sound.inStep.cursor.none_iff.mp cursor) some_match
  | some start =>
    have inside := sound.inStep.cursor.inside start cursor
    exact ⟨start, inside, rfl, ready, some_match, by rw [around_zero inside, cursor]⟩

/-- Stepping goes round the matches: from a session that shows some, each step returns the match that it
has gone to, the cursor ends as many places on as there were more steps forward than back, and nothing but
the cursor changes. With fewer than 2^63 matches no step leaves the range of machine words. A session that
shows no matches does not step at all. -/
theorem Desk.walk_goes_round (buffer : Buffer) (events : List Event) {panel : Panel}
    (member : panel ∈ (Desk.run events (.start buffer)).panels) :
    let session := panel.session
    let found := session.results.found
    (session.phase = .hasResults → found ≠ [] → ∃ start < found.length,
      session.current = some start ∧ ∀ directions : List Direction,
        let place (steps : List Direction) := around found.length start (Direction.net steps)
        (session.walk directions).2 = { session with current := some (place directions) } ∧
        (session.walk directions).1.length = directions.length ∧
        (∀ k < directions.length, ∃ m, found[place (directions.take (k + 1))]? = some m ∧
          (session.walk directions).1[k]? = some (some m)) ∧
        (found.length < UInt64.size / 2 → ∀ direction,
          Session.stepIndex? found.length (place directions) direction =
            some (Session.stepIndex found.length direction (some (place directions))))) ∧
    (¬ (session.phase = .hasResults ∧ found ≠ []) →
      ∀ direction, session.step direction = (none, session)) := by
  intro session found
  have sound := Desk.start_run_sound buffer events panel member
  refine ⟨fun ready some_match => ?_, fun nowhere direction => if_neg nowhere⟩
  obtain ⟨start, inside, cursor, placed⟩ := sound.exists_placed ready some_match
  have reached (steps : List Direction) : around found.length start (Direction.net steps) < found.length :=
    around_lt (List.length_pos_iff.mpr some_match) start _
  refine ⟨start, inside, cursor, fun directions => ⟨?_, session.length_walk directions, ?_, ?_⟩⟩
  · have walked := placed.walk_session directions
    rwa [Int.zero_add] at walked
  · intro k taken
    have returned := placed.walk_returned directions k taken
    rw [Int.zero_add, List.getElem?_eq_getElem (reached _)] at returned
    exact ⟨_, List.getElem?_eq_getElem (reached _), returned⟩
  · exact fun fits => Session.stepIndex?_eq_some (reached directions) fits

/-- Three matches, walked back over the first of them. -/
theorem Desk.walk_goes_round_backwards :
    ∃ panel ∈ (Desk.run [.openPanel .default, .call 0 (.search "a" .default "a a\na")]
        (.start (.ofText "a a\na"))).panels,
      panel.session.phase = .hasResults ∧ panel.session.results.found.length = 3 ∧
      panel.session.current = some 0 ∧
      (panel.session.walk [.previous, .previous, .next, .previous]).2.current = some 1 := by
  have three : (Search.find "a a\na" "a" .default).found.length = 3 := by
    rw [Search.length_found rfl _ (by decide) (by decide +kernel)]
    decide +kernel
  have some_match : (Search.find "a a\na" "a" .default).found ≠ [] :=
    List.length_pos_iff.mp (by omega)
  obtain ⟨panel, reached, ready, three, first⟩ : ∃ panel ∈ (Desk.run [.openPanel .default,
        .call 0 (.search "a" .default "a a\na")] (.start (.ofText "a a\na"))).panels,
      panel.session.phase = .hasResults ∧ panel.session.results.found.length = 3 ∧
      panel.session.current = some 0 := by
    have nonempty : "a" ≠ "" := by decide
    obtain ⟨ready, _, _, results⟩ :=
      (Session.new .default).search_results nonempty .default "a a\na"
    exact ⟨_, List.mem_singleton.mpr rfl, ready, results ▸ three,
      (Session.new .default).search_current nonempty some_match⟩
  refine ⟨panel, reached, ready, three, first, ?_⟩
  obtain ⟨start, _, cursor, walked⟩ := (Desk.walk_goes_round _ _ reached).1 ready
    (List.length_pos_iff.mp (by omega))
  obtain rfl := Option.some.inj (first.symm.trans cursor)
  rw [(walked _).1, three]
  rfl

end Editor

end StoryScript
