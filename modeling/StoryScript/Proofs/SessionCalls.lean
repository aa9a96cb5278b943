import StoryScript.Editor.Session
import StoryScript.Proofs.Buffers
import StoryScript.Proofs.ReplaceAll

/-! The calls of a search session. A replace call is refused when the buffer's fingerprint is not that
of the text which was searched; when the buffer does hold that text, the plan always applies. -/
namespace StoryScript.Editor.Session

open Search (MatchSet Options)
open Edit (Operation)

variable (session : Session) (buffer : Buffer) (replacement : String)

theorem search_eq (query : String) (options : Options) (source : String) :
    session.search query options source =
      if query = "" then (.initial, session.clear)
      else (Search.find source query options,
        { session with generation := session.generation + 1, pending := none }.evaluate query options
          source) := by
  by_cases empty : query = ""
  · simp [search, beginQuery, empty, clear]
  · simp [search, beginQuery, completeQuery, empty, evaluate]

theorem search_results {query : String} (nonempty : query ≠ "") (options : Options)
    (source : String) :
    (session.search query options source).2.phase = .hasResults ∧
    (session.search query options source).2.query = query ∧
    (session.search query options source).2.options = options ∧
    (session.search query options source).2.results = Search.find source query options := by
  rw [search_eq, if_neg nonempty]
  exact ⟨rfl, rfl, rfl, rfl⟩

theorem search_current {query source : String} {options : Options} (nonempty : query ≠ "")
    (some_match : (Search.find source query options).found ≠ []) :
    (session.search query options source).2.current = some 0 := by
  rw [search_eq, if_neg nonempty]
  exact if_neg (mt List.isEmpty_iff.mp some_match)

/-- A ticket is dropped, or is the latest and has its query evaluated. -/
theorem completeQuery_cases (ticket : Ticket) (source : String) :
    session.completeQuery ticket source = (none, session) ∨
    ∃ pending, session.pending = some pending ∧ ticket.generation = session.generation ∧
      session.completeQuery ticket source =
        (some (Search.find source pending.query pending.options),
          { session with pending := none }.evaluate pending.query pending.options source) := by
  unfold completeQuery
  split
  · rename_i latest
    cases waiting : session.pending with
    | none => exact .inl rfl
    | some pending => exact .inr ⟨pending, rfl, latest, rfl⟩
  · exact .inl rfl

/-- The session after a match was replaced: the replacement is recorded, and the query searched for
in the new text. -/
def replacedOne (index : Nat) (text : String) : Session :=
  let recorded := { session with
    replaceHistory := session.replaceHistory.push ⟨session.query, replacement, 1, .current⟩
    generation := session.generation + 1 }
  let searched := recorded.evaluate session.query session.options text
  if searched.results.found.length = 0 then searched
  else { searched with current := some (min index (searched.results.found.length - 1)) }

@[simp] theorem replacedOne_query (index : Nat) (text : String) :
    (session.replacedOne replacement index text).query = session.query := by
  unfold replacedOne
  dsimp only
  split <;> rfl

@[simp] theorem replacedOne_options (index : Nat) (text : String) :
    (session.replacedOne replacement index text).options = session.options := by
  unfold replacedOne
  dsimp only
  split <;> rfl

@[simp] theorem replacedOne_results (index : Nat) (text : String) :
    (session.replacedOne replacement index text).results =
      Search.find text session.query session.options := by
  unfold replacedOne
  dsimp only
  split <;> rfl

@[simp] theorem replacedOne_phase (index : Nat) (text : String) :
    (session.replacedOne replacement index text).phase = .hasResults := by
  unfold replacedOne
  dsimp only
  split <;> rfl

def replacedAll (count : Nat) : Session :=
  { session with
    replaceHistory := session.replaceHistory.push ⟨session.query, replacement, count, .all⟩ }.clear

/-- The buffer's text does not have the fingerprint of the text that was searched. -/
def Stale : Prop := Fingerprint.ofText buffer.text ≠ session.results.sourceHash

def staleError : Edit.Error :=
  .staleMatches session.results.sourceHash (.ofText buffer.text)

instance : Decidable (session.Stale buffer) := inferInstanceAs (Decidable (_ ≠ _))

theorem checkCurrent_eq : session.checkCurrent buffer =
    if session.Stale buffer then .error (session.staleError buffer) else .ok () := by
  unfold checkCurrent staleError
  dsimp only
  by_cases stale : session.Stale buffer
  · rw [if_pos stale, if_neg stale]
  · rw [if_neg stale, if_pos (Decidable.not_not.mp stale)]

/-- What replacing a match can do: nothing without results or without the match, an error on a stale
buffer, and otherwise one edit of the buffer and a new search. -/
theorem replaceOne_eq (index : Nat) :
    session.replaceOne index replacement buffer =
      if session.phase ≠ .hasResults then .ok (none, session, buffer)
      else if session.Stale buffer then .error (session.staleError buffer)
      else match Edit.planOne session.results index replacement with
        | none => .ok (none, session, buffer)
        | some operation => (Edit.apply buffer.text [operation]).map fun text =>
          (some operation, session.replacedOne replacement index text, buffer.changed text) := by
  unfold replaceOne
  rw [checkCurrent_eq]
  by_cases idle : session.phase ≠ .hasResults
  · rw [if_pos idle, if_pos idle]
    rfl
  · rw [if_neg idle, if_neg idle]
    by_cases stale : session.Stale buffer
    · rw [if_pos stale, if_pos stale]
      rfl
    · rw [if_neg stale, if_neg stale]
      cases Edit.planOne session.results index replacement with
      | none => rfl
      | some operation =>
        simp only [Buffer.applyEdits_eq]
        cases Edit.apply buffer.text [operation] with
        | error error => rfl
        | ok text =>
          simp only [Except.map, reduceCtorEq, if_false, bind, Except.bind, Buffer.text_changed]
          rfl

theorem planAll_ne_nil {set : MatchSet} (some_match : set.found ≠ []) :
    Edit.planAll set replacement ≠ [] := by
  rw [← List.length_pos_iff, Edit.length_planAll]
  exact List.length_pos_iff.mpr some_match

theorem replaceAll_eq :
    session.replaceAll replacement buffer =
      if session.phase ≠ .hasResults ∨ session.results.found = [] then .ok ([], session, buffer)
      else if session.Stale buffer then .error (session.staleError buffer)
      else (Edit.apply buffer.text (Edit.planAll session.results replacement)).map fun text =>
        (Edit.planAll session.results replacement,
          session.replacedAll replacement session.results.found.length, buffer.changed text) := by
  unfold replaceAll
  rw [checkCurrent_eq]
  by_cases idle : session.phase ≠ .hasResults ∨ session.results.found = []
  · rw [if_pos idle, if_pos idle]
    rfl
  · rw [if_neg idle, if_neg idle]
    by_cases stale : session.Stale buffer
    · rw [if_pos stale, if_pos stale]
      rfl
    · rw [if_neg stale, if_neg stale]
      have planned := planAll_ne_nil replacement fun none => idle (.inr none)
      simp only [Buffer.applyEdits_eq, planned, if_false, Edit.length_planAll]
      cases Edit.apply buffer.text (Edit.planAll session.results replacement) with
      | error error => rfl
      | ok text => rfl

section

variable {session buffer replacement}

/-- A replace call that returns has changed nothing, or has replaced the match. -/
theorem replaceOne_ok {index : Nat} {done : Option Operation} {session' : Session} {buffer' : Buffer}
    (returned : session.replaceOne index replacement buffer = .ok (done, session', buffer')) :
    (done = none ∧ session' = session ∧ buffer' = buffer) ∨
    ∃ operation text, done = some operation ∧ session.phase = .hasResults ∧
      Edit.apply buffer.text [operation] = .ok text ∧
      session' = session.replacedOne replacement index text ∧ buffer' = buffer.changed text := by
  rw [replaceOne_eq] at returned
  split at returned
  · cases returned; exact .inl ⟨rfl, rfl, rfl⟩
  · rename_i ready
    split at returned
    · cases returned
    · split at returned
      · cases returned; exact .inl ⟨rfl, rfl, rfl⟩
      · rename_i operation _
        cases applied : Edit.apply buffer.text [operation] with
        | error error => rw [applied] at returned; cases returned
        | ok text =>
          rw [applied] at returned
          cases returned
          exact .inr ⟨operation, text, rfl, Decidable.not_not.mp ready, applied, rfl, rfl⟩

theorem replaceAll_ok {done : List Operation} {session' : Session} {buffer' : Buffer}
    (returned : session.replaceAll replacement buffer = .ok (done, session', buffer')) :
    (done = [] ∧ session' = session ∧ buffer' = buffer) ∨
    ∃ text, done = Edit.planAll session.results replacement ∧ session.results.found ≠ [] ∧
      Edit.apply buffer.text done = .ok text ∧
      session' = session.replacedAll replacement session.results.found.length ∧
      buffer' = buffer.changed text := by
  rw [replaceAll_eq] at returned
  split at returned
  · cases returned; exact .inl ⟨rfl, rfl, rfl⟩
  · rename_i active
    split at returned
    · cases returned
    · cases applied : Edit.apply buffer.text (Edit.planAll session.results replacement) with
      | error error => rw [applied] at returned; cases returned
      | ok text =>
        rw [applied] at returned
        cases returned
        exact .inr ⟨text, rfl, fun none => active (.inr none), applied, rfl, rfl⟩

end

section

variable {session buffer}

def UpToDate (session : Session) (buffer : Buffer) : Prop :=
  session.results = Search.find buffer.text session.query session.options

theorem replaceOne_upToDate {index : Nat} {operation : Operation} {session' : Session}
    {buffer' : Buffer}
    (returned : session.replaceOne index replacement buffer =
      .ok (some operation, session', buffer')) :
    session'.UpToDate buffer' ∧ session'.query = session.query ∧
      session'.options = session.options := by
  rcases replaceOne_ok returned with ⟨⟨⟩, _⟩ | ⟨_, text, _, _, _, rfl, rfl⟩
  simp [UpToDate]

theorem UpToDate.not_stale (current : session.UpToDate buffer) : ¬ session.Stale buffer := by
  have hash := congrArg MatchSet.sourceHash current
  rw [Search.find_sourceHash] at hash
  exact not_not_intro hash.symm

/-- On the text that was searched, a replace call finds the match in place. -/
theorem UpToDate.replaceOne_eq (current : session.UpToDate buffer)
    (ready : session.phase = .hasResults) (index : Nat) :
    (Edit.planOne session.results index replacement = none ∧
      session.replaceOne index replacement buffer = .ok (none, session, buffer)) ∨
    ∃ operation text, Edit.planOne session.results index replacement = some operation ∧
      Edit.apply buffer.text [operation] = .ok text ∧
      session.replaceOne index replacement buffer = .ok (some operation,
        session.replacedOne replacement index text, buffer.changed text) := by
  rw [Session.replaceOne_eq, if_neg (not_not_intro ready), if_neg current.not_stale]
  cases planned : Edit.planOne session.results index replacement with
  | none => exact .inl ⟨rfl, rfl⟩
  | some operation =>
    rw [current] at planned
    obtain ⟨text, applied⟩ := Edit.apply_planOne_find planned
    exact .inr ⟨operation, text, rfl, applied, by dsimp only; rw [applied]; rfl⟩

theorem UpToDate.replaceAll_eq (current : session.UpToDate buffer)
    (ready : session.phase = .hasResults) (some_match : session.results.found ≠ []) :
    ∃ text, Edit.apply buffer.text (Edit.planAll session.results replacement) = .ok text ∧
      session.replaceAll replacement buffer = .ok (Edit.planAll session.results replacement,
        session.replacedAll replacement session.results.found.length, buffer.changed text) := by
  obtain ⟨text, applied, _⟩ :=
    Edit.apply_planAll_find buffer.text session.query session.options replacement
  rw [← current] at applied
  have active : ¬ (session.phase ≠ .hasResults ∨ session.results.found = []) := by
    simp [ready, some_match]
  refine ⟨text, applied, ?_⟩
  rw [Session.replaceAll_eq, if_neg active, if_neg current.not_stale, applied]
  rfl

end

theorem stepIndex_lt {count : Nat} (positive : 0 < count) (direction : Direction)
    (current : Option Nat) : stepIndex count direction current < count := by
  cases current with
  | none => cases direction <;> simp only [stepIndex] <;> omega
  | some index => cases direction <;> exact Nat.mod_lt _ positive

theorem step_session (direction : Direction) :
    (session.step direction).2 =
      if session.phase = .hasResults ∧ session.results.found ≠ [] then
        { session with
          current := some (stepIndex session.results.found.length direction session.current) }
      else session := by
  unfold step
  split <;> rfl

theorem navigate_session (direction : Direction) :
    (session.navigate direction buffer).2.1 = (session.step direction).2 := by
  unfold navigate
  split <;> simp_all

end StoryScript.Editor.Session
