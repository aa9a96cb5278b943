import StoryScript.Proofs.Desk

/-! What holds of a session whatever is done with it. The results and the cursor are those of the
latest search, or of none at all; a query is pending exactly while it is announced; and the histories
keep to their rules. -/
namespace StoryScript.Editor

open Search (MatchSet Options)

/-! ### Histories -/

/-- The entries are distinct and not more than a limit. -/
structure History.Bounded {α : Type} (history : History α) (limit : Nat) : Prop where
  limited : history.limit = limit
  distinct : history.entries.Nodup
  length : history.entries.length ≤ limit

namespace History

variable {α : Type} {history : History α} {limit : Nat}

theorem Bounded.clear (bounded : history.Bounded limit) : history.clear.Bounded limit :=
  ⟨bounded.limited, List.nodup_nil, Nat.zero_le _⟩

variable [DecidableEq α] {entry : α}

theorem mem_push {other : α} (member : other ∈ (history.push entry).entries) :
    other = entry ∨ other ∈ history.entries := by
  rcases List.mem_cons.mp (List.mem_of_mem_take member) with new | old
  · exact .inl new
  · exact .inr (List.mem_of_mem_erase old)

theorem Bounded.push (bounded : history.Bounded limit) : (history.push entry).Bounded limit := by
  refine ⟨bounded.limited, ?_, ?_⟩
  · refine List.Nodup.sublist (List.take_sublist _ _) (List.nodup_cons.mpr ⟨?_, ?_⟩)
    · exact bounded.distinct.not_mem_erase
    · exact bounded.distinct.erase _
  · simp only [History.push, List.length_take, bounded.limited]
    exact Nat.min_le_left _ _

end History

namespace Session

structure Recorded (session : Session) : Prop where
  queries : session.queryHistory.Bounded session.config.historyLimit
  nonempty : "" ∉ session.queryHistory.entries
  counts : ∀ record ∈ session.replaceHistory.entries, 1 ≤ record.count

/-- The cursor is on a match, if there is one. -/
structure CursorOn (session : Session) : Prop where
  none_iff : session.current = none ↔ session.results.found = []
  inside : ∀ index, session.current = some index → index < session.results.found.length

/-- The session is in step with its latest search, of the text `searched`. -/
structure InStep (met : List String) (searched : Option String) (session : Session) : Prop where
  pending_iff : session.pending.isSome ↔ session.phase = .querying
  pending_query : ∀ pending, session.pending = some pending → pending.query ≠ ""
  idle : session.phase = .idle → session.results = .initial
  ready : session.phase = .hasResults → session.query ≠ ""
  query : session.results.query = session.query
  options : session.results.options = session.options
  computed : session.results = .initial ∨ session.query ≠ "" ∧ ∃ source ∈ met,
    searched = some source ∧ session.results = Search.find source session.query session.options
  cursor : session.CursorOn

/-! ### Histories of a session -/

section

variable {session : Session}

theorem recorded_new (config : SessionConfig) : (Session.new config).Recorded :=
  ⟨⟨rfl, List.nodup_nil, Nat.zero_le _⟩, by simp [new, History.empty], by simp [new, History.empty]⟩

theorem Recorded.clear (recorded : session.Recorded) : session.clear.Recorded :=
  { recorded with }

theorem Recorded.close (recorded : session.Recorded) : session.close.Recorded :=
  ⟨recorded.queries.clear, by simp [Session.close, History.clear],
    by simp [Session.close, History.clear]⟩

theorem Recorded.push (recorded : session.Recorded) (record : ReplaceRecord)
    (positive : 1 ≤ record.count) :
    { session with replaceHistory := session.replaceHistory.push record }.Recorded := by
  refine ⟨recorded.queries, recorded.nonempty, fun other member => ?_⟩
  rcases History.mem_push member with rfl | old
  · exact positive
  · exact recorded.counts other old

/-- A query that could be used joins the history, and no query evaluated is empty. -/
theorem Recorded.evaluate (recorded : session.Recorded) {query : String} (nonempty : query ≠ "")
    (options : Options) (source : String) : (session.evaluate query options source).Recorded := by
  by_cases failed : (Search.find source query options).patternError.isSome
  · exact ⟨by simpa [Session.evaluate, failed] using recorded.queries,
      by simpa [Session.evaluate, failed] using recorded.nonempty, recorded.counts⟩
  · refine ⟨?_, ?_, recorded.counts⟩
    · simpa [Session.evaluate, failed] using recorded.queries.push
    · simp only [Session.evaluate, failed]
      intro member
      rcases History.mem_push member with new | old
      · exact nonempty new.symm
      · exact recorded.nonempty old

theorem Recorded.replacedOne (recorded : session.Recorded) (nonempty : session.query ≠ "")
    (replacement : String) (index : Nat) (text : String) :
    (session.replacedOne replacement index text).Recorded := by
  have pushed := recorded.push ⟨session.query, replacement, 1, .current⟩ (Nat.le_refl _)
  have raised : { session with
      replaceHistory := session.replaceHistory.push ⟨session.query, replacement, 1, .current⟩
      generation := session.generation + 1 }.Recorded := { pushed with }
  have searched := raised.evaluate nonempty session.options text
  unfold Session.replacedOne
  dsimp only
  split
  · exact searched
  · exact { searched with }

end

/-! ### Searches of a session -/

section

variable {session : Session} {met : List String} {searched : Option String}

theorem inStep_clear (met : List String) (searched : Option String) (session : Session) :
    session.clear.InStep met searched where
  pending_iff := by simp [clear]
  pending_query := by simp [clear]
  idle _ := rfl
  ready := by simp [clear]
  query := rfl
  options := rfl
  computed := .inl rfl
  cursor := ⟨by simp [clear, MatchSet.initial], by simp [clear]⟩

theorem inStep_new (config : SessionConfig) (met : List String) (searched : Option String) :
    (Session.new config).InStep met searched where
  pending_iff := by simp [new]
  pending_query := by simp [new]
  idle _ := rfl
  ready := by simp [new]
  query := rfl
  options := rfl
  computed := .inl rfl
  cursor := ⟨by simp [new, MatchSet.initial], by simp [new]⟩

theorem inStep_close (met : List String) (searched : Option String) (session : Session) :
    session.close.InStep met searched :=
  have cleared := inStep_clear met searched session
  { cleared with cursor := { cleared.cursor with } }

theorem InStep.meet (inStep : session.InStep met searched) (text : String) :
    session.InStep (text :: met) searched := by
  refine { inStep with computed := ?_ }
  rcases inStep.computed with initial | ⟨nonempty, source, member, found⟩
  · exact .inl initial
  · exact .inr ⟨nonempty, source, List.mem_cons_of_mem _ member, found⟩

/-- Announcing a query leaves the results and the cursor of the last one in place. -/
theorem InStep.beginQuery (inStep : session.InStep met searched) (query : String)
    (options : Options) : (session.beginQuery query options).2.InStep met searched := by
  unfold Session.beginQuery
  split
  · exact inStep_clear met searched session
  · rename_i nonempty
    exact {
      pending_iff := by simp
      pending_query := by rintro _ ⟨⟩; simpa using nonempty
      idle := by simp
      ready := by simp
      query := inStep.query
      options := inStep.options
      computed := inStep.computed
      cursor := { inStep.cursor with } }

/-- Evaluating a query brings a session in step, whatever it was before. -/
theorem inStep_evaluate (session : Session) (taken : session.pending = none) {query : String}
    (nonempty : query ≠ "") (options : Options) (source : String) (met : List String) :
    (session.evaluate query options source).InStep (source :: met) (some source) where
  pending_iff := by simp [evaluate, taken]
  pending_query := by simp [evaluate, taken]
  idle := by simp [evaluate]
  ready _ := nonempty
  query := Search.find_query source query options
  options := Search.find_options source query options
  computed := .inr ⟨nonempty, source, List.mem_cons_self, rfl, rfl⟩
  cursor := by
    by_cases none : (Search.find source query options).found = []
    · exact ⟨by simp [evaluate, none], by simp [evaluate, none]⟩
    · refine ⟨by simp [evaluate, none], ?_⟩
      have := List.length_pos_iff.mpr none
      simpa [evaluate, none] using this

theorem InStep.moveTo (inStep : session.InStep met searched) {index : Nat}
    (inside : index < session.results.found.length) :
    { session with current := some index }.InStep met searched := by
  have some_match : session.results.found ≠ [] := List.length_pos_iff.mp (by omega)
  exact { inStep with cursor := ⟨by simp [some_match], by rintro _ ⟨⟩; exact inside⟩ }

theorem InStep.pending_eq_none (inStep : session.InStep met searched)
    (ready : session.phase = .hasResults) : session.pending = none := by
  have notPending := mt inStep.pending_iff.mp (by simp [ready])
  simpa using notPending

theorem InStep.replacedOne (inStep : session.InStep met searched)
    (ready : session.phase = .hasResults) (replacement : String) (index : Nat) (text : String) :
    (session.replacedOne replacement index text).InStep (text :: met) (some text) := by
  -- The new search brings the cursor to the first match; it then goes back to where it was, or to the
  -- last match if there are fewer now.
  have again := inStep_evaluate
    { session with
      replaceHistory := session.replaceHistory.push ⟨session.query, replacement, 1, .current⟩
      generation := session.generation + 1 }
    (inStep.pending_eq_none ready) (inStep.ready ready) session.options text met
  unfold Session.replacedOne
  dsimp only
  split
  · exact again
  · exact again.moveTo (by omega)

theorem InStep.step (inStep : session.InStep met searched) (direction : Direction) :
    (session.step direction).2.InStep met searched := by
  rw [step_session]
  split
  · rename_i active
    exact inStep.moveTo (stepIndex_lt (List.length_pos_iff.mpr active.2) direction _)
  · exact inStep

end

end Session

/-! ### Panels and desks -/

structure Panel.Sound (panel : Panel) : Prop where
  inStep : panel.session.InStep panel.met panel.searched
  recorded : panel.session.Recorded

namespace Panel

variable {panel : Panel}

theorem sound_new (config : SessionConfig) : (Panel.new config).Sound :=
  ⟨Session.inStep_new config _ _, Session.recorded_new config⟩

theorem Sound.completeQuery (sound : panel.Sound) (buffer : Buffer) (ticket : Ticket)
    (source : String) : (panel.perform buffer (.completeQuery ticket source)).1.Sound := by
  rcases panel.session.completeQuery_cases ticket source with dropped | ⟨pending, waiting, _, done⟩
  · simp only [Panel.perform, dropped]
    exact ⟨sound.inStep.meet source, sound.recorded⟩
  · simp only [Panel.perform, done]
    have nonempty := sound.inStep.pending_query pending waiting
    have recorded : { panel.session with pending := none }.Recorded := { sound.recorded with }
    exact ⟨Session.inStep_evaluate _ rfl nonempty _ _ _, recorded.evaluate nonempty _ _⟩

theorem Sound.search (sound : panel.Sound) (buffer : Buffer) (query : String) (options : Options)
    (source : String) : (panel.perform buffer (.search query options source)).1.Sound := by
  simp only [Panel.perform, Session.search_eq]
  by_cases empty : query = ""
  · simp only [empty, if_true]
    exact ⟨Session.inStep_clear _ _ _, sound.recorded.clear⟩
  · simp only [empty, if_false]
    have recorded : { panel.session with
        generation := panel.session.generation + 1
        pending := none }.Recorded := { sound.recorded with }
    exact ⟨Session.inStep_evaluate _ rfl empty _ _ _, recorded.evaluate empty _ _⟩

theorem Sound.step (sound : panel.Sound) (direction : Direction) :
    { panel with session := (panel.session.step direction).2 }.Sound := by
  refine ⟨sound.inStep.step direction, ?_⟩
  rw [Session.step_session]
  split
  · exact { sound.recorded with }
  · exact sound.recorded

theorem Sound.replaceOne (sound : panel.Sound) (buffer : Buffer) (index : Nat)
    (replacement : String) :
    (panel.afterReplace buffer (panel.session.replaceOne index replacement buffer)).1.Sound := by
  cases returned : panel.session.replaceOne index replacement buffer with
  | error error => exact sound
  | ok result =>
    obtain ⟨done, session, edited⟩ := result
    rcases Session.replaceOne_ok returned with
      ⟨rfl, rfl, rfl⟩ | ⟨operation, text, rfl, ready, _, rfl, rfl⟩
    · exact sound
    · simp only [afterReplace, Buffer.text_changed]
      exact ⟨sound.inStep.replacedOne ready replacement index text,
        sound.recorded.replacedOne (sound.inStep.ready ready) replacement index text⟩

theorem Sound.replaceAll (sound : panel.Sound) (buffer : Buffer) (replacement : String) :
    (panel.perform buffer (.replaceAll replacement)).1.Sound := by
  simp only [Panel.perform]
  cases returned : panel.session.replaceAll replacement buffer with
  | error error => exact sound
  | ok result =>
    obtain ⟨done, session, edited⟩ := result
    rcases Session.replaceAll_ok returned with
      ⟨rfl, rfl, rfl⟩ | ⟨text, rfl, some_match, _, rfl, rfl⟩
    · exact sound
    · have positive := List.length_pos_iff.mpr some_match
      exact ⟨Session.inStep_clear _ _ _,
        (sound.recorded.push ⟨_, replacement, _, .all⟩ positive).clear⟩

theorem Sound.perform (sound : panel.Sound) (buffer : Buffer) (call : Call) :
    (panel.perform buffer call).1.Sound := by
  have recorded := sound.recorded
  cases call with
  | beginQuery query options =>
    refine ⟨sound.inStep.beginQuery query options, ?_⟩
    simp only [Panel.perform, Session.beginQuery]
    split
    · exact recorded.clear
    · exact { recorded with }
  | completeQuery ticket source => exact sound.completeQuery buffer ticket source
  | search query options source => exact sound.search buffer query options source
  | step direction => exact sound.step direction
  | navigate direction =>
    simp only [Panel.perform, Session.navigate_session]
    exact sound.step direction
  | replaceCurrent replacement =>
    simp only [Panel.perform, Session.replaceCurrent]
    split
    · exact sound.replaceOne buffer _ replacement
    · exact sound
  | replaceOne index replacement => exact sound.replaceOne buffer index replacement
  | replaceAll replacement => exact sound.replaceAll buffer replacement
  | clear => exact ⟨Session.inStep_clear _ _ _, recorded.clear⟩
  | close => exact ⟨Session.inStep_close _ _ _, recorded.close⟩

end Panel

namespace Desk

def Sound (desk : Desk) : Prop := ∀ panel ∈ desk.panels, panel.Sound

theorem Sound.step {desk : Desk} (sound : desk.Sound) (event : Event) : (desk.step event).Sound :=
  forall_panels_step Panel.sound_new (fun _ buffer call kept => kept.perform buffer call) sound event

theorem Sound.run {desk : Desk} (sound : desk.Sound) (events : List Event) :
    (Desk.run events desk).Sound :=
  forall_panels_run Panel.sound_new (fun _ buffer call kept => kept.perform buffer call) sound events

theorem start_run_sound (buffer : Buffer) (events : List Event) :
    (Desk.run events (.start buffer)).Sound :=
  Sound.run (by simp [Sound, start]) events

end Desk

/-- What can be relied on in a session that has met the texts `met`. -/
structure Session.WellFormed (met : List String) (session : Session) : Prop where
  pending_iff : session.pending.isSome ↔ session.phase = .querying
  idle : session.phase = .idle →
    session.results = .initial ∧ session.query = "" ∧ session.current = none
  tagged : session.query = session.results.query ∧ session.options = session.results.options
  computed : session.results = .initial ∨ session.query ≠ "" ∧
    ∃ source ∈ met, session.results = Search.find source session.query session.options
  cursor_none_iff : session.current = none ↔ session.results.found = []
  cursor_inside : ∀ index, session.current = some index → index < session.results.found.length
  queries_distinct : session.queryHistory.entries.Nodup
  queries_nonempty : "" ∉ session.queryHistory.entries
  queries_bounded : session.queryHistory.entries.length ≤ session.config.historyLimit
  counts : ∀ record ∈ session.replaceHistory.entries, 1 ≤ record.count

namespace Panel

theorem Sound.idle {panel : Panel} (sound : panel.Sound) (idle : panel.session.phase = .idle) :
    panel.session.results = .initial ∧ panel.session.query = "" ∧ panel.session.current = none := by
  have initial := sound.inStep.idle idle
  refine ⟨initial, ?_, sound.inStep.cursor.none_iff.mpr (by rw [initial]; rfl)⟩
  rw [← sound.inStep.query, initial]
  rfl

theorem Sound.computed {panel : Panel} (sound : panel.Sound) :
    panel.session.results = .initial ∨ panel.session.query ≠ "" ∧ ∃ source ∈ panel.met,
      panel.session.results = Search.find source panel.session.query panel.session.options := by
  rcases sound.inStep.computed with initial | ⟨nonempty, source, member, _, found⟩
  · exact .inl initial
  · exact .inr ⟨nonempty, source, member, found⟩

end Panel

/-- However calls, copies and edits are interleaved, every session is well formed. -/
theorem Desk.run_wellFormed (buffer : Buffer) (events : List Event) :
    ∀ panel ∈ (Desk.run events (.start buffer)).panels, panel.session.WellFormed panel.met := by
  intro panel member
  have sound := Desk.start_run_sound buffer events panel member
  exact {
    pending_iff := sound.inStep.pending_iff
    idle := sound.idle
    tagged := ⟨sound.inStep.query.symm, sound.inStep.options.symm⟩
    computed := sound.computed
    cursor_none_iff := sound.inStep.cursor.none_iff
    cursor_inside := sound.inStep.cursor.inside
    queries_distinct := sound.recorded.queries.distinct
    queries_nonempty := sound.recorded.nonempty
    queries_bounded := sound.recorded.queries.length
    counts := sound.recorded.counts }

/-- A copy of a panel that announced a second query while the results of the first are shown. -/
theorem Desk.run_wellFormed_copy :
    let desk := Desk.run
      [.openPanel .default, .call 0 (.search "a" .default "aa"),
        .call 0 (.beginQuery "b" .default), .clonePanel 0]
      (.start (.ofText "aa"))
    ∃ panel, desk.panels[1]? = some panel ∧ panel.session.phase = .querying ∧
      panel.session.query = "a" ∧ panel.session.WellFormed panel.met := by
  intro desk
  have copied : ∃ panel, desk.panels[1]? = some panel ∧ panel.session.phase = .querying ∧
      panel.session.query = "a" := ⟨_, rfl, rfl, rfl⟩
  obtain ⟨panel, found, querying, query⟩ := copied
  exact ⟨panel, found, querying, query, Desk.run_wellFormed _ _ panel (List.mem_of_getElem? found)⟩

end StoryScript.Editor
