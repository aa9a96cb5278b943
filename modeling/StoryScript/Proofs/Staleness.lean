import StoryScript.Proofs.Literals
import StoryScript.Proofs.SessionInvariant

/-! When a replace call is refused. A session compares the fingerprint of the buffer's text with that
of the text it searched last, so a call is refused exactly when these texts differ, as far as the
fingerprint tells them apart. No other error is possible. -/
namespace StoryScript.Editor

open Edit (Operation)

def Session.Accepts (session : Session) (buffer : Buffer) : Prop :=
  ∀ replacement error,
    (∀ index, session.replaceOne index replacement buffer ≠ .error error) ∧
    session.replaceCurrent replacement buffer ≠ .error error ∧
    session.replaceAll replacement buffer ≠ .error error

namespace Panel

/-- The buffer's text and the text searched last have different fingerprints if they differ. -/
def Distinguished (panel : Panel) (buffer : Buffer) : Prop :=
  ∀ text, panel.searched = some text →
    Fingerprint.ofText buffer.text = Fingerprint.ofText text → buffer.text = text

/-- Results are shown, but of another text than the buffer's. -/
def Outdated (panel : Panel) (buffer : Buffer) : Prop :=
  panel.session.phase = .hasResults ∧ panel.searched ≠ some buffer.text

variable {panel : Panel} {buffer : Buffer}

theorem Sound.snapshot (sound : panel.Sound) (ready : panel.session.phase = .hasResults) :
    ∃ text, panel.searched = some text ∧
      panel.session.results = Search.find text panel.session.query panel.session.options := by
  rcases sound.inStep.computed with initial | ⟨_, text, _, searched, found⟩
  · have empty : panel.session.query = "" := by
      rw [← sound.inStep.query, initial]
      rfl
    exact absurd empty (sound.inStep.ready ready)
  · exact ⟨text, searched, found⟩

theorem Sound.upToDate (sound : panel.Sound) (ready : panel.session.phase = .hasResults)
    (same : panel.searched = some buffer.text) : panel.session.UpToDate buffer := by
  obtain ⟨text, searched, found⟩ := sound.snapshot ready
  rw [same] at searched
  cases searched
  exact found

theorem Sound.stale (sound : panel.Sound) (distinguished : panel.Distinguished buffer)
    (outdated : panel.Outdated buffer) : panel.session.Stale buffer := by
  obtain ⟨text, searched, found⟩ := sound.snapshot outdated.1
  intro equal
  rw [found, Search.find_sourceHash] at equal
  apply outdated.2
  rw [searched, distinguished text searched equal]

/-! ### The errors of replace calls -/

theorem Sound.replaceOne_eq_error_iff (sound : panel.Sound)
    (distinguished : panel.Distinguished buffer) (index : Nat) (replacement : String)
    (error : Edit.Error) :
    panel.session.replaceOne index replacement buffer = .error error ↔
      panel.Outdated buffer ∧ error = panel.session.staleError buffer := by
  by_cases ready : panel.session.phase = .hasResults
  · by_cases same : panel.searched = some buffer.text
    · have never : ¬ panel.Outdated buffer := fun outdated => outdated.2 same
      rcases (sound.upToDate ready same).replaceOne_eq replacement ready index with
        ⟨_, returned⟩ | ⟨_, _, _, _, returned⟩ <;>
        simp [returned, never]
    · have outdated : panel.Outdated buffer := ⟨ready, same⟩
      rw [Session.replaceOne_eq, if_neg (not_not_intro ready),
        if_pos (sound.stale distinguished outdated)]
      simp [outdated, eq_comm]
  · have never : ¬ panel.Outdated buffer := fun outdated => ready outdated.1
    rw [Session.replaceOne_eq, if_pos ready]
    simp [never]

theorem Sound.replaceCurrent_eq_error_iff (sound : panel.Sound)
    (distinguished : panel.Distinguished buffer) (replacement : String) (error : Edit.Error) :
    panel.session.replaceCurrent replacement buffer = .error error ↔
      panel.Outdated buffer ∧ panel.session.current ≠ none ∧
        error = panel.session.staleError buffer := by
  unfold Session.replaceCurrent
  cases cursor : panel.session.current with
  | none => simp
  | some index =>
    have atCursor := sound.replaceOne_eq_error_iff distinguished index replacement error
    simpa using atCursor

theorem Sound.replaceAll_eq_error_iff (sound : panel.Sound)
    (distinguished : panel.Distinguished buffer) (replacement : String) (error : Edit.Error) :
    panel.session.replaceAll replacement buffer = .error error ↔
      panel.Outdated buffer ∧ panel.session.results.found ≠ [] ∧
        error = panel.session.staleError buffer := by
  by_cases active : panel.session.phase = .hasResults ∧ panel.session.results.found ≠ []
  · obtain ⟨ready, some_match⟩ := active
    by_cases same : panel.searched = some buffer.text
    · have never : ¬ panel.Outdated buffer := fun outdated => outdated.2 same
      obtain ⟨_, _, returned⟩ :=
        (sound.upToDate ready same).replaceAll_eq replacement ready some_match
      simp [returned, never]
    · have outdated : panel.Outdated buffer := ⟨ready, same⟩
      rw [Session.replaceAll_eq, if_neg (by simp [ready, some_match]),
        if_pos (sound.stale distinguished outdated)]
      simp [outdated, some_match, eq_comm]
  · have nothing : panel.session.phase ≠ .hasResults ∨ panel.session.results.found = [] := by
      by_cases ready : panel.session.phase = .hasResults
      · exact .inr (by simpa [ready] using active)
      · exact .inl ready
    rw [Session.replaceAll_eq, if_pos nothing]
    rcases nothing with idle | none
    · simp [Outdated, idle]
    · simp [none]

theorem Sound.accepts (sound : panel.Sound) (same : panel.searched = some buffer.text) :
    panel.session.Accepts buffer := by
  have never : ¬ panel.Outdated buffer := fun outdated => outdated.2 same
  -- Where the texts are one, nothing is asked of the fingerprint.
  have distinguished : panel.Distinguished buffer := by
    intro text searched _
    rw [same] at searched
    exact Option.some.inj searched
  intro replacement error
  refine ⟨fun index => ?_, ?_, ?_⟩
  · simp [Ne, sound.replaceOne_eq_error_iff distinguished, never]
  · simp [Ne, sound.replaceCurrent_eq_error_iff distinguished, never]
  · simp [Ne, sound.replaceAll_eq_error_iff distinguished, never]

end Panel

/-! ### Between two replace calls -/

def Call.Replaces : Call → Prop
  | .replaceCurrent _ | .replaceOne _ _ | .replaceAll _ => True
  | _ => False

def Call.given? : Call → Option String
  | .completeQuery _ source | .search _ _ source => some source
  | _ => none

namespace Event

/-- A replace call of the panel at `index`. -/
def Replaces (index : Nat) : Event → Prop
  | .call called made => called = index ∧ made.Replaces
  | _ => False

def given? (index : Nat) : Event → Option String
  | .call called made => if called = index then made.given? else none
  | _ => none

end Event

/-- A panel keeps the text searched last until it replaces or is given another one. -/
theorem Panel.perform_searched {panel : Panel} {text : String} (searched : panel.searched = some text)
    (buffer : Buffer) {call : Call} (keeps : ¬ call.Replaces)
    (given : ∀ source, call.given? = some source → source = text) :
    (panel.perform buffer call).1.searched = some text := by
  cases call with
  | completeQuery ticket source =>
    rcases panel.session.completeQuery_cases ticket source with dropped | ⟨_, _, _, done⟩
    · simpa only [Panel.perform, dropped] using searched
    · simp only [Panel.perform, done]
      rw [given source rfl]
  | search query options source =>
    simp only [Panel.perform]
    split
    · exact searched
    · rw [given source rfl]
  | replaceCurrent _ | replaceOne _ _ | replaceAll _ => exact absurd trivial keeps
  | beginQuery _ _ | step _ | navigate _ | clear | close => exact searched

namespace Desk

def Searched (desk : Desk) (index : Nat) (text : String) : Prop :=
  ∃ panel, desk.panels[index]? = some panel ∧ panel.searched = some text

variable {desk : Desk} {index : Nat} {text : String}

theorem Searched.step (kept : desk.Searched index text) {event : Event}
    (keeps : ¬ event.Replaces index)
    (given : ∀ source, event.given? index = some source → source = text) :
    (desk.step event).Searched index text := by
  obtain ⟨panel, shown, searched⟩ := kept
  have inside := (List.getElem?_eq_some_iff.mp shown).1
  cases event with
  | openPanel _ | clonePanel _ =>
    refine ⟨panel, ?_, searched⟩
    rw [← shown]
    exact List.getElem?_append_left inside
  | call called call =>
    by_cases own : called = index
    · subst own
      have after := panel.perform_searched searched desk.buffer (fun replaces => keeps ⟨rfl, replaces⟩)
        (fun source gives => given source (by simp [Event.given?, gives]))
      exact ⟨_, by simp only [Desk.step, shown]; exact List.getElem?_set_self inside, after⟩
    · refine ⟨panel, ?_, searched⟩
      simp only [Desk.step]
      split
      · rw [List.getElem?_set_ne own, shown]
      · exact shown
  | edit operations =>
    refine ⟨panel, ?_, searched⟩
    simp only [Desk.step]
    split <;> exact shown
  | undo | select _ | reveal _ _ _ | limitUndo _ | load _ => exact ⟨panel, shown, searched⟩

theorem Searched.run (kept : desk.Searched index text) {later : List Event}
    (keeps : ∀ event ∈ later, ¬ event.Replaces index)
    (given : ∀ event ∈ later, ∀ source, event.given? index = some source → source = text) :
    (Desk.run later desk).Searched index text := by
  induction later generalizing desk with
  | nil => exact kept
  | cons event later ih =>
    rw [List.forall_mem_cons] at keeps given
    exact ih (kept.step keeps.1 given.1) keeps.2 given.2

section

variable {panel : Panel} {position : Nat} {replacement : String} {operation : Operation}
  {session : Session} {edited : Buffer}

theorem step_replaceOne (shown : desk.panels[index]? = some panel)
    (returned : panel.session.replaceOne position replacement desk.buffer =
      .ok (some operation, session, edited)) :
    desk.step (.call index (.replaceOne position replacement)) =
      ⟨edited, desk.panels.set index ⟨session, edited.text :: panel.met, some edited.text⟩⟩ := by
  simp only [Desk.step, shown, Panel.perform, returned, Panel.afterReplace]

theorem searched_of_replaceOne (shown : desk.panels[index]? = some panel)
    (returned : panel.session.replaceOne position replacement desk.buffer =
      .ok (some operation, session, edited)) :
    (desk.step (.call index (.replaceOne position replacement))).Searched index edited.text := by
  have inside := (List.getElem?_eq_some_iff.mp shown).1
  rw [step_replaceOne shown returned]
  exact ⟨_, List.getElem?_set_self inside, rfl⟩

end

/-- After a match was replaced, the panel's replace calls are accepted until the buffer's text
changes or the panel is given another text to search. -/
theorem accepts_after_replaceOne (sound : desk.Sound) (searched : desk.Searched index text)
    {later : List Event} (keeps : ∀ event ∈ later, ¬ event.Replaces index) :
    (∃ panel, (Desk.run later desk).panels[index]? = some panel ∧
      panel.session.Accepts (Desk.run later desk).buffer) ∨
    (Desk.run later desk).buffer.text ≠ text ∨
    ∃ event ∈ later, ∃ source, event.given? index = some source ∧ source ≠ text := by
  by_cases given : ∀ event ∈ later, ∀ source, event.given? index = some source → source = text
  · by_cases same : (Desk.run later desk).buffer.text = text
    · obtain ⟨panel, shown, latest⟩ := searched.run keeps given
      have kept := sound.run later panel (List.mem_of_getElem? shown)
      exact .inl ⟨panel, shown, kept.accepts (by rw [latest, same])⟩
    · exact .inr (.inl same)
  · exact .inr (.inr (by simpa using given))

/-- In every run, a replace call is refused exactly when the results shown are of another text than
the buffer's, as far as the fingerprint tells; and replacing a match brings the results up to date. -/
theorem replace_refused_iff_outdated (buffer : Buffer) (events : List Event) (index : Nat)
    (panel : Panel) :
    let desk := Desk.run events (.start buffer)
    desk.panels[index]? = some panel →
    (panel.session.phase = .hasResults → ∃ text, panel.searched = some text ∧
      panel.session.results = Search.find text panel.session.query panel.session.options) ∧
    (panel.Distinguished desk.buffer → ∀ replacement error,
      (∀ position, panel.session.replaceOne position replacement desk.buffer = .error error ↔
        panel.Outdated desk.buffer ∧ error = panel.session.staleError desk.buffer) ∧
      (panel.session.replaceCurrent replacement desk.buffer = .error error ↔
        panel.Outdated desk.buffer ∧ panel.session.current ≠ none ∧
          error = panel.session.staleError desk.buffer) ∧
      (panel.session.replaceAll replacement desk.buffer = .error error ↔
        panel.Outdated desk.buffer ∧ panel.session.results.found ≠ [] ∧
          error = panel.session.staleError desk.buffer)) ∧
    ∀ position replacement operation session edited,
      panel.session.replaceOne position replacement desk.buffer =
        .ok (some operation, session, edited) →
      (session.results = Search.find edited.text session.query session.options ∧
        session.query = panel.session.query ∧ session.options = panel.session.options) ∧
      ∀ later, (∀ event ∈ later, ¬ event.Replaces index) →
        let reached := Desk.run later (desk.step (.call index (.replaceOne position replacement)))
        (∃ next, reached.panels[index]? = some next ∧ next.session.Accepts reached.buffer) ∨
        reached.buffer.text ≠ edited.text ∨
        ∃ event ∈ later, ∃ source, event.given? index = some source ∧ source ≠ edited.text := by
  intro desk shown
  have desk_sound : desk.Sound := start_run_sound buffer events
  have sound := desk_sound panel (List.mem_of_getElem? shown)
  refine ⟨sound.snapshot, fun distinguished replacement error => ?_, ?_⟩
  · exact ⟨fun position => sound.replaceOne_eq_error_iff distinguished position replacement error,
      sound.replaceCurrent_eq_error_iff distinguished replacement error,
      sound.replaceAll_eq_error_iff distinguished replacement error⟩
  · intro position replacement operation session edited returned
    refine ⟨Session.replaceOne_upToDate _ returned, fun later keeps => ?_⟩
    exact accepts_after_replaceOne (desk_sound.step _) (searched_of_replaceOne shown returned) keeps

end Desk

theorem Session.replaceOne_first {session : Session} (ready : session.phase = .hasResults)
    (found : session.results = Search.find "aa" "a" .default) {buffer : Buffer}
    (same : buffer.text = "aa") :
    session.replaceOne 0 "b" buffer = .ok (some ⟨1, 1, 2, "b"⟩,
      session.replacedOne "b" 0 "ba", buffer.changed "ba") := by
  -- The matcher recurses on a measure, where `decide` does not reduce.
  have planned : Edit.planOne (Search.find "aa" "a" .default) 0 "b" = some ⟨1, 1, 2, "b"⟩ := by
    rw [Search.find_literal "aa" rfl (by decide) (by decide +kernel)]
    decide +kernel
  have applied : Edit.apply "aa" [⟨1, 1, 2, "b"⟩] = .ok "ba" := by
    rw [Edit.apply_singleton]
    decide +kernel
  have current : ¬ session.Stale buffer := by simp [Session.Stale, found, same]
  rw [Session.replaceOne_eq, if_neg (not_not_intro ready), if_neg current, found, planned]
  dsimp only
  rw [same, applied]
  rfl

/-- A panel replaces the first of two matches and goes on from there; had its buffer been changed
before, it would have refused. -/
theorem Desk.replace_refused_iff_outdated_first :
    let desk := Desk.run [.openPanel .default, .call 0 (.search "a" .default "aa")]
      (.start (.ofText "aa"))
    let changed := Desk.run
      [.openPanel .default, .call 0 (.search "a" .default "aa"), .load (.ofText "b")]
      (.start (.ofText "aa"))
    ∃ panel operation session edited,
      desk.panels[0]? = some panel ∧
      panel.session.replaceOne 0 "b" desk.buffer = .ok (some operation, session, edited) ∧
      session.results = Search.find edited.text session.query session.options ∧
      (∃ next, (desk.step (.call 0 (.replaceOne 0 "b"))).panels[0]? = some next ∧
        next.session.Accepts (desk.step (.call 0 (.replaceOne 0 "b"))).buffer) ∧
      changed.panels[0]? = some panel ∧ panel.Distinguished changed.buffer ∧
      panel.session.replaceOne 0 "b" changed.buffer =
        .error (panel.session.staleError changed.buffer) := by
  intro desk changed
  have nonempty : "a" ≠ "" := by decide
  obtain ⟨ready, _, _, results⟩ := (Session.new .default).search_results nonempty .default "aa"
  have first := Session.replaceOne_first ready results (Buffer.text_ofText "aa")
  let panel : Panel := ⟨((Session.new .default).search "a" .default "aa").2, ["aa"], some "aa"⟩
  have shown : desk.panels[0]? = some panel := rfl
  have shown' : changed.panels[0]? = some panel := rfl
  have text : changed.buffer.text = "b" := Buffer.text_ofText "b"
  have distinct : Fingerprint.ofText "b" ≠ Fingerprint.ofText "aa" := by decide +kernel
  have distinguished : panel.Distinguished changed.buffer := by
    rintro _ ⟨⟩ equal
    exact absurd (text ▸ equal) distinct
  have outdated : panel.Outdated changed.buffer := ⟨ready, by simp [panel, text]⟩
  obtain ⟨_, _, replaced⟩ := Desk.replace_refused_iff_outdated (.ofText "aa") _ 0 panel shown
  obtain ⟨⟨upToDate, _, _⟩, later⟩ := replaced 0 "b" _ _ _ first
  obtain ⟨_, refused, _⟩ := Desk.replace_refused_iff_outdated (.ofText "aa") _ 0 panel shown'
  refine ⟨panel, _, _, _, shown, first, upToDate, ?_, shown', distinguished, ?_⟩
  · rcases later [] (by simp) with accepted | different | ⟨_, none, _⟩
    · exact accepted
    · exact absurd (by rw [run, step_replaceOne shown first]) different
    · cases none
  · exact ((refused distinguished "b" _).1 0).mpr ⟨outdated, rfl⟩

/-- The buffer's text need not change for a replace call to be refused after a match was replaced:
it is enough that the panel searches another text. -/
theorem Desk.replace_refused_after_other_search :
    let desk := Desk.run [.openPanel .default, .call 0 (.search "a" .default "aa")]
      (.start (.ofText "aa"))
    let reached := Desk.run [.call 0 (.replaceOne 0 "b"), .call 0 (.search "a" .default "")] desk
    ∃ panel operation session edited next error,
      desk.panels[0]? = some panel ∧
      panel.session.replaceOne 0 "b" desk.buffer = .ok (some operation, session, edited) ∧
      reached.panels[0]? = some next ∧ next.Distinguished reached.buffer ∧
      reached.buffer.text = edited.text ∧
      next.session.replaceOne 0 "b" reached.buffer = .error error := by
  intro desk reached
  have nonempty : "a" ≠ "" := by decide
  obtain ⟨ready, _, _, results⟩ := (Session.new .default).search_results nonempty .default "aa"
  have first := Session.replaceOne_first ready results (Buffer.text_ofText "aa")
  let edited := (Buffer.ofText "aa").changed "ba"
  let replaced := ((Session.new .default).search "a" .default "aa").2.replacedOne "b" 0 "ba"
  let next : Panel := ⟨(replaced.search "a" .default "").2, ["", "ba", "aa"], some ""⟩
  have reached_eq : reached = ⟨edited, [next]⟩ := by
    have replacing : desk.step (.call 0 (.replaceOne 0 "b")) = _ := step_replaceOne rfl first
    simp only [reached, run]
    rw [replacing]
    rfl
  have distinct : Fingerprint.ofText "ba" ≠ Fingerprint.ofText "" := by decide +kernel
  obtain ⟨ready', _, _, results'⟩ := replaced.search_results nonempty .default ""
  have stale : next.session.Stale edited := by
    simpa [Session.Stale, next, results', edited] using distinct
  refine ⟨_, _, _, _, next, next.session.staleError edited, rfl, first, ?_, ?_, ?_, ?_⟩
  · rw [reached_eq]
    rfl
  · rintro text ⟨⟩ equal
    rw [reached_eq] at equal
    exact absurd (by simpa [edited] using equal) distinct
  · rw [reached_eq]
  · rw [reached_eq]
    dsimp only
    rw [Session.replaceOne_eq, if_neg (not_not_intro ready'), if_pos stale]

end StoryScript.Editor
