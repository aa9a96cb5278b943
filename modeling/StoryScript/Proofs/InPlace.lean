import StoryScript.Proofs.Batches
import StoryScript.Proofs.SessionInvariant
import StoryScript.Proofs.SourceScan

/-! Replace calls carried out in place. A call is taken apart into the writes it makes to its session
and its buffer, in their order, and an error leaves whatever was written before it. No write comes
before the last check that can fail, so a call does all of its work or none. -/
namespace StoryScript.Editor

open Edit (Operation)

/-- A session and the buffer it works on. -/
structure Bench where
  session : Session
  buffer : Buffer

/-- Work on a session and its buffer, write by write. -/
abbrev Work (α : Type) : Type := EStateM Edit.Error Bench α

namespace Work

def session (write : Session → Session) : Work Unit :=
  modify fun bench => { bench with session := write bench.session }

def buffer (write : Buffer → Buffer) : Work Unit :=
  modify fun bench => { bench with buffer := write bench.buffer }

/-- Applies a batch of edits. The snapshot is taken before the text changes. -/
def edit (operations : List Operation) : Work Unit := do
  if operations.isEmpty then return
  let edits ← MonadExcept.ofExcept (Edit.resolve (← get).buffer.text operations)
  buffer fun buffer => { buffer with snapshots := buffer.withSnapshot }
  buffer fun buffer => { buffer with chars := Buffer.replaceSpans 0 buffer.chars edits }
  buffer fun buffer => buffer.select none

/-- Replaces a match: the edit, the record, and then the new search. -/
def replaceOne (index : Nat) (replacement : String) : Work (Option Operation) := do
  let bench ← get
  if bench.session.phase ≠ .hasResults then return none
  MonadExcept.ofExcept (bench.session.checkCurrent bench.buffer)
  match Edit.planOne bench.session.results index replacement with
  | none => return none
  | some operation =>
    edit [operation]
    session fun session => { session with
      replaceHistory := session.replaceHistory.push ⟨session.query, replacement, 1, .current⟩ }
    session fun session => { session with generation := session.generation + 1 }
    session fun session => { session with phase := .querying }
    let text := (← get).buffer.text
    session fun session => session.evaluate session.query session.options text
    session fun session =>
      if session.results.found.isEmpty then session
      else { session with current := some (min index (session.results.found.length - 1)) }
    return some operation

def replaceCurrent (replacement : String) : Work (Option Operation) := do
  match (← get).session.current with
  | some index => replaceOne index replacement
  | none => return none

/-- Replaces all matches: the edits as one batch, the record, and then the session is cleared. -/
def replaceAll (replacement : String) : Work (List Operation) := do
  let bench ← get
  if bench.session.phase ≠ .hasResults ∨ bench.session.results.found = [] then return []
  MonadExcept.ofExcept (bench.session.checkCurrent bench.buffer)
  let operations := Edit.planAll bench.session.results replacement
  edit operations
  session fun session => { session with
    replaceHistory :=
      session.replaceHistory.push ⟨session.query, replacement, operations.length, .all⟩ }
  session Session.clear
  return operations

/-- How work ends that changes nothing when it fails. -/
def settled {α : Type} (bench : Bench) :
    Except Edit.Error (α × Session × Buffer) → EStateM.Result Edit.Error Bench α
  | .ok (value, session, buffer) => .ok value ⟨session, buffer⟩
  | .error error => .error error bench

/-! ### What the writes come to -/

section

variable {α β : Type} (bench : Bench)

theorem run_bind (work : Work α) (next : α → Work β) :
    (work >>= next).run bench = match work.run bench with
      | .ok value bench => (next value).run bench
      | .error error bench => .error error bench := by
  simp only [EStateM.run, bind, EStateM.bind]
  cases work bench <;> rfl

theorem run_get : EStateM.run (get : Work Bench) bench = .ok bench bench := rfl

theorem run_session (write : Session → Session) :
    (session write).run bench = .ok () { bench with session := write bench.session } := rfl

theorem run_ofExcept (result : Except Edit.Error α) :
    EStateM.run (MonadExcept.ofExcept result : Work α) bench = match result with
      | .ok value => .ok value bench
      | .error error => .error error bench := by
  cases result <;> rfl

theorem run_edit (operations : List Operation) :
    (edit operations).run bench = match bench.buffer.applyEdits operations with
      | .ok buffer => .ok () { bench with buffer }
      | .error error => .error error bench := by
  by_cases empty : operations = []
  · subst empty
    rfl
  · have some_edit : operations.isEmpty = false := by simpa using empty
    simp only [edit, Buffer.applyEdits, some_edit, Bool.false_eq_true, if_false, run_bind, run_get,
      run_ofExcept]
    cases Edit.resolve bench.buffer.text operations <;> rfl

/-- Replacing a match write by write is the call of the session; if the call fails, no write was
made. -/
theorem run_replaceOne (index : Nat) (replacement : String) :
    (replaceOne index replacement).run bench =
      settled bench (bench.session.replaceOne index replacement bench.buffer) := by
  rw [Session.replaceOne_eq]
  simp only [replaceOne, run_bind, run_get, Session.checkCurrent_eq]
  by_cases idle : bench.session.phase ≠ .hasResults
  · rw [if_pos idle, if_pos idle]
    rfl
  · rw [if_neg idle, if_neg idle]
    by_cases stale : bench.session.Stale bench.buffer
    · simp only [if_pos stale, run_ofExcept, run_bind]
      rfl
    · simp only [if_neg stale, run_ofExcept, run_bind]
      cases Edit.planOne bench.session.results index replacement with
      | none => rfl
      | some operation =>
        simp only [run_edit, run_bind, Buffer.applyEdits_eq]
        cases Edit.apply bench.buffer.text [operation] with
        | error error => rfl
        | ok text =>
          simp only [Except.map, reduceCtorEq, if_false, run_session, run_get, Buffer.text_changed,
            settled, Session.replacedOne, List.isEmpty_iff, List.length_eq_zero_iff]
          rfl

theorem run_replaceCurrent (replacement : String) :
    (replaceCurrent replacement).run bench =
      settled bench (bench.session.replaceCurrent replacement bench.buffer) := by
  simp only [replaceCurrent, Session.replaceCurrent, run_bind, run_get]
  cases bench.session.current with
  | none => rfl
  | some index => exact run_replaceOne bench index replacement

theorem run_replaceAll (replacement : String) :
    (replaceAll replacement).run bench =
      settled bench (bench.session.replaceAll replacement bench.buffer) := by
  rw [Session.replaceAll_eq]
  simp only [replaceAll, run_bind, run_get, Session.checkCurrent_eq]
  by_cases idle : bench.session.phase ≠ .hasResults ∨ bench.session.results.found = []
  · rw [if_pos idle, if_pos idle]
    rfl
  · rw [if_neg idle, if_neg idle]
    by_cases stale : bench.session.Stale bench.buffer
    · simp only [if_pos stale, run_ofExcept, run_bind]
      rfl
    · have planned := Session.planAll_ne_nil replacement fun none => idle (.inr none)
      simp only [if_neg stale, run_ofExcept, run_bind, run_edit, Buffer.applyEdits_eq]
      cases Edit.apply bench.buffer.text (Edit.planAll bench.session.results replacement) with
      | error error => rfl
      | ok text =>
        simp only [Except.map, planned, if_false, run_session, settled, Edit.length_planAll]
        rfl

end

end Work

/-! ### Requests -/

inductive Replacing where
  | current
  | one (index : Nat)
  | all

namespace Replacing

def scope : Replacing → Scope
  | .all => .all
  | _ => .current

/-- The request as a call of a session. What it answers is taken as a list. -/
def call (session : Session) (replacement : String) (buffer : Buffer) :
    Replacing → Except Edit.Error (List Operation × Session × Buffer)
  | .current => (session.replaceCurrent replacement buffer).map fun (done, left) => (done.toList, left)
  | .one index =>
    (session.replaceOne index replacement buffer).map fun (done, left) => (done.toList, left)
  | .all => session.replaceAll replacement buffer

def work (replacement : String) : Replacing → Work (List Operation)
  | .current => Option.toList <$> Work.replaceCurrent replacement
  | .one index => Option.toList <$> Work.replaceOne index replacement
  | .all => Work.replaceAll replacement

theorem run_map_toList (bench : Bench) (work : Work (Option Operation))
    {result : Except Edit.Error (Option Operation × Session × Buffer)}
    (ends : work.run bench = Work.settled bench result) :
    (Option.toList <$> work).run bench =
      Work.settled bench (result.map fun (done, left) => (done.toList, left)) := by
  rw [map_eq_pure_bind, Work.run_bind, ends]
  cases result <;> rfl

theorem run_work (request : Replacing) (bench : Bench) (replacement : String) :
    (request.work replacement).run bench =
      Work.settled bench (request.call bench.session replacement bench.buffer) := by
  cases request with
  | current => exact run_map_toList bench _ (Work.run_replaceCurrent bench replacement)
  | one index => exact run_map_toList bench _ (Work.run_replaceOne bench index replacement)
  | all => exact Work.run_replaceAll bench replacement

/-- What a request has done that was carried out: it gave the buffer the text that the planner makes of
the operations, and it recorded them. -/
structure Done (request : Replacing) (session : Session) (replacement : String) (buffer : Buffer)
    (operations : List Operation) (session' : Session) (buffer' : Buffer) : Prop where
  nonempty : operations ≠ []
  single : request ≠ .all → operations.length = 1
  edited : ∃ text, Edit.apply buffer.text operations = .ok text ∧ buffer' = buffer.changed text
  recorded : session'.replaceHistory = session.replaceHistory.push
    ⟨session.query, replacement, operations.length, request.scope⟩

section

variable {session session' : Session} {replacement : String} {buffer buffer' : Buffer}

theorem done_of_replaceOne {request : Replacing} (scope : request.scope = .current) {index : Nat}
    {operation : Operation} (returned : session.replaceOne index replacement buffer =
      .ok (some operation, session', buffer')) :
    request.Done session replacement buffer [operation] session' buffer' := by
  rcases Session.replaceOne_ok returned with ⟨⟨⟩, _⟩ | ⟨_, text, ⟨⟩, _, applied, rfl, rfl⟩
  refine ⟨by simp, fun _ => rfl, ⟨text, applied, rfl⟩, ?_⟩
  rw [scope, Session.replacedOne]
  split <;> rfl

theorem done_of_replaceAll {operations : List Operation} (some_match : operations ≠ [])
    (returned : session.replaceAll replacement buffer = .ok (operations, session', buffer')) :
    Done .all session replacement buffer operations session' buffer' := by
  rcases Session.replaceAll_ok returned with ⟨rfl, _⟩ | ⟨text, rfl, _, applied, rfl, rfl⟩
  · exact absurd rfl some_match
  · refine ⟨some_match, fun other => absurd rfl other, ⟨text, applied, rfl⟩, ?_⟩
    rw [Edit.length_planAll]
    rfl

/-- A request that returns has changed nothing and answers so, or was carried out. -/
theorem call_ok {request : Replacing} {operations : List Operation}
    (returned : request.call session replacement buffer = .ok (operations, session', buffer')) :
    (operations = [] ∧ session' = session ∧ buffer' = buffer) ∨
      request.Done session replacement buffer operations session' buffer' := by
  -- A call that replaces one match answers with an operation or with none.
  have one {request : Replacing} (scope : request.scope = .current) {index : Nat}
      (returned : (session.replaceOne index replacement buffer).map
        (fun (done, left) => (done.toList, left)) = .ok (operations, session', buffer')) :
      (operations = [] ∧ session' = session ∧ buffer' = buffer) ∨
        request.Done session replacement buffer operations session' buffer' := by
    cases result : session.replaceOne index replacement buffer with
    | error error =>
      rw [result] at returned
      cases returned
    | ok answer =>
      obtain ⟨done, left, edited⟩ := answer
      rw [result] at returned
      cases returned
      cases done with
      | none =>
        rcases Session.replaceOne_ok result with ⟨_, rfl, rfl⟩ | ⟨_, _, ⟨⟩, _⟩
        exact .inl ⟨rfl, rfl, rfl⟩
      | some operation => exact .inr (done_of_replaceOne scope result)
  cases request with
  | current =>
    rw [call, Session.replaceCurrent] at returned
    cases cursor : session.current with
    | none =>
      rw [cursor] at returned
      cases returned
      exact .inl ⟨rfl, rfl, rfl⟩
    | some index =>
      rw [cursor] at returned
      exact one rfl returned
  | one index => exact one rfl returned
  | all =>
    by_cases none : operations = []
    · rcases Session.replaceAll_ok returned with ⟨_, rfl, rfl⟩ | ⟨_, rfl, some_match, _⟩
      · exact .inl ⟨none, rfl, rfl⟩
      · exact absurd none (Session.planAll_ne_nil replacement some_match)
    · exact .inr (done_of_replaceAll none returned)

end

end Replacing

/-! ### Records and limits -/

theorem History.latest?_push {α : Type} [DecidableEq α] {history : History α}
    (keeps : 0 < history.limit) (entry : α) : (history.push entry).latest? = some entry := by
  obtain ⟨more, limit⟩ := Nat.exists_eq_add_of_lt keeps
  simp [push, latest?, limit]

/-- One step back from a change is the text before it, on top of texts that were kept. -/
theorem Buffer.undo?_changed {buffer : Buffer} (keeps : 0 < buffer.undoLimit) (text : String) :
    ∃ restored, (buffer.changed text).undo? = some restored ∧ restored.text = buffer.text ∧
      restored.earlier <+: buffer.earlier := by
  obtain ⟨kept, older, earlier⟩ := Buffer.earlier_changed_cons keeps text
  cases undone : (buffer.changed text).undo? with
  | none =>
    rw [Buffer.undo?_eq_none_iff, ← Buffer.length_earlier, earlier] at undone
    cases undone
  | some restored =>
    obtain ⟨split, _, _⟩ := Buffer.undo?_eq_some _ undone
    obtain ⟨same, rfl⟩ := List.cons.inj (earlier.symm.trans split)
    exact ⟨restored, rfl, same.symm, older⟩

/-- The history of replacements has the limit that the session was set up with. -/
def Session.Limited (session : Session) : Prop :=
  session.replaceHistory.limit = session.config.historyLimit

namespace Panel

variable {panel : Panel}

theorem limited_afterReplace (limited : panel.session.Limited) (buffer : Buffer) (index : Nat)
    (replacement : String) :
    (panel.afterReplace buffer
      (panel.session.replaceOne index replacement buffer)).1.session.Limited := by
  cases returned : panel.session.replaceOne index replacement buffer with
  | error error => exact limited
  | ok result =>
    obtain ⟨done, session, edited⟩ := result
    rcases Session.replaceOne_ok returned with ⟨rfl, rfl, rfl⟩ | ⟨_, text, rfl, _, _, rfl, rfl⟩
    · exact limited
    · simp only [afterReplace, Session.replacedOne]
      split <;> exact limited

theorem limited_perform (limited : panel.session.Limited) (buffer : Buffer) (call : Call) :
    (panel.perform buffer call).1.session.Limited := by
  have step (direction : Direction) : (panel.session.step direction).2.Limited := by
    rw [Session.step_session]
    split <;> exact limited
  cases call with
  | beginQuery query options =>
    simp only [perform, Session.beginQuery]
    split <;> exact limited
  | completeQuery ticket source =>
    rcases panel.session.completeQuery_cases ticket source with dropped | ⟨_, _, _, done⟩
    · simp only [perform, dropped]
      exact limited
    · simp only [perform, done]
      exact limited
  | search query options source =>
    simp only [perform, Session.search_eq]
    split <;> exact limited
  | step direction => exact step direction
  | navigate direction =>
    simp only [perform, Session.navigate_session]
    exact step direction
  | replaceCurrent replacement =>
    simp only [perform, Session.replaceCurrent]
    split
    · exact limited_afterReplace limited buffer _ replacement
    · exact limited
  | replaceOne index replacement => exact limited_afterReplace limited buffer index replacement
  | replaceAll replacement =>
    simp only [perform]
    cases returned : panel.session.replaceAll replacement buffer with
    | error error => exact limited
    | ok result =>
      obtain ⟨done, session, edited⟩ := result
      rcases Session.replaceAll_ok returned with ⟨_, rfl, _⟩ | ⟨_, _, _, _, rfl, _⟩ <;> exact limited
  | clear | close => exact limited

end Panel

theorem Desk.start_run_limited (buffer : Buffer) (events : List Event) :
    ∀ panel ∈ (Desk.run events (.start buffer)).panels, panel.session.Limited :=
  Desk.forall_panels_start_run (fun _ => rfl)
    (fun _ buffer call kept => Panel.limited_perform kept buffer call) buffer events

/-- Replace calls are atomic. Done write by write, a call ends as the session's call says. If it fails
or has nothing to replace, the session and the buffer are what they were. Otherwise the buffer has
the text that the planner makes of the operations, which is one step to undo, and the history of
replacements begins with what was asked for. -/
theorem Desk.replace_atomic (buffer : Buffer) (events : List Event) {panel : Panel}
    (reached : panel ∈ (Desk.run events (.start buffer)).panels) (host : Buffer)
    (request : Replacing) (replacement : String) :
    let bench : Bench := ⟨panel.session, host⟩
    let result := (request.work replacement).run bench
    result = Work.settled bench (request.call panel.session replacement host) ∧
    (∀ error after, result = .error error after → after = bench) ∧
    (∀ after, result = .ok [] after → after = bench) ∧
    ∀ operations after, result = .ok operations after → operations ≠ [] →
      (request ≠ .all → operations.length = 1) ∧
      Edit.apply host.text operations = .ok after.buffer.text ∧
      (0 < host.undoLimit → ∃ restored, after.buffer.undo? = some restored ∧
        restored.text = host.text ∧ restored.earlier <+: host.earlier) ∧
      (0 < panel.session.config.historyLimit → after.session.replaceHistory.latest? =
        some ⟨panel.session.query, replacement, operations.length, request.scope⟩) := by
  intro bench result
  have ends : result = Work.settled bench (request.call panel.session replacement host) :=
    request.run_work bench replacement
  have limited := Desk.start_run_limited buffer events panel reached
  refine ⟨ends, ?_⟩
  cases called : request.call panel.session replacement host with
  | error error =>
    rw [called, Work.settled] at ends
    rw [ends]
    refine ⟨?_, ?_, ?_⟩
    · rintro _ _ ⟨⟩
      rfl
    · rintro _ ⟨⟩
    · rintro _ _ ⟨⟩
  | ok answer =>
    obtain ⟨done, session, edited⟩ := answer
    rw [called, Work.settled] at ends
    rw [ends]
    refine ⟨?_, ?_, ?_⟩
    · rintro _ _ ⟨⟩
    · rintro _ ⟨⟩
      rcases Replacing.call_ok called with ⟨_, rfl, rfl⟩ | carried
      · rfl
      · exact absurd rfl carried.nonempty
    · rintro _ _ ⟨⟩ some_edit
      rcases Replacing.call_ok called with ⟨rfl, _⟩ | carried
      · exact absurd rfl some_edit
      · obtain ⟨text, applied, rfl⟩ := carried.edited
        refine ⟨carried.single, ?_, fun keeps => Buffer.undo?_changed keeps text, fun keeps => ?_⟩
        · rw [Buffer.text_changed, applied]
        · rw [carried.recorded]
          exact History.latest?_push (limited ▸ keeps) _

/-- Two matches are replaced in the text that was searched; on another text the call fails. -/
theorem Desk.replace_atomic_two_matches :
    ∃ panel ∈ (Desk.run [.openPanel .default, .call 0 (.search "a" .default "aa")]
        (.start (.ofText "aa"))).panels,
      (∃ error, (Replacing.all.work "b").run ⟨panel.session, .ofText "b"⟩ =
        .error error ⟨panel.session, .ofText "b"⟩) ∧
      ∃ operations after,
        (Replacing.all.work "b").run ⟨panel.session, .ofText "aa"⟩ = .ok operations after ∧
        operations.length = 2 ∧ Edit.apply "aa" operations = .ok after.buffer.text ∧
        (∃ restored, after.buffer.undo? = some restored ∧ restored.text = "aa") ∧
        after.session.replaceHistory.latest? = some ⟨"a", "b", 2, .all⟩ := by
  have nonempty : "a" ≠ "" := by decide
  obtain ⟨ready, query, options, results⟩ :=
    (Session.new .default).search_results nonempty .default "aa"
  let panel : Panel := ⟨((Session.new .default).search "a" .default "aa").2, ["aa"], some "aa"⟩
  have reached : panel ∈ (Desk.run [.openPanel .default, .call 0 (.search "a" .default "aa")]
      (.start (.ofText "aa"))).panels := List.mem_singleton.mpr rfl
  have two : panel.session.results.found.length = 2 := by
    rw [results, Search.length_found rfl _ (by decide) (by decide +kernel)]
    decide +kernel
  have some_match : panel.session.results.found ≠ [] := List.length_pos_iff.mp (by omega)
  refine ⟨panel, reached, ?_, ?_⟩
  · obtain ⟨ends, _⟩ :=
      Desk.replace_atomic (.ofText "aa") _ reached (.ofText "b") .all "b"
    have stale : panel.session.Stale (.ofText "b") := by
      rw [Session.Stale, Buffer.text_ofText, results, Search.find_sourceHash]
      decide +kernel
    have idle : ¬ (panel.session.phase ≠ .hasResults ∨ panel.session.results.found = []) := by
      simp [panel, ready, some_match]
    have failed : Replacing.all.call panel.session "b" (.ofText "b") =
        .error (panel.session.staleError (.ofText "b")) := by
      rw [Replacing.call, Session.replaceAll_eq, if_neg idle, if_pos stale]
    rw [failed] at ends
    exact ⟨_, ends⟩
  · obtain ⟨ends, _, _, carried⟩ :=
      Desk.replace_atomic (.ofText "aa") _ reached (.ofText "aa") .all "b"
    have current : panel.session.UpToDate (.ofText "aa") := by
      rw [Session.UpToDate, Buffer.text_ofText, query, options]
      exact results
    obtain ⟨text, _, called⟩ := current.replaceAll_eq "b" ready some_match
    rw [Replacing.call, called] at ends
    have size : (Edit.planAll panel.session.results "b").length = 2 := by
      rw [Edit.length_planAll, two]
    obtain ⟨_, applied, undoes, records⟩ := carried _ _ ends (Session.planAll_ne_nil "b" some_match)
    obtain ⟨restored, undone, text_eq, _⟩ := undoes (by decide)
    refine ⟨_, _, ends, size, ?_, ⟨restored, undone, ?_⟩, ?_⟩
    · rwa [Buffer.text_ofText] at applied
    · rw [text_eq, Buffer.text_ofText]
    · rw [records (by decide), size, query]
      rfl

end StoryScript.Editor
