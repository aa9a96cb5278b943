import StoryScript.Proofs.SessionCalls

/-! Search panels at work. Any number of sessions share a buffer, which is also changed directly, and
every call of a session can come at any time, with any ticket and any text. Beside its session a panel
keeps the texts that the session has met, and the one that it searched last. -/
namespace StoryScript.Editor

open Search (MatchSet Options)
open Edit (Operation)

inductive Call where
  | beginQuery (query : String) (options : Options)
  | completeQuery (ticket : Ticket) (source : String)
  | search (query : String) (options : Options) (source : String)
  | step (direction : Direction)
  | navigate (direction : Direction)
  | replaceCurrent (replacement : String)
  | replaceOne (index : Nat) (replacement : String)
  | replaceAll (replacement : String)
  | clear
  | close

structure Panel where
  session : Session
  /-- The texts that the session was given, or has read to search them, the latest first. -/
  met : List String
  /-- The text of its latest search. -/
  searched : Option String

namespace Panel

def new (config : SessionConfig) : Panel := ⟨.new config, [], none⟩

/-- What is left by a call that replaces one match and then searches the buffer again. A refused call
changes neither the session nor the buffer. -/
def afterReplace (panel : Panel) (buffer : Buffer) :
    Except Edit.Error (Option Operation × Session × Buffer) → Panel × Buffer
  | .ok (some _, session, edited) =>
    (⟨session, edited.text :: panel.met, some edited.text⟩, edited)
  | .ok (none, session, same) => ({ panel with session }, same)
  | .error _ => (panel, buffer)

def perform (panel : Panel) (buffer : Buffer) : Call → Panel × Buffer
  | .beginQuery query options =>
    ({ panel with session := (panel.session.beginQuery query options).2 }, buffer)
  | .completeQuery ticket source =>
    match panel.session.completeQuery ticket source with
    | (some _, session) => (⟨session, source :: panel.met, some source⟩, buffer)
    | (none, session) => (⟨session, source :: panel.met, panel.searched⟩, buffer)
  | .search query options source =>
    (⟨(panel.session.search query options source).2, source :: panel.met,
      if query = "" then panel.searched else some source⟩, buffer)
  | .step direction => ({ panel with session := (panel.session.step direction).2 }, buffer)
  | .navigate direction =>
    let (_, session, shown) := panel.session.navigate direction buffer
    ({ panel with session }, shown)
  | .replaceCurrent replacement =>
    panel.afterReplace buffer (panel.session.replaceCurrent replacement buffer)
  | .replaceOne index replacement =>
    panel.afterReplace buffer (panel.session.replaceOne index replacement buffer)
  | .replaceAll replacement =>
    match panel.session.replaceAll replacement buffer with
    | .ok (_, session, edited) => ({ panel with session }, edited)
    | .error _ => (panel, buffer)
  | .clear => ({ panel with session := panel.session.clear }, buffer)
  | .close => ({ panel with session := panel.session.close }, buffer)

end Panel

structure Desk where
  buffer : Buffer
  panels : List Panel

inductive Event where
  | openPanel (config : SessionConfig)
  /-- Adds a copy of a panel. -/
  | clonePanel (index : Nat)
  | call (index : Nat) (call : Call)
  | edit (operations : List Operation)
  | undo
  | select (selection : Option Selection)
  | reveal (line startColumn endColumn : Nat)
  | limitUndo (limit : Nat)
  /-- Puts another document in the place of the buffer. -/
  | load (buffer : Buffer)

namespace Desk

def start (buffer : Buffer) : Desk := ⟨buffer, []⟩

def step (desk : Desk) : Event → Desk
  | .openPanel config => { desk with panels := desk.panels ++ [.new config] }
  | .clonePanel index => { desk with panels := desk.panels ++ desk.panels[index]?.toList }
  | .call index call =>
    match desk.panels[index]? with
    | some panel =>
      let (panel, buffer) := panel.perform desk.buffer call
      ⟨buffer, desk.panels.set index panel⟩
    | none => desk
  | .edit operations =>
    match desk.buffer.applyEdits operations with
    | .ok buffer => { desk with buffer }
    | .error _ => desk
  | .undo => { desk with buffer := desk.buffer.undo?.getD desk.buffer }
  | .select selection => { desk with buffer := desk.buffer.select selection }
  | .reveal line startColumn endColumn =>
    { desk with buffer := desk.buffer.reveal line startColumn endColumn }
  | .limitUndo limit => { desk with buffer := desk.buffer.withUndoLimit limit }
  | .load buffer => { desk with buffer }

def run : List Event → Desk → Desk
  | [], desk => desk
  | event :: later, desk => run later (desk.step event)

section

variable {holds : Panel → Prop} (new : ∀ config, holds (.new config))
  (perform : ∀ panel buffer call, holds panel → holds (panel.perform buffer call).1)

include new perform

/-- What holds of new panels and is kept by calls is kept by whatever happens at a desk: only a call
touches a panel, and only its own. -/
theorem forall_panels_step {desk : Desk} (all : ∀ panel ∈ desk.panels, holds panel) (event : Event) :
    ∀ panel ∈ (desk.step event).panels, holds panel := by
  cases event with
  | openPanel config =>
    intro panel member
    rcases List.mem_append.mp member with old | added
    · exact all panel old
    · rw [List.mem_singleton.mp added]
      exact new config
  | clonePanel index =>
    intro panel member
    rcases List.mem_append.mp member with old | copy
    · exact all panel old
    · exact all panel (List.mem_of_getElem? (Option.mem_toList.mp copy))
  | call index call =>
    simp only [Desk.step]
    split
    · rename_i called found
      intro panel member
      rcases List.mem_or_eq_of_mem_set member with old | rfl
      · exact all panel old
      · exact perform called desk.buffer call (all called (List.mem_of_getElem? found))
    · exact all
  | edit operations =>
    simp only [Desk.step]
    split <;> exact all
  | undo | select _ | reveal _ _ _ | limitUndo _ | load _ => exact all

theorem forall_panels_run {desk : Desk} (all : ∀ panel ∈ desk.panels, holds panel)
    (events : List Event) : ∀ panel ∈ (run events desk).panels, holds panel := by
  induction events generalizing desk with
  | nil => exact all
  | cons event later ih => exact ih (forall_panels_step new perform all event)

theorem forall_panels_start_run (buffer : Buffer) (events : List Event) :
    ∀ panel ∈ (run events (.start buffer)).panels, holds panel :=
  forall_panels_run new perform (by simp [start]) events

end

end Desk

end StoryScript.Editor
