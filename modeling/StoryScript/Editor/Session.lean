import StoryScript.Edit.Replacement
import StoryScript.Editor.Buffer
import StoryScript.Editor.History

/-! The controller of a find-and-replace panel. A query is announced first and evaluated when the
user has stopped typing: announcing hands out a ticket, and only the latest ticket still counts when
it comes back. Anything that makes earlier tickets worthless raises the generation. -/
namespace StoryScript.Editor

open Search (Match MatchSet Options)
open Edit (Operation)

structure SessionConfig where
  debounceMs : Nat
  historyLimit : Nat
  deriving DecidableEq, Repr

namespace SessionConfig

def default : SessionConfig := ⟨150, History.defaultLimit⟩

/-- The waiting time in whole seconds and milliseconds. -/
def debounce (config : SessionConfig) : Nat × Nat :=
  (config.debounceMs / 1000, config.debounceMs % 1000)

end SessionConfig

inductive Phase where
  | idle | querying | hasResults
  deriving DecidableEq, Repr

inductive Direction where
  | next | previous
  deriving DecidableEq, Repr

def Direction.ofStep? (step : Int) : Option Direction :=
  if step = 1 then some .next else if step = -1 then some .previous else none

/-- The right to evaluate an announced query after a waiting time. -/
structure Ticket where
  generation : Nat
  delayMs : Nat
  deriving DecidableEq, Repr

def Ticket.isReady (ticket : Ticket) (elapsedMs : Int) : Bool := ticket.delayMs ≤ elapsedMs

inductive Scope where
  | current | all
  deriving DecidableEq, Repr

structure ReplaceRecord where
  query : String
  replacement : String
  count : Nat
  scope : Scope
  deriving DecidableEq, Repr

structure PendingQuery where
  query : String
  options : Options
  deriving DecidableEq, Repr

structure Session where
  config : SessionConfig
  phase : Phase
  generation : Nat
  pending : Option PendingQuery
  query : String
  options : Options
  results : MatchSet
  /-- Index of the current match. -/
  current : Option Nat
  queryHistory : History String
  replaceHistory : History ReplaceRecord
  deriving DecidableEq, Repr

namespace Session

def new (config : SessionConfig) : Session where
  config := config
  phase := .idle
  generation := 0
  pending := none
  query := ""
  options := .default
  results := .initial
  current := none
  queryHistory := .empty config.historyLimit
  replaceHistory := .empty config.historyLimit

def currentMatch? (session : Session) : Option Match :=
  session.current.bind (session.results.found[·]?)

/-- Forgets the query and its results; the histories stay. -/
def clear (session : Session) : Session :=
  { session with
    phase := .idle
    generation := session.generation + 1
    pending := none
    query := ""
    options := .default
    results := .initial
    current := none }

/-- Forgets everything but the configuration. -/
def close (session : Session) : Session :=
  let cleared := session.clear
  { cleared with
    queryHistory := cleared.queryHistory.clear
    replaceHistory := cleared.replaceHistory.clear }

/-- Announces a query. The results of the last one stay until it is evaluated. An empty query clears
the session instead. -/
def beginQuery (session : Session) (query : String) (options : Options) :
    Option Ticket × Session :=
  if query.isEmpty then (none, session.clear)
  else
    let generation := session.generation + 1
    (some ⟨generation, session.config.debounceMs⟩,
      { session with generation, pending := some ⟨query, options⟩, phase := .querying })

/-- Searches a source and puts the cursor on the first match. -/
def evaluate (session : Session) (query : String) (options : Options) (source : String) :
    Session :=
  let results := Search.find source query options
  { session with
    queryHistory :=
      if results.patternError.isSome then session.queryHistory else session.queryHistory.push query
    current := if results.found.isEmpty then none else some 0
    results
    query
    options
    phase := .hasResults }

/-- Evaluates the announced query, if the ticket is the latest. -/
def completeQuery (session : Session) (ticket : Ticket) (source : String) :
    Option MatchSet × Session :=
  if ticket.generation = session.generation then
    match session.pending with
    | some pending =>
      let session := { session with pending := none }.evaluate pending.query pending.options source
      (some session.results, session)
    | none => (none, session)
  else (none, session)

/-- Announces and evaluates a query at once. -/
def search (session : Session) (query : String) (options : Options) (source : String) :
    MatchSet × Session :=
  match session.beginQuery query options with
  | (some ticket, session) =>
    let (_, session) := session.completeQuery ticket source
    (session.results, session)
  | (none, session) => (session.results, session)

def seedFromSelection (buffer : Buffer) : Option String :=
  buffer.selection.bind (·.singleLineText buffer.text)

/-- The index before or after the cursor, round the ends. -/
def stepIndex (count : Nat) (direction : Direction) : Option Nat → Nat
  | none => match direction with
    | .next => 0
    | .previous => count - 1
  | some index => match direction with
    | .next => (index + 1) % count
    | .previous => (index + count - 1) % count

def step (session : Session) (direction : Direction) : Option Match × Session :=
  if session.phase = .hasResults ∧ session.results.found ≠ [] then
    let index := stepIndex session.results.found.length direction session.current
    (session.results.found[index]?, { session with current := some index })
  else (none, session)

def navigate (session : Session) (direction : Direction) (buffer : Buffer) :
    Option Match × Session × Buffer :=
  match session.step direction with
  | (some m, session) => (session.currentMatch?, session, buffer.reveal m.line m.column m.endColumn)
  | (none, session) => (none, session, buffer)

/-- The results were computed on the text the buffer has now. -/
def checkCurrent (session : Session) (buffer : Buffer) : Except Edit.Error Unit :=
  let actual := Fingerprint.ofText buffer.text
  if actual = session.results.sourceHash then .ok ()
  else .error (.staleMatches session.results.sourceHash actual)

/-- Replaces the match with the given index, searches again, and keeps the cursor's index as far as
there are matches. -/
def replaceOne (session : Session) (index : Nat) (replacement : String) (buffer : Buffer) :
    Except Edit.Error (Option Operation × Session × Buffer) := do
  if session.phase ≠ .hasResults then return (none, session, buffer)
  session.checkCurrent buffer
  match Edit.planOne session.results index replacement with
  | none => return (none, session, buffer)
  | some operation =>
    let buffer ← buffer.applyEdits [operation]
    let recorded := { session with
      replaceHistory := session.replaceHistory.push ⟨session.query, replacement, 1, .current⟩
      generation := session.generation + 1 }
    let session := recorded.evaluate session.query session.options buffer.text
    let count := session.results.found.length
    let session :=
      if count = 0 then session else { session with current := some (min index (count - 1)) }
    return (some operation, session, buffer)

def replaceCurrent (session : Session) (replacement : String) (buffer : Buffer) :
    Except Edit.Error (Option Operation × Session × Buffer) :=
  match session.current with
  | some index => session.replaceOne index replacement buffer
  | none => .ok (none, session, buffer)

/-- Replaces every match in one step and clears the session. -/
def replaceAll (session : Session) (replacement : String) (buffer : Buffer) :
    Except Edit.Error (List Operation × Session × Buffer) := do
  if session.phase ≠ .hasResults ∨ session.results.found = [] then return ([], session, buffer)
  session.checkCurrent buffer
  let operations := Edit.planAll session.results replacement
  let buffer ← buffer.applyEdits operations
  let recorded := { session with
    replaceHistory :=
      session.replaceHistory.push ⟨session.query, replacement, operations.length, .all⟩ }
  return (operations, recorded.clear, buffer)

end Session

end StoryScript.Editor
