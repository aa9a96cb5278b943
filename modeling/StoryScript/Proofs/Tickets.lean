import StoryScript.Proofs.Desk

/-! Tickets of announced queries. A session compares numbers only and then evaluates whatever is
pending. Still a ticket brings results exactly once, for its own query, and only if nothing made it
worthless in between: while it waits, its query is the one pending and its number the current one;
once it is spent, it stays so. -/
namespace StoryScript.Editor

open Search (Options)
open Edit (Operation)

/-- A call of a panel's session, with the panel and the buffer as the call finds them. -/
structure Moment where
  panel : Panel
  buffer : Buffer
  call : Call

namespace Moment

variable (moment : Moment)

def next : Panel := (moment.panel.perform moment.buffer moment.call).1

def ticket? : Option Ticket :=
  match moment.call with
  | .beginQuery query options => (moment.panel.session.beginQuery query options).1
  | _ => none

/-- The call brings the results of a ticket. -/
def Completes (ticket : Ticket) : Prop :=
  ∃ source, moment.call = .completeQuery ticket source ∧
    (moment.panel.session.completeQuery ticket source).1.isSome

/-- The call makes earlier tickets worthless: another query, an end of the search, or a replacement
that was carried out. -/
def Supersedes : Prop :=
  match moment.call with
  | .beginQuery _ _ | .search _ _ _ | .clear | .close => True
  | .replaceCurrent replacement => ∃ operation session edited,
      moment.panel.session.replaceCurrent replacement moment.buffer =
        .ok (some operation, session, edited)
  | .replaceOne index replacement => ∃ operation session edited,
      moment.panel.session.replaceOne index replacement moment.buffer =
        .ok (some operation, session, edited)
  | .replaceAll replacement => ∃ operations session edited, operations ≠ [] ∧
      moment.panel.session.replaceAll replacement moment.buffer = .ok (operations, session, edited)
  | .completeQuery _ _ | .step _ | .navigate _ => False

end Moment

namespace Panel

def run : List (Buffer × Call) → Panel → Panel
  | [], panel => panel
  | (buffer, call) :: later, panel => run later (panel.perform buffer call).1

def moments : List (Buffer × Call) → Panel → List Moment
  | [], _ => []
  | (buffer, call) :: later, panel =>
    ⟨panel, buffer, call⟩ :: moments later (panel.perform buffer call).1

theorem run_append (first later : List (Buffer × Call)) (panel : Panel) :
    run (first ++ later) panel = run later (run first panel) := by
  induction first generalizing panel with
  | nil => rfl
  | cons entry rest ih => exact ih _

theorem moments_append (first later : List (Buffer × Call)) (panel : Panel) :
    moments (first ++ later) panel = moments first panel ++ moments later (run first panel) := by
  induction first generalizing panel with
  | nil => rfl
  | cons entry rest ih => exact congrArg (_ :: ·) (ih _)

end Panel

/-- Queries are completed only with tickets that were handed out before. -/
def OwnTickets (issued : List Ticket) : List Moment → Prop
  | [] => True
  | moment :: later =>
    (∀ ticket source, moment.call = .completeQuery ticket source → ticket ∈ issued) ∧
      OwnTickets (issued ++ moment.ticket?.toList) later

theorem ownTickets_append (issued : List Ticket) (first later : List Moment) :
    OwnTickets issued (first ++ later) ↔
      OwnTickets issued first ∧ OwnTickets (issued ++ first.filterMap Moment.ticket?) later := by
  induction first generalizing issued with
  | nil => simp [OwnTickets]
  | cons moment rest ih =>
    simp only [List.cons_append, OwnTickets, ih, and_assoc, List.append_assoc]
    cases given : moment.ticket? <;> simp [given]

/-! ### What a call does to tickets -/

namespace Session

theorem beginQuery_eq_some {session : Session} {query : String} {options : Options}
    {ticket : Ticket} (handed : (session.beginQuery query options).1 = some ticket) :
    ticket.generation = session.generation + 1 ∧
      (session.beginQuery query options).2.generation = session.generation + 1 ∧
      (session.beginQuery query options).2.pending = some ⟨query, options⟩ := by
  unfold beginQuery at handed ⊢
  split
  · rename_i empty
    rw [if_pos empty] at handed
    cases handed
  · rename_i nonempty
    rw [if_neg nonempty] at handed
    cases handed
    exact ⟨rfl, rfl, rfl⟩

theorem beginQuery_generation (session : Session) (query : String) (options : Options) :
    (session.beginQuery query options).2.generation = session.generation + 1 := by
  unfold beginQuery
  split <;> rfl

theorem search_generation (session : Session) (query : String) (options : Options)
    (source : String) :
    (session.search query options source).2.generation = session.generation + 1 := by
  rw [search_eq]
  split <;> rfl

theorem step_tickets (session : Session) (direction : Direction) :
    (session.step direction).2.generation = session.generation ∧
      (session.step direction).2.pending = session.pending := by
  rw [step_session]
  split <;> exact ⟨rfl, rfl⟩

theorem replacedOne_generation (session : Session) (replacement : String) (index : Nat)
    (text : String) :
    (session.replacedOne replacement index text).generation = session.generation + 1 := by
  unfold replacedOne
  dsimp only
  split <;> rfl

/-- A replacement that was carried out raises the number; without one the session is as before. -/
theorem replaceOne_generation {session session' : Session} {index : Nat} {replacement : String}
    {buffer buffer' : Buffer} {done : Option Operation}
    (returned : session.replaceOne index replacement buffer = .ok (done, session', buffer')) :
    done = none ∧ session' = session ∨
      done.isSome ∧ session.generation < session'.generation := by
  rcases replaceOne_ok returned with ⟨rfl, rfl, _⟩ | ⟨operation, text, rfl, _, _, rfl, _⟩
  · exact .inl ⟨rfl, rfl⟩
  · refine .inr ⟨rfl, ?_⟩
    rw [replacedOne_generation]
    exact Nat.lt_succ_self _

theorem replaceCurrent_generation {session session' : Session} {replacement : String}
    {buffer buffer' : Buffer} {done : Option Operation}
    (returned : session.replaceCurrent replacement buffer = .ok (done, session', buffer')) :
    done = none ∧ session' = session ∨
      done.isSome ∧ session.generation < session'.generation := by
  unfold replaceCurrent at returned
  split at returned
  · exact replaceOne_generation returned
  · cases returned
    exact .inl ⟨rfl, rfl⟩

end Session

namespace Moment

variable {moment : Moment}

/-- What a call can do to tickets: it raises the number, which makes them worthless; or it brings the
results of the pending query, which is then gone; or it leaves number and pending query alone. -/
inductive Effect (moment : Moment) : Prop where
  | superseded : moment.Supersedes →
      moment.panel.session.generation < moment.next.session.generation → Effect moment
  | completed {ticket : Ticket} : moment.Completes ticket →
      ticket.generation = moment.panel.session.generation →
      moment.next.session.generation = moment.panel.session.generation →
      moment.next.session.pending = none → Effect moment
  | quiet : ¬ moment.Supersedes → (∀ ticket, ¬ moment.Completes ticket) →
      moment.next.session.generation = moment.panel.session.generation →
      moment.next.session.pending = moment.panel.session.pending → Effect moment

theorem not_completes (other : ∀ ticket source, moment.call ≠ .completeQuery ticket source)
    (ticket : Ticket) : ¬ moment.Completes ticket := by
  rintro ⟨source, call, _⟩
  exact other ticket source call

end Moment

namespace Panel

variable (panel : Panel) (buffer : Buffer)

theorem completeQuery_effect (ticket : Ticket) (source : String) :
    Moment.Effect ⟨panel, buffer, .completeQuery ticket source⟩ := by
  rcases panel.session.completeQuery_cases ticket source with dropped | ⟨pending, _, latest, done⟩
  · refine .quiet not_false ?_ ?_ ?_
    · rintro other ⟨_, ⟨⟩, answered⟩
      rw [dropped] at answered
      cases answered
    all_goals simp only [Moment.next, perform, dropped]
  · have answered : (panel.session.completeQuery ticket source).1.isSome := by
      rw [done]
      rfl
    refine .completed ⟨source, rfl, answered⟩ latest ?_ ?_
    all_goals
      simp only [Moment.next, perform, done]
      rfl

theorem afterReplace_effect {call : Call}
    {outcome : Except Edit.Error (Option Operation × Session × Buffer)}
    (performed : panel.perform buffer call = panel.afterReplace buffer outcome)
    (uncompleted : ∀ ticket source, call ≠ .completeQuery ticket source)
    (supersedes : Moment.Supersedes ⟨panel, buffer, call⟩ ↔
      ∃ operation session edited, outcome = .ok (some operation, session, edited))
    (raised : ∀ done session edited, outcome = .ok (done, session, edited) →
      done = none ∧ session = panel.session ∨
        done.isSome ∧ panel.session.generation < session.generation) :
    Moment.Effect ⟨panel, buffer, call⟩ := by
  cases outcome with
  | error error =>
    refine .quiet ?_ (Moment.not_completes uncompleted) ?_ ?_
    · simp [supersedes]
    all_goals simp only [Moment.next, performed, afterReplace]
  | ok result =>
    obtain ⟨done, session, edited⟩ := result
    rcases raised done session edited rfl with ⟨rfl, rfl⟩ | ⟨replaced, less⟩
    · refine .quiet ?_ (Moment.not_completes uncompleted) ?_ ?_
      · simp [supersedes]
      all_goals simp only [Moment.next, performed, afterReplace]
    · obtain ⟨operation, rfl⟩ := Option.isSome_iff_exists.mp replaced
      refine .superseded (supersedes.mpr ⟨operation, session, edited, rfl⟩) ?_
      simpa only [Moment.next, performed, afterReplace] using less

theorem replaceAll_effect (replacement : String) :
    Moment.Effect ⟨panel, buffer, .replaceAll replacement⟩ := by
  have uncompleted : ∀ ticket, ¬ Moment.Completes ⟨panel, buffer, .replaceAll replacement⟩ ticket :=
    Moment.not_completes (by simp)
  cases returned : panel.session.replaceAll replacement buffer with
  | error error =>
    refine .quiet ?_ uncompleted ?_ ?_
    · simp [Moment.Supersedes, returned]
    all_goals simp only [Moment.next, perform, returned]
  | ok result =>
    obtain ⟨done, session, edited⟩ := result
    rcases Session.replaceAll_ok returned with
      ⟨rfl, rfl, rfl⟩ | ⟨text, rfl, some_match, _, rfl, rfl⟩
    · refine .quiet ?_ uncompleted ?_ ?_
      · simp [Moment.Supersedes, returned]
      all_goals simp only [Moment.next, perform, returned]
    · refine .superseded ⟨_, _, _, Session.planAll_ne_nil replacement some_match, returned⟩ ?_
      simp only [Moment.next, perform, returned]
      exact Nat.lt_succ_self _

end Panel

theorem Moment.effect (moment : Moment) : moment.Effect := by
  obtain ⟨panel, buffer, call⟩ := moment
  cases call with
  | beginQuery query options =>
    refine .superseded trivial ?_
    simp only [next, Panel.perform, Session.beginQuery_generation]
    exact Nat.lt_succ_self _
  | completeQuery ticket source => exact panel.completeQuery_effect buffer ticket source
  | search query options source =>
    refine .superseded trivial ?_
    simp only [next, Panel.perform, Session.search_generation]
    exact Nat.lt_succ_self _
  | step direction =>
    obtain ⟨generation, pending⟩ := panel.session.step_tickets direction
    exact .quiet not_false (not_completes (by simp)) generation pending
  | navigate direction =>
    obtain ⟨generation, pending⟩ := panel.session.step_tickets direction
    refine .quiet not_false (not_completes (by simp)) ?_ ?_
    all_goals
      simp only [next, Panel.perform, Session.navigate_session]
      assumption
  | replaceCurrent replacement =>
    exact panel.afterReplace_effect buffer rfl (by simp) .rfl
      fun _ _ _ => Session.replaceCurrent_generation
  | replaceOne index replacement =>
    exact panel.afterReplace_effect buffer rfl (by simp) .rfl
      fun _ _ _ => Session.replaceOne_generation
  | replaceAll replacement => exact panel.replaceAll_effect buffer replacement
  | clear => exact .superseded trivial (Nat.lt_succ_self _)
  | close => exact .superseded trivial (Nat.lt_succ_self _)

theorem Moment.generation_le (moment : Moment) :
    moment.panel.session.generation ≤ moment.next.session.generation := by
  cases moment.effect with
  | superseded _ less => exact Nat.le_of_lt less
  | completed _ _ same _ => exact Nat.le_of_eq same.symm
  | quiet _ _ same _ => exact Nat.le_of_eq same.symm

theorem Panel.run_generation_le (calls : List (Buffer × Call)) (panel : Panel) :
    panel.session.generation ≤ (Panel.run calls panel).session.generation := by
  induction calls generalizing panel with
  | nil => exact Nat.le_refl _
  | cons entry later ih =>
    obtain ⟨buffer, call⟩ := entry
    exact Nat.le_trans (Moment.generation_le ⟨panel, buffer, call⟩) (ih _)

/-! ### Waiting and spent tickets -/

namespace Ticket

/-- The query of the ticket is pending, and its number is the current one. -/
structure Waits (query : String) (options : Options) (ticket : Ticket) (session : Session) :
    Prop where
  generation : ticket.generation = session.generation
  pending : session.pending = some ⟨query, options⟩

/-- The ticket can no longer bring results. -/
def Spent (ticket : Ticket) (session : Session) : Prop :=
  ticket.generation < session.generation ∨
    ticket.generation = session.generation ∧ session.pending = none

variable {query : String} {options : Options} {ticket : Ticket} {session : Session}

theorem Waits.completeQuery (waits : ticket.Waits query options session) (source : String) :
    session.completeQuery ticket source =
      (some (Search.find source query options),
        { session with pending := none }.evaluate query options source) := by
  simp only [Session.completeQuery, if_pos waits.generation, waits.pending]
  rfl

theorem Spent.completeQuery (spent : ticket.Spent session) (source : String) :
    session.completeQuery ticket source = (none, session) := by
  rcases spent with less | ⟨same, nothing⟩
  · rw [Session.completeQuery, if_neg (Nat.ne_of_lt less)]
  · simp only [Session.completeQuery, if_pos same, nothing]

theorem Spent.next {moment : Moment} (spent : ticket.Spent moment.panel.session) :
    ticket.Spent moment.next.session := by
  cases moment.effect with
  | superseded _ less =>
    rcases spent with older | ⟨same, _⟩
    · exact .inl (Nat.lt_trans older less)
    · exact .inl (same ▸ less)
  | completed _ _ generation gone =>
    rw [Spent, generation]
    rcases spent with older | ⟨same, _⟩
    · exact .inl older
    · exact .inr ⟨same, gone⟩
  | quiet _ _ generation pending =>
    rw [Spent, generation, pending]
    exact spent

theorem Spent.run {panel : Panel} (spent : ticket.Spent panel.session)
    (calls : List (Buffer × Call)) : ticket.Spent (Panel.run calls panel).session := by
  induction calls generalizing panel with
  | nil => exact spent
  | cons entry later ih =>
    obtain ⟨buffer, call⟩ := entry
    have next : ticket.Spent (Moment.next ⟨panel, buffer, call⟩).session := Spent.next spent
    exact ih next

/-- The call neither brings the ticket's results nor makes it worthless. -/
def Outlives (ticket : Ticket) (moment : Moment) : Prop :=
  ¬ moment.Completes ticket ∧ ¬ moment.Supersedes

/-- A waiting ticket goes on waiting or is spent. Another ticket cannot take its query, since no two
tickets handed out have one number. -/
theorem Waits.next {moment : Moment} (waits : ticket.Waits query options moment.panel.session)
    (own : ∀ other source, moment.call = .completeQuery other source →
      other.generation = ticket.generation → other = ticket) :
    ticket.Outlives moment ∧ ticket.Waits query options moment.next.session ∨
      ¬ ticket.Outlives moment ∧ ticket.Spent moment.next.session := by
  cases moment.effect with
  | superseded supersedes less =>
    exact .inr ⟨fun outlives => outlives.2 supersedes, .inl (waits.generation ▸ less)⟩
  | @completed other completes latest generation gone =>
    obtain ⟨source, call, _⟩ := id completes
    obtain rfl := own other source call (latest.trans waits.generation.symm)
    exact .inr ⟨fun outlives => outlives.1 completes, .inr ⟨by rw [generation, latest], gone⟩⟩
  | quiet kept uncompleted generation pending =>
    refine .inl ⟨⟨uncompleted ticket, kept⟩, ?_, ?_⟩
    · rw [generation, waits.generation]
    · rw [pending, waits.pending]

theorem Outlives.ticket?_eq_none {moment : Moment} (outlives : ticket.Outlives moment) :
    moment.ticket? = none := by
  unfold Moment.ticket?
  split
  · rename_i announced
    have supersedes : moment.Supersedes := by simp only [Moment.Supersedes, announced]
    exact absurd supersedes outlives.2
  · rfl

/-- After any calls a ticket still waits if it outlived them all, and is spent otherwise. -/
theorem Waits.run {panel : Panel} (waits : ticket.Waits query options panel.session)
    {issued : List Ticket}
    (distinct : ∀ other ∈ issued, other.generation = ticket.generation → other = ticket)
    {calls : List (Buffer × Call)} (own : OwnTickets issued (Panel.moments calls panel)) :
    (∀ moment ∈ Panel.moments calls panel, ticket.Outlives moment) ∧
        ticket.Waits query options (Panel.run calls panel).session ∨
      ¬ (∀ moment ∈ Panel.moments calls panel, ticket.Outlives moment) ∧
        ticket.Spent (Panel.run calls panel).session := by
  induction calls generalizing panel with
  | nil => exact .inl ⟨by simp [Panel.moments], waits⟩
  | cons entry later ih =>
    obtain ⟨buffer, call⟩ := entry
    let moment : Moment := ⟨panel, buffer, call⟩
    obtain ⟨known, rest⟩ := own
    have first : ticket.Waits query options moment.panel.session := waits
    simp only [Panel.moments, List.forall_mem_cons]
    rcases first.next fun other source called => distinct other (known other source called) with
      ⟨outlives, next⟩ | ⟨ends, spent⟩
    · rw [outlives.ticket?_eq_none, Option.toList_none, List.append_nil] at rest
      rcases ih next rest with ⟨all, waiting⟩ | ⟨some_end, spent⟩
      · exact .inl ⟨⟨outlives, all⟩, waiting⟩
      · exact .inr ⟨fun all => some_end all.2, spent⟩
    · exact .inr ⟨fun all => ends all.1, spent.run later⟩

end Ticket

namespace Panel

theorem ticket_generation_le (calls : List (Buffer × Call)) (panel : Panel) {ticket : Ticket}
    (issued : ticket ∈ (moments calls panel).filterMap Moment.ticket?) :
    ticket.generation ≤ (run calls panel).session.generation := by
  induction calls generalizing panel with
  | nil => cases issued
  | cons entry later ih =>
    obtain ⟨buffer, call⟩ := entry
    obtain ⟨moment, member, handed⟩ := List.mem_filterMap.mp issued
    rcases List.mem_cons.mp member with rfl | member
    · cases call with
      | beginQuery query options =>
        obtain ⟨generation, raised, _⟩ := Session.beginQuery_eq_some handed
        rw [generation, ← raised]
        exact run_generation_le later (panel.perform buffer (.beginQuery query options)).1
      | _ => cases handed
    · exact ih _ (List.mem_filterMap.mpr ⟨moment, member, handed⟩)

/-- In every run with its own tickets only, completing a query with a ticket brings results exactly
if the ticket has brought none yet and nothing since has made it worthless. The results are those of
the ticket's own query; without results the session stays as it is. -/
theorem completeQuery_answers_iff (config : SessionConfig) (before later : List (Buffer × Call))
    (buffer : Buffer) (query : String) (options : Options) (ticket : Ticket)
    (own : OwnTickets []
      (moments (before ++ (buffer, .beginQuery query options) :: later) (.new config)))
    (handed : ((run before (.new config)).session.beginQuery query options).1 = some ticket)
    (source : String) :
    let announced := ((run before (.new config)).perform buffer (.beginQuery query options)).1
    let session := (run (before ++ (buffer, .beginQuery query options) :: later) (.new config)).session
    ((session.completeQuery ticket source).1.isSome ↔
      ∀ moment ∈ moments later announced, ¬ moment.Completes ticket ∧ ¬ moment.Supersedes) ∧
    (∀ set, (session.completeQuery ticket source).1 = some set →
      set = Search.find source query options ∧
      (session.completeQuery ticket source).2.results = set ∧
      (session.completeQuery ticket source).2.phase = .hasResults) ∧
    ((session.completeQuery ticket source).1 = none →
      (session.completeQuery ticket source).2 = session) := by
  intro announced session
  obtain ⟨generation, raised, pending⟩ := Session.beginQuery_eq_some handed
  have waits : ticket.Waits query options announced.session := ⟨generation.trans raised.symm, pending⟩
  have session_eq : session = (run later announced).session := by
    simp only [session, run_append, run, announced]
  rw [moments_append, ownTickets_append, List.nil_append] at own
  obtain ⟨_, _, own⟩ := own
  have distinct : ∀ other ∈ (moments before (.new config)).filterMap Moment.ticket? ++
      (Moment.ticket? ⟨run before (.new config), buffer, .beginQuery query options⟩).toList,
      other.generation = ticket.generation → other = ticket := by
    intro other member same
    rcases List.mem_append.mp member with old | new
    · have := ticket_generation_le before (.new config) old
      omega
    · exact Option.some.inj ((Option.mem_toList.mp new).symm.trans handed)
  rw [session_eq]
  rcases waits.run distinct own with ⟨outlived, waiting⟩ | ⟨ended, spent⟩
  · rw [waiting.completeQuery]
    refine ⟨⟨fun _ => outlived, fun _ => rfl⟩, ?_, nofun⟩
    rintro _ ⟨⟩
    exact ⟨rfl, rfl, rfl⟩
  · rw [spent.completeQuery]
    exact ⟨⟨nofun, fun outlived => absurd outlived ended⟩, nofun, fun _ => rfl⟩

/-- Of two queries announced the second is evaluated, and the ticket of the first brings nothing. -/
theorem completeQuery_answers_iff_second :
    let buffer := Buffer.ofText "road"
    let calls : List (Buffer × Call) :=
      [(buffer, .beginQuery "ro" .default), (buffer, .beginQuery "road" .default),
        (buffer, .completeQuery ⟨1, 150⟩ "road"), (buffer, .step .next)]
    let session := (run calls (.new .default)).session
    (session.completeQuery ⟨2, 150⟩ "road").1 = some (Search.find "road" "road" .default) ∧
      (session.completeQuery ⟨1, 150⟩ "road").1 = none := by
  intro buffer calls session
  have own : OwnTickets [] (moments calls (.new .default)) := by
    simp only [calls, moments, OwnTickets, reduceCtorEq, false_implies, implies_true, true_and,
      and_true]
    rintro _ _ ⟨⟩
    decide
  obtain ⟨second, found, _⟩ := completeQuery_answers_iff .default
    [(buffer, .beginQuery "ro" .default)]
    [(buffer, .completeQuery ⟨1, 150⟩ "road"), (buffer, .step .next)]
    buffer "road" .default ⟨2, 150⟩ own rfl "road"
  obtain ⟨first, _, _⟩ := completeQuery_answers_iff .default []
    [(buffer, .beginQuery "road" .default), (buffer, .completeQuery ⟨1, 150⟩ "road"),
      (buffer, .step .next)]
    buffer "ro" .default ⟨1, 150⟩ own rfl "road"
  constructor
  · have answered := second.mpr (by
      intro moment member
      rcases List.mem_cons.mp member with rfl | member
      · exact ⟨by simp [Moment.Completes], not_false⟩
      · rw [List.mem_singleton.mp member]
        exact ⟨by simp [Moment.Completes], not_false⟩)
    obtain ⟨set, brought⟩ := Option.isSome_iff_exists.mp answered
    exact brought.trans (congrArg some (found set brought).1)
  · refine Option.not_isSome_iff_eq_none.mp fun answered => ?_
    exact (first.mp answered _ List.mem_cons_self).2 trivial

end Panel

end StoryScript.Editor
