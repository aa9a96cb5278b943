import StoryScript.CommandLine.Run
import StoryScript.Proofs.SessionCalls

/-! Three ways to replace all matches: the function on texts, a session on a buffer, and the program
on a file. They make the same text of the same request. -/
namespace StoryScript

open Search (Options Usable)

namespace Editor

/-- A new session that has searched a source replaces in it what the plan for the source says. -/
theorem Session.search_replaceAll (config : SessionConfig) (source query replacement : String)
    (options : Options) :
    ∃ operations session buffer,
      ((Session.new config).search query options source).2.replaceAll replacement
        (.ofText source) = .ok (operations, session, buffer) ∧
      Edit.apply source (Edit.planAll (Search.find source query options) replacement) =
        .ok buffer.text ∧
      operations.length = (Search.find source query options).found.length := by
  by_cases none : (Search.find source query options).found = []
  · have unchanged (session : Session)
        (idle : session.phase ≠ .hasResults ∨ session.results.found = []) :
        session.replaceAll replacement (.ofText source) = .ok ([], session, .ofText source) := by
      rw [replaceAll_eq, if_pos idle]
    rw [Edit.planAll_eq_nil none, Edit.apply_nil, none]
    refine ⟨[], _, .ofText source, unchanged _ ?_, by simp, rfl⟩
    rw [search_eq]
    split
    · exact .inl (by simp [clear])
    · exact .inr none
  · have nonempty : query ≠ "" := by
      rintro rfl
      exact none (by simp [Search.find])
    obtain ⟨ready, sameQuery, sameOptions, results⟩ :=
      (Session.new config).search_results nonempty options source
    have current : ((Session.new config).search query options source).2.UpToDate
        (.ofText source) := by
      rw [UpToDate, results, sameQuery, sameOptions, Buffer.text_ofText]
    obtain ⟨text, applied, replaced⟩ :=
      current.replaceAll_eq replacement ready (by rwa [results])
    refine ⟨_, _, _, replaced, ?_, ?_⟩
    · rw [Buffer.text_changed, ← applied, Buffer.text_ofText, results]
    · rw [Edit.length_planAll, results]

end Editor

theorem Search.patternError?_eq_none_iff (query : String) (options : Options) :
    patternError? query options = none ↔ Usable query options := by
  unfold patternError? Usable
  by_cases empty : query = ""
  · simp [empty]
  · cases compiled : compile query options <;> simp [empty]

namespace CommandLine

open Editor (Session SessionConfig Buffer)

/-- The files after the program has ended, and has written what it had to. -/
def Outcome.filesAfter (outcome : Outcome) (files : Files) : Files := fun path =>
  match outcome.written with
  | some (written, text) => if path = written then .ok text else files path
  | none => files path

section

variable {files : Files} {settings : Settings} {file source query replacement : String}
  {options : Options} {write : Bool}

/-- Replacing in a file that can be read, with a query that can be used, succeeds. -/
theorem Command.run_replace_of_usable (readable : files file = .ok source)
    (usable : Usable query (settings.search.either options)) {text : String}
    (applied : Edit.apply source (Edit.planAll
      (Search.find source query (settings.search.either options)) replacement) = .ok text) :
    (Command.replace file query replacement options write).run files settings =
      let count := (Search.find source query (settings.search.either options)).found.length
      .ok (if write then
          ⟨"Replaced " ++ toString count ++ " match(es) in " ++ file ++ "\n",
            if count = 0 then none else some (file, text)⟩
        else .print text) := by
  obtain ⟨operations, session, buffer, replaced, applied', count⟩ :=
    Session.search_replaceAll .default source query replacement (settings.search.either options)
  obtain rfl : buffer.text = text := Except.ok.inj (applied'.symm.trans applied)
  simp only [Command.run, readScript, readable, checkPattern,
    (Search.patternError?_eq_none_iff query _).mpr usable, replaceAll, replaced, bind, Except.bind,
    pure, Except.pure, count]
  cases write <;> rfl

theorem Command.run_replace_of_unusable (readable : files file = .ok source)
    (unusable : ¬ Usable query (settings.search.either options)) :
    ∃ fault, (Command.replace file query replacement options write).run files settings =
      .error (.invalidPattern fault) := by
  cases found : Search.patternError? query (settings.search.either options) with
  | none => exact absurd ((Search.patternError?_eq_none_iff query _).mp found) unusable
  | some fault =>
    refine ⟨fault, ?_⟩
    simp only [Command.run, readScript, readable, checkPattern, found, bind, Except.bind]

end

/-- The function on texts, a new session on a buffer and the program on a file agree. With a query
that can be used, all three succeed with one text and one count; the program prints that text, or
leaves it in the file, which it does not write when nothing was replaced. With any other query the
program fails and writes nothing. -/
theorem replace_paths_agree (source query replacement : String) (options : Options) :
    (Usable query options → ∃ outcome,
      Edit.replaceAll source query options replacement = .ok outcome ∧
      ∀ config : SessionConfig, ∃ operations session buffer,
        ((Session.new config).search query options source).2.replaceAll replacement
          (Buffer.ofText source) = .ok (operations, session, buffer) ∧
        buffer.text = outcome.text ∧ operations.length = outcome.count) ∧
    ∀ (files : Files) (configured : Option String) (arguments : List String)
      (config : Option String) (settings : Settings) (file : String) (flags : Options)
      (write : Bool),
      Request.ofArguments configured arguments =
        .run config (.replace file query replacement flags write) →
      readSettings files config = .ok settings → settings.search.either flags = options →
      files file = .ok source →
      (Usable query options → ∃ outcome,
        Edit.replaceAll source query options replacement = .ok outcome ∧
        (run files configured arguments).code = 0 ∧
        if write then
          (run files configured arguments).filesAfter files file = .ok outcome.text ∧
          (outcome.count = 0 → (run files configured arguments).written = none)
        else
          (run files configured arguments).stdout = outcome.text ∧
          (run files configured arguments).written = none) ∧
      (¬ Usable query options →
        (run files configured arguments).code = 1 ∧
        (run files configured arguments).written = none) := by
  constructor
  · intro usable
    obtain ⟨text, applied, _⟩ := Edit.apply_planAll_find source query options replacement
    refine ⟨_, Edit.replaceAll_of_usable usable applied, fun config => ?_⟩
    obtain ⟨operations, session, buffer, replaced, applied', count⟩ :=
      Session.search_replaceAll config source query replacement options
    exact ⟨operations, session, buffer, replaced,
      Except.ok.inj (applied'.symm.trans applied), count⟩
  · rintro files configured arguments config settings file flags write asked settled rfl readable
    have ran : run files configured arguments =
        .ofResult ((Command.replace file query replacement flags write).run files settings) := by
      rw [run, asked]
      simp only [settled, bind, Except.bind]
    rw [ran]
    constructor
    · intro usable
      obtain ⟨text, applied, _⟩ := Edit.apply_planAll_find source query _ replacement
      refine ⟨_, Edit.replaceAll_of_usable usable applied, ?_⟩
      rw [Command.run_replace_of_usable readable usable applied]
      cases write with
      | false => exact ⟨rfl, rfl, rfl⟩
      | true =>
        refine ⟨rfl, ?_⟩
        dsimp only
        by_cases none : (Search.find source query (settings.search.either flags)).found = []
        · rw [Edit.planAll_eq_nil none, Edit.apply_nil] at applied
          obtain rfl := Except.ok.inj applied
          simp [Outcome.ofResult, Outcome.filesAfter, none, readable]
        · simp [Outcome.ofResult, Outcome.filesAfter, none]
    · intro unusable
      obtain ⟨fault, answer⟩ := Command.run_replace_of_unusable readable unusable
      rw [answer]
      exact ⟨rfl, rfl⟩

/-- Replacing in a file of two lines: the arguments ask for it, the query can be used, and the file
is left with the text that the function on texts returns. -/
theorem replace_paths_agree_two_lines :
    Request.ofArguments none
        ["replace", "story.txt", "abc", "y", "--case-sensitive", "--write"] =
      .run none (.replace "story.txt" "abc" "y" ⟨false, true, false⟩ true) ∧
    Usable "abc" ⟨false, true, false⟩ ∧
    ∃ outcome, Edit.replaceAll "abc\r\nabc" "abc" ⟨false, true, false⟩ "y" = .ok outcome ∧
      (run (fun _ => .ok "abc\r\nabc") none
        ["replace", "story.txt", "abc", "y", "--case-sensitive", "--write"]).filesAfter
          (fun _ => .ok "abc\r\nabc") "story.txt" = .ok outcome.text := by
  have asked : Request.ofArguments none
        ["replace", "story.txt", "abc", "y", "--case-sensitive", "--write"] =
      .run none (.replace "story.txt" "abc" "y" ⟨false, true, false⟩ true) := by decide +kernel
  have usable : Usable "abc" ⟨false, true, false⟩ := .inr ⟨_, rfl⟩
  obtain ⟨succeeds, _⟩ := (replace_paths_agree "abc\r\nabc" "abc" "y" ⟨false, true, false⟩).2
    (fun _ => .ok "abc\r\nabc") none _ none .default "story.txt" _ true asked rfl rfl rfl
  obtain ⟨outcome, replaced, _, written, _⟩ := succeeds usable
  exact ⟨asked, usable, outcome, replaced, written⟩

end CommandLine

end StoryScript
