import StoryScript.Proofs.PhraseReplacing
import StoryScript.Proofs.SessionCalls

/-! Replacing a text by one that shares no character with it. Nothing is left to be found when all
matches are replaced, and replacing the first match again and again replaces all of them. -/
namespace StoryScript

namespace Pattern.Phrase

variable {phrase : Phrase} {border : Option Look}

theorem endsLine_eq_false_of_occurs {before : Option Char} {rest : List Char}
    (occurs : phrase.onOneLine.occurs before rest) : endsLine rest.head? = false := by
  obtain ⟨set, sets, first⟩ := List.exists_cons_of_ne_nil phrase.nonempty
  rw [Phrase.occurs, Bool.and_eq_true_iff, sets_onOneLine, first] at occurs
  cases ends : endsLine rest.head? with
  | false => rfl
  | true =>
    rw [phrase.completes_endsLine set sets before ends] at occurs
    cases occurs.2

/-- With the same condition for both ends, phrases can stand side by side. -/
theorem Within.abuts (within : phrase.Within border) : phrase.onOneLine.Abuts where
  opens before after closes := by
    rw [closes_onOneLine, within.closes, Bool.and_eq_true_iff] at closes
    exact (within.opens before after).trans closes.1
  closes before rest occurs := by
    have inner := endsLine_eq_false_of_occurs occurs
    have opens : phrase.opens before rest.head? := (Bool.and_eq_true_iff.mp occurs).1
    rw [within.opens] at opens
    rw [closes_onOneLine, within.closes, opens, inner, Bool.and_false]
    rfl

end Pattern.Phrase

namespace Search

open Pattern (Phrase)
open Unicode (CharSet)

/-- Texts without characters in common can be told by a computation. -/
theorem apart_of_all {query replacement : String} {options : Options}
    (all : replacement.toList.all fun c => query.toList.all fun q => !options.identifies c q) :
    ∀ c ∈ replacement.toList, ∀ q ∈ query.toList, options.identifies c q = false := by
  intro c putIn q asked
  simpa using List.all_eq_true.mp (List.all_eq_true.mp all c putIn) q asked

section

variable {query replacement : String} {options : Options} (nonempty : query ≠ "")

theorem abuts_phraseOf : (phraseOf query options nonempty).onOneLine.Abuts :=
  (within_phraseOf options nonempty).abuts

theorem avoids_phraseOf (put : replacement ≠ "")
    (apart : ∀ c ∈ replacement.toList, ∀ q ∈ query.toList, options.identifies c q = false) :
    (phraseOf query options nonempty).onOneLine.Avoids replacement.toList := by
  refine ⟨by simpa using put, fun c member set of_phrase => ?_⟩
  rw [Phrase.sets_onOneLine] at of_phrase
  obtain ⟨inner, of_query, rfl⟩ := List.mem_map.mp of_phrase
  obtain ⟨q, letter, rfl⟩ := List.mem_map.mp of_query
  rw [CharSet.mem, mem_ofChar, apart c member q letter, Bool.false_and]

theorem free_phraseOf (anywhere : options.wholeWord = false) :
    (phraseOf query options nonempty).onOneLine.Free := by
  intro before after
  rw [show (phraseOf query options nonempty).onOneLine.opens before after = _ from
    (within_phraseOf options nonempty).opens before after, anywhere]
  rfl

end

end Search

namespace Edit

open Search (Options Fits phraseOf)

/-- The text with the first matches of a literal query replaced. -/
def replacedFirst (source query : String) (options : Options) (nonempty : query ≠ "")
    (replacement : String) (count : Nat) : String :=
  String.ofList ((phraseOf query options nonempty).onOneLine.replace replacement.toList count 0 none
    source.toList)

section

variable (source : String) {query : String} {options : Options} (literal : options.regex = false)
  (nonempty : query ≠ "") (fits : Fits query options) (replacement : String)

include literal fits

/-- Applying the operations for the first matches replaces the first occurrences of the phrase. -/
theorem apply_first_matches (count : Nat) :
    apply source (((Search.find source query options).found.take count).map
        (operationFor options replacement)) =
      .ok (replacedFirst source query options nonempty replacement count) := by
  have inRange := find_operations_inRange source query options replacement
  have apart := find_operations_pairwise source query options replacement
  have cuts := Search.find_cuts literal replacement source nonempty fits
  rw [List.map_take]
  obtain ⟨text, applied, spliced⟩ := apply_of_perm (List.Perm.refl _)
    (fun operation member => inRange operation (List.mem_of_mem_take member))
    (apart.sublist (List.take_sublist count _))
  have replaced := (phraseOf query options nonempty).onOneLine.replace_spliced replacement.toList
    count 0 0 none source.toList
  rw [List.map_take, List.map_map, Function.comp_def] at spliced
  simp only [operationFor_cut] at spliced
  rw [cuts, ← List.map_take] at spliced
  simp only [Search.width_phraseOf, Pattern.Phrase.width_onOneLine, List.drop_zero] at replaced
  rw [applied, replacedFirst, ← spliced.unique replaced, String.ofList_toList]

theorem apply_planAll_literal :
    apply source (planAll (Search.find source query options) replacement) =
      .ok (replacedFirst source query options nonempty replacement
        (Search.find source query options).found.length) := by
  have perm := planAll_find_perm source query options replacement
  have all := apply_first_matches source literal nonempty fits replacement
    (Search.find source query options).found.length
  rw [List.take_length] at all
  rw [apply_eq_of_perm perm (find_operations_inRange source query options replacement)
    (find_operations_pairwise source query options replacement), all]

end

section

variable (source : String) {query replacement : String} {options : Options}
  (nonempty : query ≠ "") (anywhere : options.wholeWord = false) (put : replacement ≠ "")
  (apart : ∀ c ∈ replacement.toList, ∀ q ∈ query.toList, options.identifies c q = false)

include anywhere put apart

theorem replacedFirst_replacedFirst (count more : Nat) :
    replacedFirst (replacedFirst source query options nonempty replacement count) query options
        nonempty replacement more =
      replacedFirst source query options nonempty replacement (count + more) := by
  rw [replacedFirst, replacedFirst, String.toList_ofList, Pattern.Phrase.replace_replace
    (Search.free_phraseOf nonempty anywhere) (Search.abuts_phraseOf nonempty)
    (Search.avoids_phraseOf nonempty put apart), replacedFirst]

theorem length_found_replacedFirst (literal : options.regex = false) (fits : Fits query options)
    (count : Nat) :
    (Search.find (replacedFirst source query options nonempty replacement count) query
        options).found.length =
      (Search.find source query options).found.length - count := by
  rw [Search.length_found literal _ nonempty fits, Search.length_found literal _ nonempty fits,
    replacedFirst, String.toList_ofList, Pattern.Phrase.length_scan_replace
    (Search.free_phraseOf nonempty anywhere) (Search.abuts_phraseOf nonempty)
    (Search.avoids_phraseOf nonempty put apart)]

end

/-- Replacing all matches of a text leaves none, if the replacement shares no character with the
text. Only a text that is too long cannot be replaced. -/
theorem replaceAll_eliminates (source query replacement : String) (options : Options)
    (literal : options.regex = false) (nonempty : query ≠ "") (put : replacement ≠ "")
    (apart : ∀ c ∈ replacement.toList, ∀ q ∈ query.toList, options.identifies c q = false) :
    (Fits query options → ∃ outcome,
      replaceAll source query options replacement = .ok outcome ∧
      (Search.find outcome.text query options).found = [] ∧
      (Search.find outcome.text query options).patternError = none) ∧
    (¬ Fits query options →
      replaceAll source query options replacement = .error (.invalidQuery (Search.invalidPattern
        (Pattern.Error.tooLarge Pattern.Program.byteLimit).message))) := by
  constructor
  · intro fits
    have usable : Search.Usable query options :=
      .inr ⟨_, (Search.compile_literal literal nonempty).trans (if_pos fits)⟩
    have applied := apply_planAll_literal source literal nonempty fits replacement
    refine ⟨_, replaceAll_of_usable usable applied, ?_, ?_⟩
    · have all := Nat.le_of_eq (Search.length_found literal source nonempty fits).symm
      have nothing := Pattern.Phrase.scan_replace_eq_nil (Search.abuts_phraseOf nonempty)
        (Search.avoids_phraseOf nonempty put apart) all (.inl ⟨rfl, id⟩) 0
      rw [← List.length_eq_zero_iff, Search.length_found literal _ nonempty fits, replacedFirst,
        String.toList_ofList, nothing, List.length_nil]
    · exact (Search.find_patternError_eq_none_iff ..).mpr usable
  · intro long
    simp only [replaceAll, Search.find_tooLong source literal nonempty long]

/-- An occurrence inside a word stays, and putting in a line break does not make a word of it. -/
theorem replaceAll_eliminates_inner_word :
    Fits "ab" ⟨false, false, true⟩ ∧
    (Search.find "xab AB\r\nab" "ab" ⟨false, false, true⟩).found.length = 2 ∧
    ∃ outcome, replaceAll "xab AB\r\nab" "ab" ⟨false, false, true⟩ "\n " = .ok outcome ∧
      (Search.find outcome.text "ab" ⟨false, false, true⟩).found = [] := by
  have fits : Fits "ab" ⟨false, false, true⟩ := by decide +kernel
  have nonempty : "ab" ≠ "" := by decide
  obtain ⟨outcome, replaced, nothing, _⟩ := (replaceAll_eliminates "xab AB\r\nab" "ab" "\n "
    ⟨false, false, true⟩ rfl nonempty (by decide) (Search.apart_of_all (by decide +kernel))).1 fits
  refine ⟨fits, ?_, outcome, replaced, nothing⟩
  rw [Search.length_found rfl _ (by decide) fits]
  decide +kernel

end Edit

namespace Editor

open Search (Options)
open Edit (Operation replacedFirst)

namespace Session

def replaceFirst (session : Session) (replacement : String) (count : Nat) (buffer : Buffer) :
    Except Edit.Error (List Operation × Session × Buffer) :=
  match count with
  | 0 => .ok ([], session, buffer)
  | count + 1 => do
    let (operations, session, buffer) ← session.replaceFirst replacement count buffer
    let (operation, session, buffer) ← session.replaceOne 0 replacement buffer
    return (operations ++ operation.toList, session, buffer)

section

variable {session : Session} {buffer : Buffer} {query : String} {options : Options}

/-- The session shows what a query finds in the buffer's text. -/
structure Shows (session : Session) (query : String) (options : Options) (buffer : Buffer) :
    Prop where
  ready : session.phase = .hasResults
  asks : session.query = query
  uses : session.options = options
  upToDate : session.UpToDate buffer

theorem Shows.results_eq (shows : session.Shows query options buffer) :
    session.results = Search.find buffer.text query options := by
  rw [← shows.asks, ← shows.uses]
  exact shows.upToDate

theorem search_shows (session : Session) (nonempty : query ≠ "") :
    (session.search query options buffer.text).2.Shows query options buffer := by
  obtain ⟨ready, asks, uses, results⟩ := session.search_results nonempty options buffer.text
  exact ⟨ready, asks, uses, by rw [UpToDate, asks, uses, results]⟩

theorem Shows.replacedOne (shows : session.Shows query options buffer) (replacement text : String)
    (index : Nat) :
    (session.replacedOne replacement index text).Shows query options (buffer.changed text) where
  ready := replacedOne_phase ..
  asks := (replacedOne_query ..).trans shows.asks
  uses := (replacedOne_options ..).trans shows.uses
  upToDate := by simp [UpToDate]

section

variable (literal : options.regex = false) (nonempty : query ≠ "") (fits : Search.Fits query options)

include literal fits

theorem Shows.replaceOne (shows : session.Shows query options buffer) (replacement : String)
    (some_match : session.results.found ≠ []) :
    ∃ operation session' buffer',
      session.replaceOne 0 replacement buffer = .ok (some operation, session', buffer') ∧
      session'.Shows query options buffer' ∧
      buffer'.text = replacedFirst buffer.text query options nonempty replacement 1 := by
  obtain ⟨first, others, found⟩ := List.exists_cons_of_ne_nil some_match
  have planned : Edit.planOne session.results 0 replacement =
      some (Edit.operationFor options replacement first) := by
    rw [Edit.planOne, found, shows.results_eq, Search.find_options]
    rfl
  have applied := Edit.apply_first_matches buffer.text literal nonempty fits replacement 1
  rw [← shows.results_eq, found, List.take_one, List.head?_cons] at applied
  rcases shows.upToDate.replaceOne_eq replacement shows.ready 0 with
    ⟨nothing, _⟩ | ⟨operation, text, plan, edited, returned⟩
  · rw [planned] at nothing
    cases nothing
  · obtain rfl := Option.some.inj (planned.symm.trans plan)
    refine ⟨_, _, _, returned, shows.replacedOne replacement text 0, ?_⟩
    rw [Buffer.text_changed]
    exact Except.ok.inj (edited.symm.trans applied)

/-- As many calls as there are matches replace one occurrence each. -/
theorem Shows.replaceFirst (shows : session.Shows query options buffer) {replacement : String}
    (anywhere : options.wholeWord = false) (put : replacement ≠ "")
    (apart : ∀ c ∈ replacement.toList, ∀ q ∈ query.toList, options.identifies c q = false)
    {count : Nat} (enough : count ≤ session.results.found.length) :
    ∃ operations session' buffer',
      session.replaceFirst replacement count buffer = .ok (operations, session', buffer') ∧
      operations.length = count ∧ session'.Shows query options buffer' ∧
      buffer'.text = replacedFirst buffer.text query options nonempty replacement count := by
  induction count with
  | zero =>
    refine ⟨[], session, buffer, rfl, rfl, shows, ?_⟩
    rw [replacedFirst, Pattern.Phrase.replace_zero, String.ofList_toList]
  | succ count ih =>
    obtain ⟨operations, session', buffer', replaced, length, shows', text⟩ := ih (by omega)
    have left := Edit.length_found_replacedFirst buffer.text nonempty anywhere put apart literal fits
      count
    rw [← text, ← shows'.results_eq, ← shows.results_eq] at left
    have some_match : session'.results.found ≠ [] := by
      rw [← List.length_pos_iff]
      omega
    obtain ⟨operation, session'', buffer'', called, shows'', next⟩ :=
      shows'.replaceOne literal nonempty fits replacement some_match
    refine ⟨operations ++ [operation], session'', buffer'', ?_, by simp [length], shows'', ?_⟩
    · rw [Session.replaceFirst, replaced]
      dsimp only [bind, Except.bind]
      rw [called]
      rfl
    · rw [next, text, Edit.replacedFirst_replacedFirst buffer.text nonempty anywhere put apart]

end

end

/-- Replacing the first match until none is left gives what replacing all at once gives. Every call
replaces one match of the first search, and leaves the later ones to be found. -/
theorem replaceFirst_eq_replaceAll (session : Session) (buffer : Buffer)
    (query replacement : String) (options : Options) (literal : options.regex = false)
    (anywhere : options.wholeWord = false) (nonempty : query ≠ "") (put : replacement ≠ "")
    (apart : ∀ c ∈ replacement.toList, ∀ q ∈ query.toList, options.identifies c q = false) :
    let searched := (session.search query options buffer.text).2
    let found := searched.results.found
    (∀ count ≤ found.length, ∃ operations after edited,
      searched.replaceFirst replacement count buffer = .ok (operations, after, edited) ∧
      operations.length = count ∧ after.results.found.length = found.length - count ∧
      Edit.apply buffer.text ((found.take count).map (Edit.operationFor options replacement)) =
        .ok edited.text) ∧
    ∃ operations after edited planned cleared replaced,
      searched.replaceFirst replacement found.length buffer = .ok (operations, after, edited) ∧
      searched.replaceAll replacement buffer = .ok (planned, cleared, replaced) ∧
      edited.text = replaced.text := by
  intro searched found
  have shows : searched.Shows query options buffer := session.search_shows nonempty
  have results : found = (Search.find buffer.text query options).found :=
    congrArg Search.MatchSet.found shows.results_eq
  by_cases nothing : found = []
  · rw [nothing, List.length_nil]
    constructor
    · intro count enough
      obtain rfl := Nat.le_zero.mp enough
      exact ⟨[], searched, buffer, rfl, rfl, congrArg List.length nothing, by simp⟩
    · refine ⟨[], searched, buffer, [], searched, buffer, rfl, ?_, rfl⟩
      rw [replaceAll_eq, if_pos (.inr nothing)]
  · have fits : Search.Fits query options := by
      by_contra long
      exact nothing (by rw [results, Search.find_tooLong buffer.text literal nonempty long])
    constructor
    · intro count enough
      obtain ⟨operations, after, edited, returned, length, shows', text⟩ :=
        shows.replaceFirst literal nonempty fits anywhere put apart enough
      refine ⟨operations, after, edited, returned, length, ?_, ?_⟩
      · rw [shows'.results_eq, text, Edit.length_found_replacedFirst buffer.text nonempty anywhere put
          apart literal fits, results]
      · rw [text, results, Edit.apply_first_matches buffer.text literal nonempty fits]
    · obtain ⟨operations, after, edited, returned, _, _, text⟩ :=
        shows.replaceFirst literal nonempty fits anywhere put apart (Nat.le_refl found.length)
      obtain ⟨batch, applied, replaced⟩ :=
        shows.upToDate.replaceAll_eq replacement shows.ready nothing
      refine ⟨operations, after, edited, _, _, _, returned, replaced, ?_⟩
      rw [shows.results_eq, Edit.apply_planAll_literal buffer.text literal nonempty fits] at applied
      rw [Buffer.text_changed, ← Except.ok.inj applied, text, results]

/-- The matches are neighbours, and every replacement ends a line and starts another. -/
theorem replaceFirst_eq_replaceAll_neighbours :
    let buffer := Buffer.ofText "aA\r\nxa"
    let searched := ((new .default).search "a" .default buffer.text).2
    searched.results.found.length = 3 ∧
    ∃ operations after edited planned cleared replaced,
      searched.replaceFirst "\r\n" 3 buffer = .ok (operations, after, edited) ∧
      searched.replaceAll "\r\n" buffer = .ok (planned, cleared, replaced) ∧
      edited.text = replaced.text := by
  intro buffer searched
  have nonempty : "a" ≠ "" := by decide
  have agrees := (replaceFirst_eq_replaceAll (new .default) buffer "a" "\r\n" .default rfl rfl
    nonempty (by decide) (Search.apart_of_all (by decide +kernel))).2
  have three : searched.results.found.length = 3 := by
    rw [(search_shows (new .default) nonempty).results_eq,
      Search.length_found rfl _ (by decide) (by decide +kernel)]
    decide +kernel
  rw [three] at agrees
  exact ⟨three, agrees⟩

end Session

end Editor

end StoryScript
