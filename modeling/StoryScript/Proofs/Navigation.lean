import StoryScript.Proofs.Occurrences
import StoryScript.Proofs.Repetition
import StoryScript.Proofs.Selections
import StoryScript.Proofs.SessionInvariant
import StoryScript.Proofs.SourceScan

/-! Moving from match to match. A match that a session moves to is selected in the buffer, and if the
buffer holds the text that was searched, what is selected there is the text of the match. Taken as the
next query, it is found again and nothing else is, unless it is too long to be searched for. -/
namespace StoryScript

namespace Search

open Pattern (Node)

theorem Match.StandsIn.length_matchedText {source : String} {m : Match} (stands : m.StandsIn source) :
    m.matchedText.length = m.endColumn - m.column := by
  have column := stands.column
  have inside : m.endColumn - 1 ≤ m.lineText.toList.length := by
    rw [String.length_toList]
    exact Nat.sub_le_of_le_add stands.inside
  rw [← String.length_toList, stands.matched, length_slice inside]
  omega

theorem Match.StandsIn.matchedText_ne_empty {source : String} {m : Match}
    (stands : m.StandsIn source) : m.matchedText ≠ "" := by
  intro empty
  have length := stands.length_matchedText
  rw [empty] at length
  exact Nat.sub_ne_zero_of_lt stands.nonempty length.symm

/-- A text that is looked for as it is, anywhere. -/
def Options.verbatim : Options := ⟨false, true, false⟩

theorem occurs_verbatim_iff {query : String} {text : List Char} {start : Nat} :
    Occurs query .verbatim text start ↔ slice text start (start + query.length) = query.toList := by
  have identified (c q : Char) : Options.verbatim.identifies c q = true ↔ c = q := by
    simp [Options.identifies, Options.verbatim]
  constructor
  · rintro ⟨window, _⟩
    simpa only [identified, List.forall₂_eq_eq_eq] using window
  · intro same
    refine ⟨?_, by simp [Options.verbatim]⟩
    simpa only [identified, List.forall₂_eq_eq_eq] using same

theorem exists_of_mem_find {source query : String} {options : Options} {m : Match}
    (literal : options.regex = false) (found : m ∈ (find source query options).found) :
    Fits query options ∧ ∃ line ∈ Text.lines source, ∃ start,
      Occurs query options line.text.toList start ∧ m = matchAt query.length line start := by
  by_cases nonempty : query = ""
  · simp [find, nonempty] at found
  · by_cases fits : Fits query options
    · rw [find_literal source literal nonempty fits] at found
      obtain ⟨line, member, onLine⟩ := List.mem_flatMap.mp found
      obtain ⟨start, taken, rfl⟩ := List.mem_map.mp onLine
      have greedy := scan_phraseOf_greedy options nonempty line.text.toList
      exact ⟨fits, line, member, start, greedy.occurs_of_mem start taken, rfl⟩
    · rw [find_tooLong source literal nonempty fits] at found
      cases found

theorem matchedText_of_verbatim {source query : String} {m : Match}
    (found : m ∈ (find source query .verbatim).found) : m.matchedText = query := by
  obtain ⟨_, line, _, start, occurs, rfl⟩ := exists_of_mem_find rfl found
  rw [matchAt, occurs_verbatim_iff.mp occurs, String.ofList_toList]

theorem find_verbatim_ne_nil {source : String} {m : Match} (stands : m.StandsIn source)
    (fits : Fits m.matchedText .verbatim) : (find source m.matchedText .verbatim).found ≠ [] := by
  obtain ⟨line, found, text⟩ := Option.map_eq_some_iff.mp stands.line
  have length := stands.length_matchedText
  have column := stands.column
  have longer := stands.nonempty
  have nonempty := stands.matchedText_ne_empty
  have stop : m.column - 1 + m.matchedText.length = m.endColumn - 1 := by omega
  have occurs : Occurs m.matchedText .verbatim line.text.toList (m.column - 1) := by
    rw [occurs_verbatim_iff, stop, text, stands.matched]
  have taken := (scan_phraseOf_greedy .verbatim nonempty line.text.toList).ne_nil (Nat.zero_le _) occurs
  obtain ⟨start, later, scanned⟩ := List.exists_cons_of_ne_nil taken
  rw [find_literal source rfl nonempty fits]
  refine List.ne_nil_of_mem (a := matchAt m.matchedText.length line start) ?_
  exact List.mem_flatMap.mpr ⟨line, (Text.mem_of_line? found).1,
    List.mem_map_of_mem (scanned ▸ List.mem_cons_self)⟩

/-- What stands on a line is found as it is exactly if it can be looked for. -/
theorem find_verbatim_ne_nil_iff {source : String} {m : Match} (stands : m.StandsIn source) :
    (find source m.matchedText .verbatim).found ≠ [] ↔
      ∃ program, compile m.matchedText .verbatim = .ok program := by
  rw [exists_compile_literal_iff rfl stands.matchedText_ne_empty]
  refine ⟨fun some_match => ?_, find_verbatim_ne_nil stands⟩
  obtain ⟨other, later, found⟩ := List.exists_cons_of_ne_nil some_match
  exact (exists_of_mem_find rfl (found ▸ List.mem_cons_self)).1

/-- A text that a search takes for its query needs no more than the query does. -/
theorem space_verbatim_le {options : Options} {text query : List Char}
    (same : List.Forall₂ (fun c q => options.identifies c q = true) text query)
    (direction : Pattern.Direction) :
    (Node.ofText (!Options.verbatim.caseSensitive) Options.verbatim.wholeWord text).space direction ≤
      (Node.ofText (!options.caseSensitive) options.wholeWord query).space direction := by
  rw [Node.space_ofText, Node.space_ofText]
  refine Nat.add_le_add ?_ (Nat.zero_le _)
  induction same with
  | nil => exact Nat.le_refl _
  | @cons c q text query identified _ ih =>
    have one := Pattern.utf8Size_le_setSpace ((mem_ofChar options q c).trans identified) direction
    exact Nat.add_le_add one ih

/-- What a text looked for has found can be looked for as it is. -/
theorem compile_of_mem_find {source query : String} {options : Options} {m : Match}
    (literal : options.regex = false) (found : m ∈ (find source query options).found) :
    ∃ program, compile m.matchedText .verbatim = .ok program := by
  have stands := find_standsIn source query options found
  obtain ⟨fits, line, _, start, ⟨same, _⟩, rfl⟩ := exists_of_mem_find literal found
  refine (exists_compile_literal_iff rfl stands.matchedText_ne_empty).mpr fun direction => ?_
  have text : (matchAt query.length line start).matchedText.toList =
      slice line.text.toList start (start + query.length) := String.toList_ofList
  rw [text]
  exact Nat.le_trans (Nat.add_le_add_right (space_verbatim_le same direction) _) (fits direction)

end Search

namespace Editor

open Search (Match Options)

theorem Selection.singleLineText_match {source : String} {m : Match} (stands : m.StandsIn source) :
    (Selection.onLine m.line m.column m.endColumn).singleLineText source = some m.matchedText := by
  have positive := stands.column
  have order := stands.nonempty
  exact Selection.singleLineText_eq_some_iff.mpr ⟨rfl, order,
    stands.hasColumn positive (Nat.le_of_lt order),
    stands.hasColumn (Nat.le_trans positive (Nat.le_of_lt order)) (Nat.le_refl _),
    stands.slice_source.symm⟩

namespace Session

variable {session moved : Session} {buffer shown : Buffer} {direction : Direction} {m : Match}

theorem step_eq_some (stepped : session.step direction = (some m, moved)) :
    m ∈ session.results.found ∧ moved.currentMatch? = some m := by
  unfold step at stepped
  split at stepped
  · obtain ⟨found, rfl⟩ := Prod.mk.inj stepped
    exact ⟨List.mem_of_getElem? found, found⟩
  · cases stepped

/-- Navigation that returns a match goes to it and selects it, and does nothing else to the buffer. -/
theorem navigate_eq_some (navigated : session.navigate direction buffer = (some m, moved, shown)) :
    m ∈ session.results.found ∧ moved.currentMatch? = some m ∧
      shown = buffer.reveal m.line m.column m.endColumn := by
  unfold navigate at navigated
  split at navigated
  · rename_i reached after stepped
    obtain ⟨member, current⟩ := step_eq_some stepped
    obtain ⟨same, rest⟩ := Prod.mk.inj navigated
    obtain ⟨rfl, rfl⟩ := Prod.mk.inj rest
    cases current.symm.trans same
    exact ⟨member, current, rfl⟩
  · cases navigated

theorem exists_navigate (ready : session.phase = .hasResults)
    (some_match : session.results.found ≠ []) (direction : Direction) (buffer : Buffer) :
    ∃ m moved shown, session.navigate direction buffer = (some m, moved, shown) := by
  have inside := stepIndex_lt (List.length_pos_iff.mpr some_match) direction session.current
  obtain ⟨m, returned⟩ : ∃ m, (session.step direction).1 = some m := by
    rw [step, if_pos ⟨ready, some_match⟩]
    exact ⟨_, List.getElem?_eq_getElem inside⟩
  obtain ⟨moved, stepped⟩ : ∃ moved, session.step direction = (some m, moved) :=
    ⟨_, Prod.ext returned rfl⟩
  refine ⟨m, moved, buffer.reveal m.line m.column m.endColumn, ?_⟩
  simp only [navigate, stepped, (step_eq_some stepped).2]

end Session

theorem Panel.Sound.mem_find {panel : Panel} (sound : panel.Sound) {text : String}
    (searched : panel.searched = some text) {m : Match} (member : m ∈ panel.session.results.found) :
    m ∈ (Search.find text panel.session.query panel.session.options).found := by
  rcases sound.inStep.computed with initial | ⟨_, source, _, latest, found⟩
  · rw [initial] at member
    cases member
  · cases latest.symm.trans searched
    rwa [found] at member

theorem Desk.exists_navigate_searched {query text : String} {options : Options} (nonempty : query ≠ "")
    (some_match : (Search.find text query options).found ≠ []) (direction : Direction) :
    ∃ panel ∈ (Desk.run [.openPanel .default, .call 0 (.search query options text)]
        (.start (.ofText text))).panels,
      panel.searched = some (Buffer.ofText text).text ∧ panel.session.options = options ∧
      ∃ m ∈ (Search.find text query options).found, ∃ moved shown,
        panel.session.navigate direction (.ofText text) = (some m, moved, shown) := by
  obtain ⟨ready, _, kept, results⟩ := (Session.new .default).search_results nonempty options text
  refine ⟨⟨((Session.new .default).search query options text).2, [text],
    if query = "" then none else some text⟩, List.mem_singleton.mpr rfl, ?_, kept, ?_⟩
  · rw [Buffer.text_ofText]
    exact if_neg nonempty
  · obtain ⟨m, moved, shown, navigated⟩ :=
      Session.exists_navigate ready (results ▸ some_match) direction (.ofText text)
    exact ⟨m, results ▸ (Session.navigate_eq_some navigated).1, moved, shown, navigated⟩

/-- What a repetition has found can be too long to be looked for as it is. -/
theorem Desk.exists_navigate_tooLong {text : String} (all : ∀ c ∈ text.toList, c = 'a')
    (long : ¬ Search.Fits text .verbatim) :
    ∃ panel ∈ (Desk.run [.openPanel .default, .call 0 (.search "a+" ⟨true, true, false⟩ text)]
        (.start (.ofText text))).panels,
      panel.searched = some (Buffer.ofText text).text ∧ ∃ m moved shown,
        panel.session.navigate .next (.ofText text) = (some m, moved, shown) ∧
        Session.seedFromSelection shown = some m.matchedText ∧
        (Search.find shown.text m.matchedText .verbatim).found = [] := by
  have nonempty : text ≠ "" := by
    rintro rfl
    exact long (by decide)
  have compiled : Search.compile "a+" ⟨true, true, false⟩ = .ok (.oneOrMore (.only 'a')) := rfl
  have whole := Search.find_oneOrMore compiled (by decide) nonempty
    (fun c member => by rw [all c member]; decide) (by decide) (by decide)
  obtain ⟨panel, reached, searched, _, m, found, moved, shown, navigated⟩ :=
    Desk.exists_navigate_searched (by decide) (whole ▸ List.cons_ne_nil _ _) .next
  have stands := Search.find_standsIn _ _ _ found
  have matched : m.matchedText = text := by
    rw [whole, List.mem_singleton] at found
    rw [found]
  obtain ⟨_, _, rfl⟩ := Session.navigate_eq_some navigated
  refine ⟨panel, reached, searched, m, moved, _, navigated, ?_, ?_⟩
  · apply Selection.singleLineText_match
    exact (Buffer.text_ofText text).symm ▸ stands
  · rw [matched, Search.find_tooLong _ rfl nonempty long]

/-- In a buffer that holds the text it searched, a session moves to its current match by selecting the
text of that match, and changes neither the text nor what can be undone. The selected text, looked for as
it is, is found exactly if it makes a program, as it always does unless it is the match of a regular
expression; and nothing but that text is found. -/
theorem Desk.navigate_selects_match (buffer : Buffer) (events : List Event) {panel : Panel}
    (member : panel ∈ (Desk.run events (.start buffer)).panels) {host : Buffer}
    (searched : panel.searched = some host.text) {direction : Direction} {m : Match}
    {moved : Session} {shown : Buffer}
    (navigated : panel.session.navigate direction host = (some m, moved, shown)) :
    moved.currentMatch? = some m ∧ shown.text = host.text ∧ shown.snapshots = host.snapshots ∧
    Session.seedFromSelection shown = some m.matchedText ∧
    ((Search.find shown.text m.matchedText .verbatim).found ≠ [] ↔
      ∃ program, Search.compile m.matchedText .verbatim = .ok program) ∧
    (panel.session.options.regex = false →
      ∃ program, Search.compile m.matchedText .verbatim = .ok program) ∧
    ∀ other ∈ (Search.find shown.text m.matchedText .verbatim).found,
      other.matchedText = m.matchedText := by
  have sound := Desk.start_run_sound buffer events panel member
  obtain ⟨current, reached, rfl⟩ := Session.navigate_eq_some navigated
  have found := sound.mem_find searched current
  have stands := Search.find_standsIn _ _ _ found
  exact ⟨reached, rfl, rfl, Selection.singleLineText_match stands,
    Search.find_verbatim_ne_nil_iff stands, fun literal => Search.compile_of_mem_find literal found,
    fun other again => Search.matchedText_of_verbatim again⟩

/-- Accented letters on a line that ends with a carriage return and a newline. -/
theorem Desk.navigate_selects_match_accents :
    ∃ panel ∈ (Desk.run [.openPanel .default, .call 0 (.search "É" .default "né\r\nÉté")]
        (.start (.ofText "né\r\nÉté"))).panels,
      panel.searched = some (Buffer.ofText "né\r\nÉté").text ∧ ∃ m moved shown,
        panel.session.navigate .previous (.ofText "né\r\nÉté") = (some m, moved, shown) ∧
        Session.seedFromSelection shown = some m.matchedText ∧
        (Search.find shown.text m.matchedText .verbatim).found ≠ [] := by
  have some_match : (Search.find "né\r\nÉté" "É" .default).found ≠ [] := by
    apply List.length_pos_iff.mp
    rw [Search.length_found rfl _ (by decide) (by decide +kernel)]
    decide +kernel
  obtain ⟨panel, reached, searched, kept, m, _, moved, shown, navigated⟩ :=
    Desk.exists_navigate_searched (by decide) some_match .previous
  obtain ⟨_, _, _, seed, again, made, _⟩ :=
    Desk.navigate_selects_match (.ofText _) _ reached searched navigated
  exact ⟨panel, reached, searched, m, moved, shown, navigated, seed, again.mpr (made (kept ▸ rfl))⟩

/-- A line of six hundred thousand letters. -/
theorem Desk.navigate_tooLong_letters :
    ∃ panel ∈ (Desk.run [.openPanel .default, .call 0 (.search "a+" ⟨true, true, false⟩
          (String.ofList (List.replicate 600000 'a')))]
        (.start (.ofText (String.ofList (List.replicate 600000 'a'))))).panels,
      panel.searched = some (Buffer.ofText (String.ofList (List.replicate 600000 'a'))).text ∧
      ∃ m moved shown,
        panel.session.navigate .next (.ofText (String.ofList (List.replicate 600000 'a'))) =
          (some m, moved, shown) ∧
        Session.seedFromSelection shown = some m.matchedText ∧
        (Search.find shown.text m.matchedText .verbatim).found = [] := by
  apply Desk.exists_navigate_tooLong
  · rw [String.toList_ofList]
    exact fun c member => List.eq_of_mem_replicate member
  · intro fits
    have short := fits.length_le
    rw [String.length_ofList, List.length_replicate] at short
    exact absurd short (by decide)

end Editor

end StoryScript
