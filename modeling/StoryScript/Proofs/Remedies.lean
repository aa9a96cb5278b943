import StoryScript.Proofs.AddedLines
import StoryScript.Proofs.Findings
import StoryScript.Proofs.JoinedLines
import StoryScript.Proofs.Marks

/-! The remedies that a report offers settle what they are offered for. Put behind the source, the
scenes to fill in and the assignments are read as just that, and the report on the whole has nothing
that the first one had not. -/
namespace StoryScript

namespace Script

/-- What is read on a line by itself: a definition, an assignment and braces at most. -/
structure Reads (text : String) (definition assignment : Option Mark) (braces : Nat → List Brace) :
    Prop where
  code : isComment text = false ∧ Text.isBlank text = false
  definition : sceneDefinition? text = definition
  reference : choiceTarget? text = none
  assignment : assignment? text = assignment
  interpolations : interpolations text = []
  braces : ∀ number offset, bracesOn ⟨number, offset, text⟩ = braces number

def Plain (text : List Char) : Prop := '"' ∉ text ∧ '{' ∉ text ∧ '}' ∉ text

theorem Plain.append {front back : List Char} (first : Plain front) (second : Plain back) :
    Plain (front ++ back) := by
  simp_all [Plain]

theorem interpolations_of_plain {text : String} {front tail : List Char}
    (chars : text.toList = front ++ tail) (plain : Plain front) :
    interpolations text = interpolationsFrom text.toList tail := by
  rw [interpolations]
  nth_rewrite 2 [chars]
  exact interpolationsFrom_append _ plain.2.1 tail

theorem bracesOn_of_plain {text : String} {front tail : List Char}
    (chars : text.toList = front ++ tail) (plain : Plain front) (number offset : Nat) :
    bracesOn ⟨number, offset, text⟩ =
      bracesFrom number (openingKind text) (removeMarkers (removeStrings tail)) := by
  simp only [bracesOn, structuralText, chars]
  rw [removeStrings_append plain.1, removeMarkers_append plain.2.1,
    bracesFrom_append plain.2.1 plain.2.2]

section

variable {name : String} (isName : IsName name.toList)
include isName

theorem plain_name : Plain name.toList :=
  ⟨isName.notMem rfl, isName.notMem rfl, isName.notMem rfl⟩

theorem afterWhite?_name (tail : List Char) :
    afterWhite? (' ' :: (name.toList ++ tail)) = some (name.toList ++ tail) := by
  have blank : Blank [' '] := by simp [Blank, Unicode.isWhite]
  simpa [isName.skipWhite_append] using
    afterWhite?_append blank (by simp) (name.toList ++ tail)

theorem markAt?_name (before : List Char) {tail : List Char} (ends : NameEnds tail) :
    markAt? (before ++ (name.toList ++ tail)) (name.toList ++ tail) =
      some ⟨name, before.length + 1⟩ := by
  simpa using markAt?_append before isName ends

theorem reads_sceneStart : Reads ("scene " ++ name ++ " \x7b") (some ⟨name, 7⟩) none
    fun number => [.opening ⟨number, .scene⟩] := by
  have chars : ("scene " ++ name ++ " \x7b").toList =
      ['s', 'c', 'e', 'n', 'e', ' '] ++ (name.toList ++ [' ', '{']) := by simp
  have split : ("scene " ++ name ++ " \x7b").toList =
      (['s', 'c', 'e', 'n', 'e', ' '] ++ (name.toList ++ [' '])) ++ ['{'] := by simp
  have plain : Plain (['s', 'c', 'e', 'n', 'e', ' '] ++ (name.toList ++ [' '])) :=
    .append (by simp [Plain]) (.append (plain_name isName) (by simp [Plain]))
  have visible : Unicode.isWhite 's' = false := rfl
  have definition : sceneDefinition? ("scene " ++ name ++ " \x7b") = some ⟨name, 7⟩ := by
    have mark := markAt?_name isName ['s', 'c', 'e', 'n', 'e', ' ']
      (show NameEnds [' ', '{'] from rfl)
    rw [sceneDefinition?, chars]
    simpa [skipWhite_cons visible, afterWord?, afterWhite?_name isName] using mark
  have kind : openingKind ("scene " ++ name ++ " \x7b") = .scene := by
    have unconditional : opensConditional ("scene " ++ name ++ " \x7b") = false := by
      simp [opensConditional, chars, afterClosing, skipWhite_cons visible, startsWithWord,
        afterWord?]
    simp [openingKind, unconditional, definition]
  refine ⟨⟨?_, ?_⟩, definition, ?_, ?_, ?_, fun number offset => ?_⟩
  · simp [isComment, isCommentChars, chars, skipWhite_cons visible]
  · simp [Text.isBlank, visible]
  · simp [choiceTarget?, isChoice, chars, skipWhite_cons visible, afterWord?]
  · simp [assignment?, chars, skipWhite_cons visible, afterWord?]
  · rw [interpolations_of_plain split plain]
    simp [interpolationsFrom, marker?, name?, skipWhite]
  · rw [bracesOn_of_plain split plain, kind]
    simp [removeStrings, removeMarkers, marker?, name?, skipWhite, bracesFrom]

theorem reads_assignment : Reads ("set " ++ name ++ " = ") none (some ⟨name, 5⟩) fun _ => [] := by
  have chars : ("set " ++ name ++ " = ").toList =
      ['s', 'e', 't', ' '] ++ (name.toList ++ [' ', '=', ' ']) := by simp
  have plain : Plain ("set " ++ name ++ " = ").toList :=
    chars ▸ .append (by simp [Plain]) (.append (plain_name isName) (by simp [Plain]))
  have visible : Unicode.isWhite 's' = false := rfl
  have ends : NameEnds [' ', '=', ' '] := rfl
  have assignment : assignment? ("set " ++ name ++ " = ") = some ⟨name, 5⟩ := by
    have mark := markAt?_name isName ['s', 'e', 't', ' '] ends
    have read := name?_eq_some_iff.mpr ⟨rfl, isName, ends⟩
    have sign : skipWhite [' ', '=', ' '] = ['=', ' '] := rfl
    rw [assignment?, chars]
    simpa [skipWhite_cons visible, afterWord?, afterWhite?_name isName, read, sign] using mark
  refine ⟨⟨?_, ?_⟩, ?_, ?_, assignment, ?_, fun number offset => ?_⟩
  · simp [isComment, isCommentChars, chars, skipWhite_cons visible]
  · simp [Text.isBlank, visible]
  · simp [sceneDefinition?, chars, skipWhite_cons visible, afterWord?]
  · simp [choiceTarget?, isChoice, chars, skipWhite_cons visible, afterWord?]
  · rw [interpolations_of_plain (List.append_nil _).symm plain, interpolationsFrom]
  · rw [bracesOn_of_plain (List.append_nil _).symm plain]
    simp [removeStrings, removeMarkers, bracesFrom]

end

theorem reads_emptyText : Reads "    \"\"" none none fun _ => [] := by
  refine ⟨by decide +kernel, rfl, rfl, rfl, by simp [interpolations, interpolationsFrom],
    fun number offset => ?_⟩
  have split : "    \"\"".toList = [' ', ' ', ' ', ' '] ++ ['"', '"'] := rfl
  rw [bracesOn_of_plain split (by simp [Plain]), removeStrings_of_afterString? rfl, removeStrings,
    removeMarkers, bracesFrom]

theorem reads_sceneEnd : Reads "\x7d" none none fun number => [.closing number] := by
  refine ⟨by decide +kernel, rfl, rfl, rfl, by simp [interpolations, interpolationsFrom],
    fun number offset => ?_⟩
  simp [bracesOn, structuralText, removeStrings, removeMarkers, bracesFrom]

/-! ### Added scenes and assignments -/

def sceneLines (name : String) : List String := ["scene " ++ name ++ " \x7b", "    \"\"", "\x7d"]

theorem adds_scene {name : String} (isName : IsName name.toList) {lines : List Line}
    (texts : lines.map (·.text) = sceneLines name) : Adds lines [name] [] := by
  obtain ⟨⟨_, _, _⟩, _, rfl, rfl, afterStart⟩ := List.map_eq_cons_iff.mp texts
  obtain ⟨⟨_, _, _⟩, _, rfl, rfl, afterText⟩ := List.map_eq_cons_iff.mp afterStart
  obtain ⟨⟨_, _, _⟩, _, rfl, rfl, afterEnd⟩ := List.map_eq_cons_iff.mp afterText
  obtain rfl := List.map_eq_nil_iff.mp afterEnd
  have start := reads_sceneStart isName
  have inside := reads_emptyText
  have finish := reads_sceneEnd
  constructor
  · simp [start.code, inside.code, finish.code]
  · simp [sitesOf, start.definition, inside.definition, finish.definition, Site.ofMark]
  · simp [sitesOf, start.reference, inside.reference, finish.reference]
  · simp [sitesOf, start.assignment, inside.assignment, finish.assignment]
  · simp [sitesOf, start.interpolations, inside.interpolations, finish.interpolations]
  · simp [start.braces, inside.braces, finish.braces, Nesting.step]

theorem adds_assignment {name : String} (isName : IsName name.toList) {lines : List Line}
    (texts : lines.map (·.text) = ["set " ++ name ++ " = "]) : Adds lines [] [name] := by
  obtain ⟨⟨_, _, _⟩, _, rfl, rfl, after⟩ := List.map_eq_cons_iff.mp texts
  obtain rfl := List.map_eq_nil_iff.mp after
  have read := reads_assignment isName
  constructor
  · simp [read.code]
  · simp [sitesOf, read.definition]
  · simp [sitesOf, read.reference]
  · simp [sitesOf, read.assignment, Site.ofMark]
  · simp [sitesOf, read.interpolations]
  · simp [read.braces]

theorem isName_of_missing {source name : String}
    (missing : name ∈ (Scenes.ofSource source).missing) : IsName name.toList := by
  obtain ⟨⟨_, line, _, _, _, mark, found, rfl⟩, -⟩ := mem_missing.mp missing
  exact isName_of_choiceTarget? (Option.mem_toList.mp found)

theorem isName_of_undefined {source name : String}
    (undefined : name ∈ (Variables.ofSource source).undefined) : IsName name.toList := by
  obtain ⟨⟨_, line, _, _, _, mark, found, rfl⟩, -⟩ := mem_undefined.mp undefined
  exact isName_of_mem_interpolations found

theorem completed_of_texts {source grown : String} {added : List Line}
    (lines : Text.lines grown = Text.lines source ++ added)
    (texts : added.map (·.text) = (Scenes.ofSource source).missing.flatMap sceneLines ++
      (Variables.ofSource source).undefined.flatMap fun name => ["set " ++ name ++ " = "]) :
    Completed source grown := by
  -- Names come from choices and markers, so each is read back from the line that it is put into.
  obtain ⟨first, second, rfl, scenes, vars⟩ := List.map_eq_append_iff.mp texts
  have adds : Adds first _ _ := Adds.flatMap
    (fun name missing _ texts => adds_scene (isName_of_missing missing) texts) scenes
  have adds' : Adds second _ _ := Adds.flatMap
    (fun name undefined _ texts => adds_assignment (isName_of_undefined undefined) texts) vars
  have nothing (names : List String) : names.flatMap (fun _ => ([] : List String)) = [] := by simp
  exact ⟨_, lines, by simpa [nothing] using adds.append adds'⟩

end Script

namespace Report

open Script (Scenes Variables Structure IsName Completed sceneLines)

/-- What a report offers for a kind of suggestion, each text up to the end of its last line. -/
def remedies (report : Report) (kind : SuggestionKind) : List String :=
  ((report.suggestions.filter (·.kind == kind)).filterMap (·.remediation)).map Text.endLine

/-- The source, followed by what its report offers for missing scenes and undefined variables. -/
def remedied (config : Config) (source : String) : String :=
  Text.endLine source ++ String.join ((analyze config source).remedies .missingScene ++
    (analyze config source).remedies .undefinedVariable)

theorem remedies_missingScene (config : Config) (source : String) :
    (analyze config source).remedies .missingScene =
      (Scenes.ofSource source).missing.map fun name => Text.endLine (sceneSkeleton name) := by
  rw [remedies, filter_suggestions config source (by decide)]
  simp [suggested, missingSuggestions, List.filterMap_map, Function.comp_def]

theorem remedies_undefinedVariable (config : Config) (source : String) :
    (analyze config source).remedies .undefinedVariable =
      (Variables.ofSource source).undefined.map fun name =>
        Text.endLine ("set " ++ name ++ " = ") := by
  rw [remedies, filter_suggestions config source (by decide)]
  simp [suggested, undefinedSuggestions, List.filterMap_map, Function.comp_def]

theorem texts_sceneSkeleton {name : String} (isName : IsName name.toList) :
    Text.texts (Text.endLine (sceneSkeleton name)) = sceneLines name := by
  have split : sceneSkeleton name = "scene " ++ name ++ " \x7b" ++ "\n" ++
      ("    \"\"" ++ "\n" ++ ("\x7d" ++ "\n" ++ "")) := by
    simp [sceneSkeleton, ← String.toList_inj]
  have clean : '\n' ∉ ("scene " ++ name ++ " \x7b").toList := by
    simp [isName.notMem (show Script.isNameChar '\n' = false from rfl)]
  have last : ("scene " ++ name ++ " \x7b").toList.getLast? = some '{' := by
    rw [String.toList_append, List.getLast?_append]
    rfl
  rw [Text.texts_endLine, split, Text.texts_cons clean, Text.texts_cons (by decide),
    Text.texts_cons (by decide), Text.lineText_of_getLast? (by rw [last]; decide),
    Text.lineText_of_getLast? (by decide), Text.lineText_of_getLast? (by decide)]
  rfl

theorem texts_assignment {name : String} (isName : IsName name.toList) :
    Text.texts (Text.endLine ("set " ++ name ++ " = ")) = ["set " ++ name ++ " = "] := by
  have last : ("set " ++ name ++ " = ").toList.getLast? = some ' ' := by
    rw [String.toList_append, List.getLast?_append]
    rfl
  have split : Text.endLine ("set " ++ name ++ " = ") = "set " ++ name ++ " = " ++ "\n" ++ "" := by
    rw [Text.endLine, last, String.append_empty]
    rfl
  have clean : '\n' ∉ ("set " ++ name ++ " = ").toList := by
    simp [isName.notMem (show Script.isNameChar '\n' = false from rfl)]
  rw [split, Text.texts_cons clean, Text.lineText_of_getLast? (by rw [last]; decide)]
  rfl

theorem completed_remedied (config : Config) (source : String) :
    Completed source (remedied config source) := by
  obtain ⟨added, lines, texts⟩ := Text.exists_lines_endLine_append source
    (String.join ((analyze config source).remedies .missingScene ++
      (analyze config source).remedies .undefinedVariable))
  refine Script.completed_of_texts lines ?_
  have ended : ∀ part ∈ (analyze config source).remedies .missingScene ++
      (analyze config source).remedies .undefinedVariable, Text.Ended part.toList := by
    intro part member
    rw [remedies, remedies, ← List.map_append] at member
    obtain ⟨text, -, rfl⟩ := List.mem_map.mp member
    exact Text.ended_endLine text
  rw [texts, Text.texts_join ended, List.flatMap_append, remedies_missingScene,
    remedies_undefinedVariable, List.flatMap_map, List.flatMap_map,
    List.flatMap_congr fun name missing => texts_sceneSkeleton (Script.isName_of_missing missing),
    List.flatMap_congr fun name undefined =>
      texts_assignment (Script.isName_of_undefined undefined)]

section

variable {config : Config} {source grown : String} (completed : Completed source grown)
include completed

theorem unusedSuggestions_eq :
    unusedSuggestions (.ofSource grown) = unusedSuggestions (.ofSource source) := by
  obtain ⟨new, whole, -⟩ := completed.assignments
  rw [unusedSuggestions, unusedSuggestions, completed.unused_eq]
  refine List.map_congr_left fun name unused => ?_
  rw [Variables.unused, Script.NameSet.mem_difference] at unused
  rw [whole, Script.firstSite?_append unused.1]

theorem unreachableSuggestions_eq : unreachableSuggestions config (.ofSource grown) =
    unreachableSuggestions config (.ofSource source) := by
  obtain ⟨new, whole, -⟩ := completed.definitions
  rw [unreachableSuggestions, unreachableSuggestions, completed.unreachable_eq]
  refine List.map_congr_left fun name unreachable => ?_
  rw [Scenes.unreachable, List.mem_filter, Script.NameSet.mem_difference] at unreachable
  rw [whole, Script.firstSite?_append unreachable.1.1]

/-- No check but the one for length finds anything else. -/
theorem checked_eq {kind : WarningKind} (other : kind ≠ .longScene) :
    checked config grown kind = checked config source kind := by
  have openings : (Structure.ofSource grown).openings = (Structure.ofSource source).openings :=
    congrArg Script.Nesting.openings completed.nesting
  have maxDepth : (Structure.ofSource grown).maxDepth = (Structure.ofSource source).maxDepth :=
    congrArg Script.Nesting.maxDepth completed.nesting
  have unmatched : (Structure.ofSource grown).unmatched = (Structure.ofSource source).unmatched :=
    congrArg Script.Nesting.unmatched completed.nesting
  have unclosed : (Structure.ofSource grown).unclosed = (Structure.ofSource source).unclosed :=
    congrArg (fun nesting => nesting.stack.reverse) completed.nesting
  cases kind with
  | longScene => exact absurd rfl other
  | duplicateScene =>
    rw [checked, checked, duplicateWarnings, duplicateWarnings, completed.duplicates_eq]
  | deepNesting => rw [checked, checked, nestingWarnings, nestingWarnings, openings, maxDepth]
  | malformedStructure => rw [checked, checked, unmatchedWarnings, unmatchedWarnings, unmatched]
  | unclosedBlock => rw [checked, checked, unclosedWarnings, unclosedWarnings, unclosed]

theorem warnings_filter_eq : (analyze config grown).warnings.filter (·.kind != .longScene) =
    (analyze config source).warnings.filter (·.kind != .longScene) := by
  have checks_eq : (checks config grown).filter (·.kind != .longScene) =
      (checks config source).filter (·.kind != .longScene) := by
    rw [checks, checks, List.filter_flatMap, List.filter_flatMap]
    refine List.flatMap_congr fun kind _ => ?_
    -- A long scene is not kept on either side, and every other check agrees.
    by_cases long : kind = .longScene
    · have none (text : String) : (checked config text kind).filter (·.kind != .longScene) = [] :=
        List.filter_eq_nil_iff.mpr fun warning member => by
          simp [kind_of_mem_checked config text member, long]
      rw [none, none]
    · rw [checked_eq completed long]
  rw [warnings_eq, warnings_eq, filter_mergeSort Warning.comesFirst_trans Warning.comesFirst_total,
    filter_mergeSort Warning.comesFirst_trans Warning.comesFirst_total, checks_eq]

/-- Only missing scenes are urgent. -/
theorem hasHighPriority_eq_false : (analyze config grown).hasHighPriority = false := by
  have settled : suggested config grown .missingScene = [] := by
    rw [suggested, missingSuggestions, completed.missing_eq_nil, List.map_nil]
  rw [hasHighPriority, List.any_eq_false]
  intro entry member high
  rw [suggestions_eq, List.mem_append] at member
  rcases member with found | comment
  · obtain ⟨kind, -, found⟩ := List.mem_flatMap.mp found
    obtain ⟨-, priority, -⟩ := (lists_suggested config grown kind).entries entry found
    rw [priority, beq_iff_eq] at high
    cases kind with
    | missingScene => simp [settled] at found
    | _ => cases high
  · rw [(kind_of_mem_commentSuggestions config comment).2] at high
    cases high

end

theorem scenes_analyze (config : Config) (source : String) :
    (analyze config source).complexity.scenes = (Scenes.ofSource source).definitions.length := rfl

theorem vars_analyze (config : Config) (source : String) :
    (analyze config source).complexity.vars = (Variables.ofSource source).assigned.length := rfl

/-- The remedies for missing scenes and undefined variables settle these and break nothing. No such
suggestion is left and nothing is urgent any more. The other suggestions about names stay as they were,
and so do all warnings but those about long scenes. There are as many more scenes and variables as
were missing and undefined. -/
theorem analyze_remedied (config : Config) (source : String) :
    (analyze config (remedied config source)).countKind .missingScene = 0 ∧
    (analyze config (remedied config source)).countKind .undefinedVariable = 0 ∧
    (analyze config (remedied config source)).hasHighPriority = false ∧
    (analyze config (remedied config source)).suggestions.filter (·.kind == .unusedVariable) =
      (analyze config source).suggestions.filter (·.kind == .unusedVariable) ∧
    (analyze config (remedied config source)).suggestions.filter (·.kind == .unreachableScene) =
      (analyze config source).suggestions.filter (·.kind == .unreachableScene) ∧
    (analyze config (remedied config source)).warnings.filter (·.kind != .longScene) =
      (analyze config source).warnings.filter (·.kind != .longScene) ∧
    (analyze config (remedied config source)).complexity.scenes =
      (analyze config source).complexity.scenes + (analyze config source).countKind .missingScene ∧
    (analyze config (remedied config source)).complexity.vars =
      (analyze config source).complexity.vars +
        (analyze config source).countKind .undefinedVariable := by
  have completed := completed_remedied config source
  simp only [countKind_eq _ _ (show SuggestionKind.missingScene ≠ .addComments by decide),
    countKind_eq _ _ (show SuggestionKind.undefinedVariable ≠ .addComments by decide),
    filter_suggestions _ _ (show SuggestionKind.unusedVariable ≠ .addComments by decide),
    filter_suggestions _ _ (show SuggestionKind.unreachableScene ≠ .addComments by decide),
    suggested, missingSuggestions, undefinedSuggestions, List.length_map, scenes_analyze,
    vars_analyze]
  refine ⟨?_, ?_, hasHighPriority_eq_false completed, ?_, ?_, warnings_filter_eq completed, ?_, ?_⟩
  · rw [completed.missing_eq_nil, List.length_nil]
  · rw [completed.undefined_eq_nil, List.length_nil]
  · rw [unusedSuggestions_eq completed]
  · rw [unreachableSuggestions_eq completed]
  · rw [completed.length_definitions]
  · rw [completed.length_assigned]

end Report

end StoryScript
