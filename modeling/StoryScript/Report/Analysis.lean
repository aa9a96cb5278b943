import StoryScript.Report.Finding
import StoryScript.Script.Structure
import StoryScript.Script.Variables
import StoryScript.Text.Decimal
import StoryScript.Text.Fingerprint

/-! The analysis of a script: its complexity, measures of its lines, and findings. An analysis only
advises, it never changes the source. -/
namespace StoryScript

namespace Report

open Script (Scenes Variables Structure Metrics)

structure Config where
  longSceneChars : Nat
  maxNestingDepth : Nat
  /-- The scene that needs no choice to lead to it; the first one by default. -/
  entryScene : Option String
  minCommentRatio : Float
  /-- Scripts with fewer lines of code need no comments. -/
  commentCheckMinLines : Nat
  deriving Repr

namespace Config

def default : Config := ⟨2000, 3, none, 0.05, 20⟩

/-- Sets the ratio, held between 0 and 1. -/
def withMinCommentRatio (config : Config) (ratio : Float) : Config :=
  { config with
    minCommentRatio := if ratio < 0.0 then 0.0 else if 1.0 < ratio then 1.0 else ratio }

end Config

structure Complexity where
  scenes : Nat
  choices : Nat
  conditionals : Nat
  vars : Nat
  /-- Scenes, choices and conditionals together. -/
  score : Nat
  deriving DecidableEq, Repr

end Report

structure Report where
  sourceHash : Fingerprint
  complexity : Report.Complexity
  metrics : Script.Metrics
  warnings : List Report.Warning
  suggestions : List Report.Suggestion
  deriving Repr

namespace Report

open Script (Scenes Variables Structure Metrics)

def hasHighPriority (report : Report) : Bool :=
  report.suggestions.any (·.priority == .high)

def countPriority (report : Report) (priority : Priority) : Nat :=
  report.suggestions.countP (·.priority == priority)

def countKind (report : Report) (kind : SuggestionKind) : Nat :=
  report.suggestions.countP (·.kind == kind)

def countWarning (report : Report) (kind : WarningKind) : Nat :=
  report.warnings.countP (·.kind == kind)

def summary (report : Report) : String :=
  let score := toString report.complexity.score
  if report.suggestions.isEmpty && report.warnings.isEmpty then
    "No issues detected. Complexity score: " ++ score
  else
    toString report.warnings.length ++ " warning(s); " ++
      toString (report.countPriority .high) ++ " high, " ++
      toString (report.countPriority .medium) ++ " medium and " ++
      toString (report.countPriority .low) ++
      " low priority suggestion(s). Complexity score: " ++ score

def quoted (name : String) : String := "'" ++ name ++ "'"

def duplicateWarnings (scenes : Scenes) : List Warning :=
  scenes.duplicates.map fun site =>
    ⟨.duplicateScene, "Scene " ++ quoted site.name ++
      " is defined more than once; choices will only reach one of them", some site.line⟩

def lengthWarnings (config : Config) (spans : List Script.SceneSpan) : List Warning :=
  (spans.filter (config.longSceneChars < ·.chars)).map fun span =>
    ⟨.longScene, "Scene " ++ quoted span.name ++ " is " ++ toString span.chars ++
      " characters long (limit " ++ toString config.longSceneChars ++
      "); consider splitting it into smaller scenes", some span.startLine⟩

/-- One warning for each region that is nested too deep, at the block where it starts. -/
def nestingWarnings (config : Config) (scan : Structure) : List Warning :=
  (scan.openings.filter (·.depth == config.maxNestingDepth + 1)).map fun opening =>
    ⟨.deepNesting, "Conditionals nested more than " ++ toString config.maxNestingDepth ++
      " levels deep (max " ++ toString scan.maxDepth ++
      " in this script); consider flattening", some opening.line⟩

def unmatchedWarnings (scan : Structure) : List Warning :=
  scan.unmatched.map fun line =>
    ⟨.malformedStructure, "Unmatched '\x7d' closes nothing; nesting depth clamped at zero",
      some line⟩

def blockName : Script.BlockKind → String
  | .scene => "Scene block"
  | .conditional => "Conditional block"
  | .other => "Block"

def unclosedWarnings (scan : Structure) : List Warning :=
  scan.unclosed.map fun block =>
    ⟨.unclosedBlock, blockName block.kind ++ " opened here is never closed", some block.line⟩

/-- Warnings without a line come last. -/
def Warning.comesFirst (a b : Warning) : Bool :=
  match a.line, b.line with
  | some x, some y => x ≤ y
  | _, none => true
  | none, some _ => false

def sceneSkeleton (name : String) : String := "scene " ++ name ++ " \x7b\n    \"\"\n\x7d\n"

def missingSuggestions (scenes : Scenes) : List Suggestion :=
  scenes.missing.map fun name =>
    { Suggestion.new .missingScene
        ("Scene " ++ quoted name ++ " is targeted by a choice but never defined") with
      remediation := some (sceneSkeleton name)
      subject := some name
      line := (Script.firstSite? scenes.references name).map (·.line) }

def unusedSuggestions (vars : Variables) : List Suggestion :=
  vars.unused.map fun name =>
    { Suggestion.new .unusedVariable
        ("Variable " ++ quoted name ++ " is set but never shown with \x7b" ++ name ++
          "\x7d; it may still be read by the engine") with
      subject := some name
      line := (Script.firstSite? vars.assignments name).map (·.line) }

def undefinedSuggestions (vars : Variables) : List Suggestion :=
  vars.undefined.map fun name =>
    { Suggestion.new .undefinedVariable
        ("Variable " ++ quoted name ++
          " is shown but never set in this script; it must come from the engine") with
      remediation := some ("set " ++ name ++ " = ")
      subject := some name
      line := (Script.firstSite? vars.interpolations name).map (·.line) }

def unreachableSuggestions (config : Config) (scenes : Scenes) : List Suggestion :=
  (scenes.unreachable config.entryScene).map fun name =>
    { Suggestion.new .unreachableScene
        ("No choice leads to scene " ++ quoted name ++
          "; ignore this if it is entered from outside the script") with
      subject := some name
      line := (Script.firstSite? scenes.definitions name).map (·.line) }

def commentSuggestions (config : Config) (metrics : Metrics) : List Suggestion :=
  if config.commentCheckMinLines ≤ metrics.codeLines ∧
      metrics.commentRatio < config.minCommentRatio then
    [.new .addComments ("Only " ++ Text.fixedPlaces 0 (metrics.commentRatio * 100.0) ++
      "% of lines are comments; consider documenting scene intent")]
  else []

def Suggestion.comesFirst (a b : Suggestion) : Bool := a.priority.rank ≤ b.priority.rank

end Report

/-- Analyzes a script. Warnings are in the order of their lines, suggestions in that of their
priorities; within these they keep the order of the checks. -/
def analyze (config : Report.Config) (source : String) : Report :=
  let scenes := Script.Scenes.ofSource source
  let vars := Script.Variables.ofSource source
  let scan := Script.Structure.ofSource source
  let count := scenes.definitions.length
  { sourceHash := Fingerprint.ofText source
    complexity := {
      scenes := count
      choices := scan.choices
      conditionals := scan.conditionals
      vars := vars.assigned.length
      score := count + scan.choices + scan.conditionals }
    metrics := scan.metrics
    warnings :=
      (Report.duplicateWarnings scenes ++ Report.lengthWarnings config (Script.sceneSpans source) ++
        Report.nestingWarnings config scan ++ Report.unmatchedWarnings scan ++
        Report.unclosedWarnings scan).mergeSort Report.Warning.comesFirst
    suggestions :=
      (Report.missingSuggestions scenes ++ Report.unusedSuggestions vars ++
        Report.undefinedSuggestions vars ++ Report.unreachableSuggestions config scenes ++
        Report.commentSuggestions config scan.metrics).mergeSort Report.Suggestion.comesFirst }

end StoryScript
