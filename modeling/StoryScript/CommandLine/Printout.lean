import StoryScript.CommandLine.Grid
import StoryScript.Json.Editing
import StoryScript.Json.Reporting

/-! What the commands print: JSON, or tables to be read. -/
namespace StoryScript.CommandLine

def matchTable (found : List Search.Match) : String :=
  let grid : Grid := {
    header := ["Line", "Column", "Match", "Text"]
    rows := found.map fun m =>
      [toString m.line, toString m.column, m.matchedText, Text.trim m.lineText] }
  grid.render ++ "\n" ++ toString found.length ++ " match(es)\n"

def matchText (json : Bool) (set : Search.MatchSet) : String :=
  if json then set.toJson.pretty 0 ++ "\n"
  else if set.found.isEmpty then "No matches\n"
  else matchTable set.found

def lineCell (line : Option Nat) : String := (line.map toString).getD ""

/-- A table after an empty line, or nothing if it has no rows. -/
def tableBlock (header : List String) (rows : List (List String)) : String :=
  if rows.isEmpty then "" else "\n" ++ Grid.render ⟨header, rows⟩ ++ "\n"

/-- The counts of a report, its findings as tables, and its summary. -/
def reportText (report : Report) : String :=
  let complexity := report.complexity
  let metrics := report.metrics
  "Scenes: " ++ toString complexity.scenes ++ "  Choices: " ++ toString complexity.choices ++
    "  Conditionals: " ++ toString complexity.conditionals ++ "  Variables: " ++
    toString complexity.vars ++ "\nLines: " ++ toString metrics.totalLines ++ " (" ++
    toString metrics.codeLines ++ " code, " ++ toString metrics.commentLines ++
    " comment)  Avg line length: " ++ Text.fixedPlaces 1 metrics.avgLineLength ++ "\n" ++
    tableBlock ["Line", "Warning"]
      (report.warnings.map fun warning => [lineCell warning.line, warning.message]) ++
    tableBlock ["Priority", "Line", "Suggestion"]
      (report.suggestions.map fun suggestion =>
        [suggestion.priority.name, lineCell suggestion.line, suggestion.message]) ++
    "\n" ++ report.summary ++ "\n"

end StoryScript.CommandLine
