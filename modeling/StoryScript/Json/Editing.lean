import StoryScript.Editor.Session
import StoryScript.Json.Value

/-! The JSON forms of matches, edits, selections and session settings. Every field is written and
expected, but for groups, which are left out when there are none; values that may be absent may also
be null. Unknown fields are passed over. -/
namespace StoryScript

open Json

namespace Search

def Options.toJson (options : Options) : Json := .object [
  ("regex", .bool options.regex),
  ("case_sensitive", .bool options.caseSensitive),
  ("whole_word", .bool options.wholeWord)]

def Options.ofJson? (json : Json) : Option Options := do
  let json ← json.record? ["regex", "case_sensitive", "whole_word"] 3
  return ⟨← json.required? bool? "regex", ← json.required? bool? "case_sensitive",
    ← json.required? bool? "whole_word"⟩

def Match.toJson (m : Match) : Json := .object ([
  ("line", ofNat m.line),
  ("column", ofNat m.column),
  ("end_column", ofNat m.endColumn),
  ("matched_text", .string m.matchedText),
  ("line_text", .string m.lineText)] ++
  if m.groups.isEmpty then [] else [("groups", ofList (ofOption .string) m.groups)])

def Match.ofJson? (json : Json) : Option Match := do
  let json ← json.record?
    ["line", "column", "end_column", "matched_text", "line_text", "groups"] 5
  return ⟨← json.required? nat? "line", ← json.required? nat? "column",
    ← json.required? nat? "end_column", ← json.required? string? "matched_text",
    ← json.required? string? "line_text",
    ← json.defaulted? (list? fun group => optional? string? (some group)) [] "groups"⟩

def MatchSet.toJson (set : MatchSet) : Json := .object [
  ("query", .string set.query),
  ("options", set.options.toJson),
  ("source_hash", ofNat set.sourceHash.toNat),
  ("matches", ofList Match.toJson set.found),
  ("pattern_error", ofOption .string set.patternError)]

def MatchSet.ofJson? (json : Json) : Option MatchSet := do
  let json ← json.record? ["query", "options", "source_hash", "matches", "pattern_error"] 5
  return ⟨← json.required? string? "query", ← json.required? Options.ofJson? "options",
    (← json.required? nat? "source_hash").toUInt64,
    ← json.required? (list? Match.ofJson?) "matches",
    ← optional? string? (json.field? "pattern_error")⟩

end Search

namespace Edit

def Operation.toJson (operation : Operation) : Json := .object [
  ("line", ofNat operation.line),
  ("start_column", ofNat operation.startColumn),
  ("end_column", ofNat operation.endColumn),
  ("replacement_text", .string operation.replacement)]

def Operation.ofJson? (json : Json) : Option Operation := do
  let json ← json.record? ["line", "start_column", "end_column", "replacement_text"] 4
  return ⟨← json.required? nat? "line", ← json.required? nat? "start_column",
    ← json.required? nat? "end_column", ← json.required? string? "replacement_text"⟩

end Edit

namespace Editor

def Selection.toJson (selection : Selection) : Json := .object [
  ("start_line", ofNat selection.startLine),
  ("start_column", ofNat selection.startColumn),
  ("end_line", ofNat selection.endLine),
  ("end_column", ofNat selection.endColumn)]

def Selection.ofJson? (json : Json) : Option Selection := do
  let json ← json.record? ["start_line", "start_column", "end_line", "end_column"] 4
  return ⟨← json.required? nat? "start_line", ← json.required? nat? "start_column",
    ← json.required? nat? "end_line", ← json.required? nat? "end_column"⟩

def SessionConfig.toJson (config : SessionConfig) : Json := .object [
  ("debounce_ms", ofNat config.debounceMs),
  ("history_limit", ofNat config.historyLimit)]

/-- Settings that are left out have their default. -/
def SessionConfig.ofJson? (json : Json) : Option SessionConfig := do
  let json ← json.record? ["debounce_ms", "history_limit"] 0
  return ⟨← json.defaulted? nat? SessionConfig.default.debounceMs "debounce_ms",
    ← json.defaulted? nat? SessionConfig.default.historyLimit "history_limit"⟩

def Direction.name : Direction → String
  | .next => "next"
  | .previous => "previous"

def Direction.ofName? (name : String) : Option Direction :=
  [Direction.next, .previous].find? (·.name == name)

def Phase.name : Phase → String
  | .idle => "idle"
  | .querying => "querying"
  | .hasResults => "has_results"

def Scope.name : Scope → String
  | .current => "current"
  | .all => "all"

def ReplaceRecord.toJson (record : ReplaceRecord) : Json := .object [
  ("query", .string record.query),
  ("replacement", .string record.replacement),
  ("count", ofNat record.count),
  ("scope", .string record.scope.name)]

end Editor

end StoryScript
