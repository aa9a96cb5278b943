import StoryScript.Json.Value
import StoryScript.Report.Cache

/-! The JSON forms of analysis reports and settings. -/
namespace StoryScript

open Json

namespace Script

def Metrics.toJson (metrics : Metrics) : Json := .object [
  ("total_lines", ofNat metrics.totalLines),
  ("code_lines", ofNat metrics.codeLines),
  ("comment_lines", ofNat metrics.commentLines),
  ("comment_ratio", .float metrics.commentRatio),
  ("avg_line_length", .float metrics.avgLineLength)]

def Metrics.ofJson? (json : Json) : Option Metrics := do
  let json ← json.record?
    ["total_lines", "code_lines", "comment_lines", "comment_ratio", "avg_line_length"] 5
  return ⟨← json.required? nat? "total_lines", ← json.required? nat? "code_lines",
    ← json.required? nat? "comment_lines", ← json.required? float? "comment_ratio",
    ← json.required? float? "avg_line_length"⟩

def BlockKind.name : BlockKind → String
  | .scene => "scene"
  | .conditional => "conditional"
  | .other => "other"

end Script

namespace Report

def Priority.ofName? (name : String) : Option Priority := Priority.all.find? (·.name == name)

def SuggestionKind.ofName? (name : String) : Option SuggestionKind :=
  SuggestionKind.all.find? (·.name == name)

def WarningKind.ofName? (name : String) : Option WarningKind :=
  WarningKind.all.find? (·.name == name)

/-- A name out of a fixed list. -/
def named? {α : Type} (ofName? : String → Option α) (json : Json) : Option α :=
  json.string?.bind ofName?

def Complexity.toJson (complexity : Complexity) : Json := .object [
  ("scenes", ofNat complexity.scenes),
  ("choices", ofNat complexity.choices),
  ("conditionals", ofNat complexity.conditionals),
  ("variables", ofNat complexity.vars),
  ("score", ofNat complexity.score)]

def Complexity.ofJson? (json : Json) : Option Complexity := do
  let json ← json.record? ["scenes", "choices", "conditionals", "variables", "score"] 5
  return ⟨← json.required? nat? "scenes", ← json.required? nat? "choices",
    ← json.required? nat? "conditionals", ← json.required? nat? "variables",
    ← json.required? nat? "score"⟩

def Warning.toJson (warning : Warning) : Json := .object [
  ("kind", .string warning.kind.name),
  ("message", .string warning.message),
  ("line", ofOption ofNat warning.line)]

def Warning.ofJson? (json : Json) : Option Warning := do
  let json ← json.record? ["kind", "message", "line"] 3
  return ⟨← json.required? (named? WarningKind.ofName?) "kind",
    ← json.required? string? "message", ← optional? nat? (json.field? "line")⟩

def Suggestion.toJson (suggestion : Suggestion) : Json := .object [
  ("kind", .string suggestion.kind.name),
  ("priority", .string suggestion.priority.name),
  ("message", .string suggestion.message),
  ("remediation", ofOption .string suggestion.remediation),
  ("subject", ofOption .string suggestion.subject),
  ("line", ofOption ofNat suggestion.line)]

def Suggestion.ofJson? (json : Json) : Option Suggestion := do
  let json ← json.record?
    ["kind", "priority", "message", "remediation", "subject", "line"] 6
  return ⟨← json.required? (named? SuggestionKind.ofName?) "kind",
    ← json.required? (named? Priority.ofName?) "priority", ← json.required? string? "message",
    ← optional? string? (json.field? "remediation"), ← optional? string? (json.field? "subject"),
    ← optional? nat? (json.field? "line")⟩

def toJson (report : Report) : Json := .object [
  ("source_hash", ofNat report.sourceHash.toNat),
  ("complexity", report.complexity.toJson),
  ("metrics", report.metrics.toJson),
  ("warnings", ofList Warning.toJson report.warnings),
  ("suggestions", ofList Suggestion.toJson report.suggestions)]

def ofJson? (json : Json) : Option Report := do
  let json ← json.record? ["source_hash", "complexity", "metrics", "warnings", "suggestions"] 5
  return ⟨(← json.required? nat? "source_hash").toUInt64,
    ← json.required? Complexity.ofJson? "complexity",
    ← json.required? Script.Metrics.ofJson? "metrics",
    ← json.required? (list? Warning.ofJson?) "warnings",
    ← json.required? (list? Suggestion.ofJson?) "suggestions"⟩

def Config.toJson (config : Config) : Json := .object [
  ("long_scene_chars", ofNat config.longSceneChars),
  ("max_nesting_depth", ofNat config.maxNestingDepth),
  ("entry_scene", ofOption .string config.entryScene),
  ("min_comment_ratio", .float config.minCommentRatio),
  ("comment_check_min_lines", ofNat config.commentCheckMinLines)]

/-- Settings that are left out have their default. -/
def Config.ofJson? (json : Json) : Option Config := do
  let json ← json.record? ["long_scene_chars", "max_nesting_depth", "entry_scene",
    "min_comment_ratio", "comment_check_min_lines"] 0
  return ⟨← json.defaulted? nat? Config.default.longSceneChars "long_scene_chars",
    ← json.defaulted? nat? Config.default.maxNestingDepth "max_nesting_depth",
    ← optional? string? (json.field? "entry_scene"),
    ← json.defaulted? float? Config.default.minCommentRatio "min_comment_ratio",
    ← json.defaulted? nat? Config.default.commentCheckMinLines "comment_check_min_lines"⟩

end Report

end StoryScript
