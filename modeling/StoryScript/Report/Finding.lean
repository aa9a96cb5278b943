/-! What an analysis finds: warnings about the structure of a script and suggestions for it. -/
namespace StoryScript.Report

inductive Priority where
  | high | medium | low
  deriving DecidableEq, Repr

namespace Priority

def name : Priority → String
  | .high => "high"
  | .medium => "medium"
  | .low => "low"

/-- Higher priorities have a smaller rank. -/
def rank : Priority → Nat
  | .high => 0
  | .medium => 1
  | .low => 2

def all : List Priority := [.high, .medium, .low]

end Priority

inductive SuggestionKind where
  | missingScene | unusedVariable | undefinedVariable | unreachableScene | addComments
  deriving DecidableEq, Repr

namespace SuggestionKind

def name : SuggestionKind → String
  | .missingScene => "missing_scene"
  | .unusedVariable => "unused_variable"
  | .undefinedVariable => "undefined_variable"
  | .unreachableScene => "unreachable_scene"
  | .addComments => "add_comments"

def all : List SuggestionKind :=
  [.missingScene, .unusedVariable, .undefinedVariable, .unreachableScene, .addComments]

def description : SuggestionKind → String
  | .missingScene => "Choice targets an undefined scene"
  | .unusedVariable => "Variable is never interpolated"
  | .undefinedVariable => "Variable is never assigned"
  | .unreachableScene => "Scene is not targeted by any choice"
  | .addComments => "Consider adding comments"

def priority : SuggestionKind → Priority
  | .missingScene => .high
  | .unusedVariable => .medium
  | .undefinedVariable | .unreachableScene | .addComments => .low

end SuggestionKind

structure Suggestion where
  kind : SuggestionKind
  priority : Priority
  message : String
  /-- Text that would settle the matter. -/
  remediation : Option String
  /-- The name that the suggestion is about. -/
  subject : Option String
  line : Option Nat
  deriving DecidableEq, Repr

def Suggestion.new (kind : SuggestionKind) (message : String) : Suggestion :=
  ⟨kind, kind.priority, message, none, none, none⟩

inductive WarningKind where
  | longScene | deepNesting | malformedStructure | unclosedBlock | duplicateScene
  deriving DecidableEq, Repr

namespace WarningKind

def name : WarningKind → String
  | .longScene => "long_scene"
  | .deepNesting => "deep_nesting"
  | .malformedStructure => "malformed_structure"
  | .unclosedBlock => "unclosed_block"
  | .duplicateScene => "duplicate_scene"

def all : List WarningKind :=
  [.longScene, .deepNesting, .malformedStructure, .unclosedBlock, .duplicateScene]

end WarningKind

structure Warning where
  kind : WarningKind
  message : String
  line : Option Nat
  deriving DecidableEq, Repr

end StoryScript.Report
