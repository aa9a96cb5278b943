import StoryScript.Edit.Operation
import StoryScript.Search.Find

/-! Replacing matches. In regular expression mode a replacement may refer to what was matched: `$&`
and `$0` stand for the match, `$1`, `$2` and so on for its groups, `$$` for a dollar. A plan for all
matches goes from the end of the source to its start. -/
namespace StoryScript.Edit

open Search (Match MatchSet Options)
open Text (isDigit valueIn)

/-- What `$n` stands for; nothing for a group that does not exist or took no part. -/
def groupText (m : Match) (n : Nat) : List Char :=
  if n = 0 then m.matchedText.toList
  else match m.groups[n - 1]? with
    | some (some text) => text.toList
    | _ => []

/-- The replacement with its references filled in. A dollar that starts no reference is itself. -/
def expandChars (m : Match) : List Char → List Char
  | [] => []
  | '$' :: '$' :: rest => '$' :: expandChars m rest
  | '$' :: '&' :: rest => m.matchedText.toList ++ expandChars m rest
  | c :: rest =>
    if c = '$' ∧ (rest.takeWhile isDigit).isEmpty = false then
      groupText m (valueIn 10 (rest.takeWhile isDigit)) ++
        expandChars m (rest.dropWhile isDigit)
    else c :: expandChars m rest
termination_by text => text.length
decreasing_by
  all_goals simp_wf
  all_goals have := (List.dropWhile_sublist isDigit : List.Sublist _ rest).length_le
  all_goals omega

def expand (replacement : String) (m : Match) : String :=
  String.ofList (expandChars m replacement.toList)

def operationFor (options : Options) (replacement : String) (m : Match) : Operation :=
  ⟨m.line, m.column, m.endColumn, if options.regex then expand replacement m else replacement⟩

def planOne (set : MatchSet) (index : Nat) (replacement : String) : Option Operation :=
  set.found[index]?.map (operationFor set.options replacement)

/-- Later lines come first, and on a line later columns. -/
def comesFirst (a b : Operation) : Bool :=
  b.line < a.line || (a.line == b.line && b.startColumn ≤ a.startColumn)

/-- The operations for all matches, from the end of the source to its start. -/
def planAll (set : MatchSet) (replacement : String) : List Operation :=
  (set.found.map (operationFor set.options replacement)).mergeSort comesFirst

structure Outcome where
  text : String
  count : Nat
  /-- Matches found before the edit do not describe the new text. -/
  requiresRequery : Bool
  deriving DecidableEq, Repr

def replaceAll (source query : String) (options : Options) (replacement : String) :
    Except Error Outcome :=
  let set := Search.find source query options
  match set.patternError with
  | some reason => .error (.invalidQuery reason)
  | none => do
    let operations := planAll set replacement
    let text ← apply source operations
    return ⟨text, operations.length, true⟩

end StoryScript.Edit
