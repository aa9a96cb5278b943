import StoryScript.Pattern.Compile
import StoryScript.Search.MatchSet
import StoryScript.Text.Line

/-! Searching a source line by line. A match never spans lines; matches on one line do not overlap,
and empty ones are left out. -/
namespace StoryScript.Search

open Pattern (Program Hit)

def slice (text : List Char) (start stop : Nat) : List Char := (text.drop start).take (stop - start)

def compile (query : String) (options : Options) : Except Pattern.Error Program :=
  if options.regex then Program.ofRegex query (!options.caseSensitive)
  else Program.ofText query (!options.caseSensitive) options.wholeWord

def groupsOf (program : Program) (text : List Char) (hit : Hit) : List (Option String) :=
  (List.range program.groups).map fun i =>
    (hit.group? (i + 1)).map fun (start, stop) => String.ofList (slice text start stop)

/-- A hit on a line as a match, unless it is empty. -/
def matchOf (program : Program) (withGroups : Bool) (line : Line) (hit : Hit) : Option Match :=
  if hit.start = hit.stop then none
  else
    let text := line.text.toList
    some {
      line := line.number
      column := hit.start + 1
      endColumn := hit.stop + 1
      matchedText := String.ofList (slice text hit.start hit.stop)
      lineText := line.text
      groups := if withGroups then groupsOf program text hit else [] }

def matchesOn (program : Program) (withGroups : Bool) (line : Line) : List Match :=
  (program.allMatches line.text.toList).filterMap (matchOf program withGroups line)

/-- The text shown for a query that cannot be used. -/
def invalidPattern (reason : String) : String := "Invalid regex pattern: " ++ reason

/-- All matches of a query in a source. A query that cannot be used yields no match and its error, an
empty query no match and no error. -/
def find (source query : String) (options : Options) : MatchSet :=
  let hash := Fingerprint.ofText source
  if query.isEmpty then ⟨query, options, hash, [], none⟩
  else match compile query options with
    | .error error => ⟨query, options, hash, [], some (invalidPattern error.message)⟩
    | .ok program =>
      ⟨query, options, hash, (Text.lines source).flatMap (matchesOn program options.regex), none⟩

def countMatches (source query : String) (options : Options) : Nat :=
  (find source query options).found.length

def patternError? (query : String) (options : Options) : Option Pattern.Error :=
  if query.isEmpty then none
  else match compile query options with
    | .error error => some error
    | .ok _ => none

end StoryScript.Search
