import StoryScript.CommandLine.Arguments
import StoryScript.CommandLine.Failure
import StoryScript.CommandLine.Help
import StoryScript.CommandLine.Printout
import StoryScript.CommandLine.Settings
import StoryScript.Editor.Session

/-! The commands of the program, as functions of the files that they read. -/
namespace StoryScript.CommandLine

open Editor (Buffer Session)

abbrev Files := String → Except FileFault String

/-- What a command prints, and the file that it writes before. -/
structure Result where
  output : String
  written : Option (String × String)

def Result.print (output : String) : Result := ⟨output, none⟩

def readSettings (files : Files) : Option String → Except Failure Settings
  | none => .ok .default
  | some path =>
    match files path with
    | .error fault => .error (.unreadableConfig path fault)
    | .ok text =>
      match Settings.parse? text with
      | some settings => .ok settings
      | none => .error (.invalidConfig path)

def readScript (files : Files) (path : String) : Except Failure String :=
  match files path with
  | .ok text => .ok text
  | .error fault => .error (.unreadableScript path fault)

def checkPattern (query : String) (options : Search.Options) : Except Failure Unit :=
  match Search.patternError? query options with
  | some error => .error (.invalidPattern error)
  | none => .ok ()

def findAll (source query : String) (options : Search.Options) : Search.MatchSet :=
  ((Session.new .default).search query options source).1

/-- Replaces all matches with a session of its own: how many there were, and the new text. -/
def replaceAll (source query replacement : String) (options : Search.Options) :
    Except Edit.Error (Nat × String) := do
  let (_, session) := (Session.new .default).search query options source
  let (operations, _, buffer) ← session.replaceAll replacement (Buffer.ofText source)
  return (operations.length, buffer.text)

def Command.run (files : Files) (settings : Settings) : Command → Except Failure Result
  | .find file query options json => do
    let source ← readScript files file
    let options := settings.search.either options
    checkPattern query options
    return .print (matchText json (findAll source query options))
  | .replace file query replacement options write => do
    let source ← readScript files file
    let options := settings.search.either options
    checkPattern query options
    match replaceAll source query replacement options with
    | .error error => .error (.refusedEdits error)
    | .ok (count, text) =>
      if write then
        return ⟨"Replaced " ++ toString count ++ " match(es) in " ++ file ++ "\n",
          if count = 0 then none else some (file, text)⟩
      else return .print text
  | .analyze file json => do
    let source ← readScript files file
    let report := StoryScript.analyze settings.report source
    return .print (if json then report.toJson.pretty 0 ++ "\n" else reportText report)

/-- How the program ends: its exit code, its outputs, and a file to write before that. -/
structure Outcome where
  code : Nat
  stdout : String
  stderr : String
  written : Option (String × String)

namespace Outcome

def ofFailure (failure : Failure) : Outcome :=
  ⟨1, "", "error: " ++ failure.message ++ "\n", none⟩

def ofResult : Except Failure Result → Outcome
  | .ok result => ⟨0, result.output, "", result.written⟩
  | .error failure => ofFailure failure

end Outcome

/-- Runs the program. The settings are read before the script. -/
def run (files : Files) (configured : Option String) (arguments : List String) : Outcome :=
  match Request.ofArguments configured arguments with
  | .version => ⟨0, versionText, "", none⟩
  | .help verb => ⟨0, helpText verb, "", none⟩
  | .refused => ⟨2, "", "error: invalid arguments\n\n" ++ usage none ++ "\n", none⟩
  | .run config command =>
    .ofResult do
      let settings ← readSettings files config
      command.run files settings

end StoryScript.CommandLine
