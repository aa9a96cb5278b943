import StoryScript.CommandLine.Run

/-! The program: reads the files that its arguments name, runs the command on them, and writes what
it answers. -/
namespace StoryScript.CommandLine

def fileFault : IO.Error → FileFault
  | .noFileOrDirectory .. => .missing
  | .noSuchThing .. => .missing
  | .inappropriateType _ code _ => if code = 21 then .directory else .notDirectory
  | .permissionDenied .. => .denied
  | error => .system (toString error)

def readText (path : String) : IO (Except FileFault String) := do
  try
    let bytes ← IO.FS.readBinFile path
    return match String.fromUTF8? bytes with
      | some text => .ok text
      | none => .error .notUtf8
  catch error => return .error (fileFault error)

def pathsOf : Request → List String
  | .run config (.find file ..) => config.toList ++ [file]
  | .run config (.replace file ..) => config.toList ++ [file]
  | .run config (.analyze file _) => config.toList ++ [file]
  | _ => []

/-- Writes the file of an outcome; a fault makes the outcome a failure. -/
def settle (outcome : Outcome) : IO Outcome := do
  match outcome.written with
  | none => return outcome
  | some (path, text) =>
    try
      IO.FS.writeFile path text
      return outcome
    catch error => return .ofFailure (.unwritableScript path (fileFault error))

end StoryScript.CommandLine

open StoryScript CommandLine in
def main (arguments : List String) : IO UInt32 := do
  let configured ← IO.getEnv "SCENEKIT_CONFIG"
  let texts ← (pathsOf (.ofArguments configured arguments)).mapM fun path => do
    return (path, ← readText path)
  let files : Files := fun path => (texts.lookup path).getD (.error .missing)
  let outcome ← settle (run files configured arguments)
  IO.print outcome.stdout
  IO.eprint outcome.stderr
  return outcome.code.toUInt32
