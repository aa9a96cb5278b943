import StoryScript.Edit.Operation
import StoryScript.Pattern.Fault
import StoryScript.Text.Quoted

/-! Why the program fails, and what it says then. -/
namespace StoryScript.CommandLine

inductive FileFault where
  | missing
  | directory
  /-- A part of the path before the last is a file. -/
  | notDirectory
  | denied
  | notUtf8
  | system (text : String)
  deriving DecidableEq, Repr

def FileFault.message : FileFault → String
  | .missing => "No such file or directory (os error 2)"
  | .directory => "Is a directory (os error 21)"
  | .notDirectory => "Not a directory (os error 20)"
  | .denied => "Permission denied (os error 13)"
  | .notUtf8 => "stream did not contain valid UTF-8"
  | .system text => text

inductive Failure where
  | unreadableConfig (path : String) (fault : FileFault)
  | invalidConfig (path : String)
  | unreadableScript (path : String) (fault : FileFault)
  | invalidPattern (error : Pattern.Error)
  | refusedEdits (error : Edit.Error)
  | unwritableScript (path : String) (fault : FileFault)

/-- The message goes from the whole of the failure to its cause. -/
def Failure.message : Failure → String
  | .unreadableConfig path fault =>
    "Failed to read config from " ++ Text.quoted path ++ ": " ++ fault.message
  | .invalidConfig path =>
    "Failed to parse config " ++ Text.quoted path ++ ": Configuration error: not valid settings"
  | .unreadableScript path fault =>
    "Failed to read script " ++ Text.quoted path ++ ": IO error: " ++ fault.message ++ ": " ++
      fault.message
  | .invalidPattern error => "Invalid pattern: " ++ error.message
  | .refusedEdits error => "Failed to apply replacements: " ++ error.toolMessage
  | .unwritableScript path fault =>
    "Failed to write script " ++ Text.quoted path ++ ": " ++ fault.message

end StoryScript.CommandLine
