import StoryScript.Pattern.Matcher
import StoryScript.Pattern.Parser
import StoryScript.Pattern.Resolve

/-! From a query to a program that searches for it. -/
namespace StoryScript.Pattern

def Program.ofNodeWithin (node : Node) : Except Error Program :=
  match Program.ofNode? node with
  | some program => .ok program
  | none => .error (.tooLarge Program.byteLimit)

def Program.ofRegex (pattern : String) (ignoreCase : Bool) : Except Error Program :=
  let node := do
    let ast ← Ast.parse pattern.toList
    let (node, _) ← ast.resolve ⟨ignoreCase, false, false, false, true, false⟩
    return node
  match node with
  | .error located => .error (.syntaxFault pattern located)
  | .ok node => Program.ofNodeWithin node

def Program.ofText (text : String) (ignoreCase wholeWord : Bool) : Except Error Program :=
  Program.ofNodeWithin (Node.ofText ignoreCase wholeWord text.toList)

end StoryScript.Pattern
