import StoryScript.Text.Line

/-! Selections in a source, by lines and columns from 1; the end column is exclusive. -/
namespace StoryScript.Editor

structure Selection where
  startLine : Nat
  startColumn : Nat
  endLine : Nat
  endColumn : Nat
  deriving DecidableEq, Repr

namespace Selection

def onLine (line startColumn endColumn : Nat) : Selection :=
  ⟨line, startColumn, line, endColumn⟩

def isSingleLine (selection : Selection) : Bool := selection.startLine == selection.endLine

def isEmpty (selection : Selection) : Bool :=
  selection.isSingleLine && selection.endColumn ≤ selection.startColumn

/-- The selected text, if the selection lies on one line, is not empty and exists. -/
def singleLineText (selection : Selection) (source : String) : Option String := do
  if !selection.isSingleLine || selection.isEmpty then none
  else
    let line ← Text.line? source selection.startLine
    let start ← Text.byteOfColumn line.text selection.startColumn
    let stop ← Text.byteOfColumn line.text selection.endColumn
    return String.ofList (Text.takeBytes (Text.dropBytes line.text.toList start) (stop - start))

end Selection

end StoryScript.Editor
