import StoryScript.Edit.Operation
import StoryScript.Editor.Selection

/-! The document of an editor: a sequence of characters, a selection, and snapshots to go back to.
A batch of edits is one step to undo. -/
namespace StoryScript.Editor

structure Buffer where
  chars : List Char
  selection : Option Selection
  /-- Earlier texts, newest first. -/
  snapshots : List (List Char)
  undoLimit : Nat
  deriving DecidableEq, Repr

namespace Buffer

def defaultUndoLimit : Nat := 100

def ofText (text : String) : Buffer := ⟨text.toList, none, [], defaultUndoLimit⟩

def text (buffer : Buffer) : String := String.ofList buffer.chars

def undoDepth (buffer : Buffer) : Nat := buffer.snapshots.length

/-- Sets the number of snapshots that are kept. Of those there are, the oldest stay. -/
def withUndoLimit (buffer : Buffer) (limit : Nat) : Buffer :=
  { buffer with
    undoLimit := limit
    snapshots := buffer.snapshots.drop (buffer.snapshots.length - limit) }

def select (buffer : Buffer) (selection : Option Selection) : Buffer :=
  { buffer with selection }

/-- Shows a span of a line by selecting it. -/
def reveal (buffer : Buffer) (line startColumn endColumn : Nat) : Buffer :=
  buffer.select (some (.onLine line startColumn endColumn))

/-- The snapshots with the current text added; at the limit the oldest makes room for it. -/
def withSnapshot (buffer : Buffer) : List (List Char) :=
  if buffer.undoLimit = 0 then buffer.snapshots
  else if buffer.snapshots.length = buffer.undoLimit then
    buffer.chars :: buffer.snapshots.dropLast
  else buffer.chars :: buffer.snapshots

/-- The characters with the spans of resolved edits replaced, each span counted in characters. The
edits are in order, and the characters start at the byte `offset` of the text that they refer to. -/
def replaceSpans (offset : Nat) (chars : List Char) : List Edit.Resolved → List Char
  | [] => chars
  | edit :: later =>
    let start := Text.charsBefore chars (edit.start - offset)
    let stop := Text.charsBefore chars (edit.stop - offset)
    chars.take start ++ edit.operation.replacement.toList ++
      replaceSpans edit.stop (chars.drop stop) later

/-- Applies a batch as one step to undo, or changes nothing if it is refused or empty. -/
def applyEdits (buffer : Buffer) (operations : List Edit.Operation) :
    Except Edit.Error Buffer := do
  if operations.isEmpty then return buffer
  let edits ← Edit.resolve buffer.text operations
  return { buffer with
    chars := replaceSpans 0 buffer.chars edits
    selection := none
    snapshots := buffer.withSnapshot }

def undo? (buffer : Buffer) : Option Buffer :=
  match buffer.snapshots with
  | [] => none
  | chars :: older => some { buffer with chars, selection := none, snapshots := older }

end Buffer

end StoryScript.Editor
