import StoryScript.Text.Line
import StoryScript.Text.Fingerprint

/-! Edits of a source. An operation replaces a span of one line; a batch is taken as a whole or not
at all. Operations are resolved to spans of bytes of the source before any of them is applied. -/
namespace StoryScript.Edit

structure Operation where
  line : Nat
  startColumn : Nat
  /-- Exclusive. -/
  endColumn : Nat
  replacement : String
  deriving DecidableEq, Repr

def Operation.lengthDelta (operation : Operation) : Int :=
  operation.replacement.length - ((operation.endColumn : Int) - operation.startColumn)

inductive Error where
  /-- The matches were computed on another text than the buffer's. -/
  | staleMatches (expected actual : Fingerprint)
  | outOfRange (line startColumn endColumn : Nat)
  | overlapping (line column : Nat)
  | invalidQuery (reason : String)
  deriving DecidableEq, Repr

namespace Error

def message : Error → String
  | .staleMatches expected actual =>
    "Matches are stale: computed against source " ++ expected.toHex ++ ", buffer is " ++
      actual.toHex
  | .outOfRange line startColumn endColumn =>
    "Edit out of range at line " ++ toString line ++ ", columns " ++ toString startColumn ++ ".." ++
      toString endColumn
  | .overlapping line column =>
    "Overlapping edits at line " ++ toString line ++ ", column " ++ toString column
  | .invalidQuery reason => "Invalid regex pattern: " ++ reason

/-- The message as the whole tool words it. -/
def toolMessage : Error → String
  | .staleMatches expected actual =>
    "Stale matches: computed against source " ++ expected.toHex ++ ", buffer is now " ++
      actual.toHex
  | .invalidQuery reason => "Invalid pattern: " ++ reason
  | error => "Edit error: " ++ error.message

end Error

/-- An operation with the bytes of the source that it replaces. -/
structure Resolved where
  start : Nat
  stop : Nat
  operation : Operation
  deriving DecidableEq, Repr

namespace Operation

def resolve? (lines : List Line) (operation : Operation) : Option Resolved := do
  if operation.line = 0 ∨ operation.endColumn < operation.startColumn then none
  else
    let line ← lines[operation.line - 1]?
    let start ← Text.byteOfColumn line.text operation.startColumn
    let stop ← Text.byteOfColumn line.text operation.endColumn
    return ⟨line.offset + start, line.offset + stop, operation⟩

def resolve (lines : List Line) (operation : Operation) : Except Error Resolved :=
  match operation.resolve? lines with
  | some edit => .ok edit
  | none =>
    .error (.outOfRange operation.line operation.startColumn operation.endColumn)

end Operation

namespace Resolved

def precedes (a b : Resolved) : Bool :=
  a.start < b.start || (a.start == b.start && a.stop ≤ b.stop)

/-- The later of two edits in order starts where the earlier one does, or inside it. -/
def collides (earlier later : Resolved) : Bool :=
  earlier.start == later.start || later.start < earlier.stop

end Resolved

/-- The second of the first two neighbours that collide. -/
def firstCollision : List Resolved → Option Resolved
  | earlier :: later :: rest =>
    if earlier.collides later then some later else firstCollision (later :: rest)
  | _ => none

/-- Resolves a batch: every operation has to be in range and no two may collide; touching is
allowed. The result is in the order of the source. -/
def resolve (source : String) (operations : List Operation) : Except Error (List Resolved) := do
  let lines := Text.lines source
  let edits ← operations.mapM (·.resolve lines)
  let sorted := edits.mergeSort Resolved.precedes
  match firstCollision sorted with
  | some edit => .error (.overlapping edit.operation.line edit.operation.startColumn)
  | none => .ok sorted

/-- The text with the spans of edits replaced and all else kept. The edits are in order, and the text
starts at the byte `offset` of the source that they are resolved against. -/
def weave (offset : Nat) (text : List Char) : List Resolved → List Char
  | [] => text
  | edit :: later =>
    Text.takeBytes text (edit.start - offset) ++ edit.operation.replacement.toList ++
      weave edit.stop (Text.dropBytes text (edit.stop - offset)) later

def apply (source : String) (operations : List Operation) : Except Error String := do
  let edits ← resolve source operations
  return String.ofList (weave 0 source.toList edits)

end StoryScript.Edit
