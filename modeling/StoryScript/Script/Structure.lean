import StoryScript.Script.Scenes

/-! The structure of a script: blocks and their nesting, and measures of its lines. A brace opens a
block of the kind that its line says, if it is the first on the line; a closing brace closes the
innermost block, or is recorded if there is none. -/
namespace StoryScript.Script

structure Metrics where
  totalLines : Nat
  codeLines : Nat
  commentLines : Nat
  commentRatio : Float
  avgLineLength : Float
  deriving Repr

/-- A conditional block where it opens, and how many are open then, itself included. -/
structure Opening where
  line : Nat
  depth : Nat
  deriving DecidableEq, Repr

structure Block where
  line : Nat
  kind : BlockKind
  deriving DecidableEq, Repr

inductive Brace where
  | opening (block : Block)
  | closing (line : Nat)
  deriving DecidableEq, Repr

/-- The braces of a structural text. The first that opens is of the given kind. -/
def bracesFrom (line : Nat) (kind : BlockKind) : List Char → List Brace
  | [] => []
  | c :: rest =>
    if c = '{' then .opening ⟨line, kind⟩ :: bracesFrom line .other rest
    else if c = '}' then .closing line :: bracesFrom line kind rest
    else bracesFrom line kind rest

def bracesOn (line : Line) : List Brace :=
  bracesFrom line.number (openingKind line.text) (structuralText line.text)

/-- The state of a reading of braces from left to right. -/
structure Nesting where
  /-- Open blocks, innermost first. -/
  stack : List Block
  /-- Open conditional blocks. -/
  depth : Nat
  maxDepth : Nat
  openings : List Opening
  unmatched : List Nat
  deriving DecidableEq, Repr

namespace Nesting

def start : Nesting := ⟨[], 0, 0, [], []⟩

def step (nesting : Nesting) : Brace → Nesting
  | .opening block =>
    if block.kind = .conditional then
      let depth := nesting.depth + 1
      { nesting with
        stack := block :: nesting.stack
        depth
        maxDepth := max nesting.maxDepth depth
        openings := nesting.openings ++ [⟨block.line, depth⟩] }
    else { nesting with stack := block :: nesting.stack }
  | .closing line =>
    match nesting.stack with
    | [] => { nesting with unmatched := nesting.unmatched ++ [line] }
    | block :: stack =>
      { nesting with
        stack
        depth := if block.kind = .conditional then nesting.depth - 1 else nesting.depth }

def ofBraces (braces : List Brace) : Nesting := braces.foldl step start

end Nesting

structure Structure where
  choices : Nat
  conditionals : Nat
  maxDepth : Nat
  openings : List Opening
  /-- Lines of closing braces that close nothing. -/
  unmatched : List Nat
  /-- Blocks that are never closed, outermost first. -/
  unclosed : List Block
  metrics : Metrics
  deriving Repr

/-- The lines that are neither comments nor blank. -/
def codeOf (source : String) : List Line :=
  (uncommented source).filter fun line => !Text.isBlank line.text

/-- The characters of lines, with `extra` more for each line. -/
def totalChars (lines : List Line) (extra : Nat) : Nat :=
  lines.foldr (fun line total => line.text.length + extra + total) 0

/-- A share of a number of lines, 0 if there are none. -/
def perLine (amount lines : Nat) : Float :=
  if lines = 0 then 0.0 else Float.ofNat amount / Float.ofNat lines

def Metrics.ofSource (source : String) : Metrics :=
  let lines := Text.lines source
  let comments := lines.countP fun line => isComment line.text
  { totalLines := lines.length
    codeLines := (codeOf source).length
    commentLines := comments
    commentRatio := perLine comments lines.length
    avgLineLength := perLine (totalChars lines 0) lines.length }

def Structure.ofSource (source : String) : Structure :=
  let code := codeOf source
  let nesting := Nesting.ofBraces (code.flatMap bracesOn)
  { choices := code.countP fun line => isChoice line.text
    conditionals := code.countP fun line => isConditionalBranch line.text
    maxDepth := nesting.maxDepth
    openings := nesting.openings
    unmatched := nesting.unmatched
    unclosed := nesting.stack.reverse
    metrics := .ofSource source }

/-- The lines from a scene's definition up to the next one. -/
structure SceneSpan where
  name : String
  startLine : Nat
  endLine : Nat
  /-- Characters, one more for each line end. -/
  chars : Nat
  deriving DecidableEq, Repr

/-- The characters of the lines from one number up to another, with their line ends. -/
def charsOfLines (lines : List Line) (first last : Nat) : Nat :=
  totalChars ((lines.take last).drop (first - 1)) 1

def spansOf (lines : List Line) : List Site → List SceneSpan
  | [] => []
  | site :: rest =>
    let last := match rest with
      | next :: _ => next.line - 1
      | [] => lines.length
    ⟨site.name, site.line, last, charsOfLines lines site.line last⟩ :: spansOf lines rest

/-- The spans of all scenes, which follow each other up to the end of the source. -/
def sceneSpans (source : String) : List SceneSpan :=
  spansOf (Text.lines source) (Scenes.ofSource source).definitions

end StoryScript.Script
