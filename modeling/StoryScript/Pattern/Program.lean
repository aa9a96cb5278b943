import StoryScript.Pattern.Space

/-! Programs that search for a pattern. An instruction goes on with the one after it unless it says
otherwise; a `split` prefers its first target. -/
namespace StoryScript.Pattern

open Unicode (CharSet)

inductive Inst where
  | consume (set : CharSet)
  | require (look : Look)
  /-- Remembers the current place under a number. -/
  | save (slot : Nat)
  | split (preferred other : Nat)
  | jump (target : Nat)
  | accept

structure Program where
  code : Array Inst
  /-- The number of capture groups. -/
  groups : Nat

namespace Node

def size : Node → Nat
  | empty => 0
  | set _ => 1
  | look _ => 1
  | group _ sub => sub.size + 2
  | seq a b => a.size + b.size
  | alt a b => a.size + b.size + 2
  | repeated low none _ sub => if low = 0 then sub.size + 2 else low * sub.size + 1
  | repeated low (some high) _ sub => low * sub.size + (high - low) * (sub.size + 1)

/-- A choice to go on with the next instruction or to leave; a lazy one prefers to leave. -/
def choice (greedy : Bool) (enter leave : Nat) : Inst :=
  if greedy then .split enter leave else .split leave enter

/-- `count` copies of some code, one after the other from address `start` on. -/
def copies (size : Nat) (code : Nat → List Inst) : Nat → Nat → List Inst
  | 0, _ => []
  | count + 1, start => code start ++ copies size code count (start + size)

/-- Up to `count` copies, before each of which the code may leave for `stop`. -/
def options (greedy : Bool) (size : Nat) (code : Nat → List Inst) (stop : Nat) :
    Nat → Nat → List Inst
  | 0, _ => []
  | count + 1, start =>
    choice greedy (start + 1) stop :: code (start + 1) ++
      options greedy size code stop count (start + 1 + size)

def emit : Node → Nat → List Inst
  | empty, _ => []
  | set members, _ => [.consume members]
  | look condition, _ => [.require condition]
  | group index sub, start => .save (2 * index) :: emit sub (start + 1) ++ [.save (2 * index + 1)]
  | seq a b, start => emit a start ++ emit b (start + a.size)
  | alt a b, start =>
    let second := start + a.size + 2
    .split (start + 1) second :: emit a (start + 1) ++
      .jump (second + b.size) :: emit b second
  | repeated low none greedy sub, start =>
    if low = 0 then
      let stop := start + sub.size + 2
      let again := if sub.consumes then .jump start else choice greedy (start + 1) stop
      choice greedy (start + 1) stop :: emit sub (start + 1) ++ [again]
    else
      let last := start + (low - 1) * sub.size
      copies sub.size (emit sub) low start ++ [choice greedy last (last + sub.size + 1)]
  | repeated low (some high) greedy sub, start =>
    let stop := start + low * sub.size + (high - low) * (sub.size + 1)
    copies sub.size (emit sub) low start ++
      options greedy sub.size (emit sub) stop (high - low) (start + low * sub.size)

end Node

namespace Program

def ofNode (node : Node) : Program := ⟨(node.emit 0 ++ [Inst.accept]).toArray, node.groups⟩

/-- The program of a node, unless it needs too much space. -/
def ofNode? (node : Node) : Option Program :=
  if node.Fits then some (ofNode node) else none

end Program

end StoryScript.Pattern
