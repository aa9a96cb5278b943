/-! Recent entries, newest first and each only once, up to a limit. -/
namespace StoryScript.Editor

structure History (α : Type) where
  limit : Nat
  entries : List α
  deriving DecidableEq, Repr

namespace History

variable {α : Type}

def defaultLimit : Nat := 10

def empty (limit : Nat) : History α := ⟨limit, []⟩

/-- Puts an entry in front, wherever it was before, and drops the oldest beyond the limit. -/
def push [DecidableEq α] (history : History α) (entry : α) : History α :=
  { history with entries := (entry :: history.entries.erase entry).take history.limit }

def clear (history : History α) : History α := { history with entries := [] }

def latest? (history : History α) : Option α := history.entries.head?

end History

end StoryScript.Editor
