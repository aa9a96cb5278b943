/-! Sets of names as lists in ascending order without repetition. -/
namespace StoryScript.Script

abbrev NameSet := List String

namespace NameSet

def insert (name : String) : NameSet → NameSet
  | [] => [name]
  | other :: rest =>
    if name < other then name :: other :: rest
    else if name = other then other :: rest
    else other :: insert name rest

def ofList (names : List String) : NameSet := names.foldl (fun set name => insert name set) []

def difference (a b : NameSet) : NameSet := a.filter fun name => !b.contains name

end NameSet

end StoryScript.Script
