import StoryScript.Script.Scenes

/-! Variables: where they are assigned and where they are shown. Comment lines do not count. What
reads or sets a variable in another way is not seen. -/
namespace StoryScript.Script

structure Variables where
  assignments : List Site
  interpolations : List Site
  deriving DecidableEq, Repr

namespace Variables

def ofSource (source : String) : Variables where
  assignments := sitesOf (fun line => (assignment? line).toList) (uncommented source)
  interpolations := sitesOf Script.interpolations (uncommented source)

def assigned (vars : Variables) : NameSet := namesOf vars.assignments

def interpolated (vars : Variables) : NameSet := namesOf vars.interpolations

/-- Assigned and never shown. -/
def unused (vars : Variables) : NameSet :=
  vars.assigned.difference vars.interpolated

/-- Shown and never assigned. -/
def undefined (vars : Variables) : NameSet :=
  vars.interpolated.difference vars.assigned

end Variables

end StoryScript.Script
