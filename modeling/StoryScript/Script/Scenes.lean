import StoryScript.Script.Marks
import StoryScript.Script.NameSet

/-! Scenes and the choices that lead to them. Comment lines do not count. Only choices are seen: a
scene that is entered in another way is reported as unreachable although it is not. -/
namespace StoryScript.Script

structure Site where
  name : String
  line : Nat
  column : Nat
  deriving DecidableEq, Repr

def Site.ofMark (line : Nat) (mark : Mark) : Site := ⟨mark.name, line, mark.column⟩

def uncommented (source : String) : List Line :=
  (Text.lines source).filter fun line => !isComment line.text

/-- The sites of the marks that a reading finds on lines. -/
def sitesOf (marks : String → List Mark) (lines : List Line) : List Site :=
  lines.flatMap fun line => (marks line.text).map (.ofMark line.number)

def namesOf (sites : List Site) : NameSet := .ofList (sites.map (·.name))

def firstSite? (sites : List Site) (name : String) : Option Site :=
  sites.find? (·.name == name)

structure Scenes where
  definitions : List Site
  references : List Site
  deriving DecidableEq, Repr

namespace Scenes

def ofSource (source : String) : Scenes where
  definitions := sitesOf (fun line => (sceneDefinition? line).toList) (uncommented source)
  references := sitesOf (fun line => (choiceTarget? line).toList) (uncommented source)

def defined (scenes : Scenes) : NameSet := namesOf scenes.definitions

def referenced (scenes : Scenes) : NameSet := namesOf scenes.references

def first? (scenes : Scenes) : Option String := scenes.definitions.head?.map (·.name)

/-- Scenes that choices lead to and that are not defined. -/
def missing (scenes : Scenes) : NameSet := scenes.referenced.difference scenes.defined

/-- Scenes that no choice leads to, but for the entry scene, by default the first. -/
def unreachable (scenes : Scenes) (entry : Option String) : NameSet :=
  (scenes.defined.difference scenes.referenced).filter fun name =>
    some name != entry.or scenes.first?

/-- The sites whose name stands at an earlier one, given the names before. -/
def repeated (seen : List String) : List Site → List Site
  | [] => []
  | site :: rest =>
    if seen.contains site.name then site :: repeated seen rest
    else repeated (site.name :: seen) rest

/-- Every definition of a scene but the first. -/
def duplicates (scenes : Scenes) : List Site := repeated [] scenes.definitions

end Scenes

end StoryScript.Script
