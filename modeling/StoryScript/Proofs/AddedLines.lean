import StoryScript.Proofs.Braces

/-! Lines that are added behind a source and that define scenes and assign variables. What is read
off the source stays as it was, up to the new definitions and assignments. If these are the missing
scenes and the undefined variables, then nothing is missing or undefined any more, and nothing is
found that was not found before. -/
namespace StoryScript.Script

/-- Lines that define scenes and assign variables, in this order, and do nothing else. -/
structure Adds (lines : List Line) (scenes vars : List String) : Prop where
  code : ∀ line ∈ lines, isComment line.text = false ∧ Text.isBlank line.text = false
  definitions :
    (sitesOf (fun line => (sceneDefinition? line).toList) lines).map (·.name) = scenes
  references : sitesOf (fun line => (choiceTarget? line).toList) lines = []
  assignments : (sitesOf (fun line => (assignment? line).toList) lines).map (·.name) = vars
  interpolations : sitesOf interpolations lines = []
  /-- Every block that the lines open they close. -/
  braces : ∀ nesting : Nesting, (lines.flatMap bracesOn).foldl Nesting.step nesting = nesting

namespace Adds

theorem nil : Adds [] [] [] :=
  ⟨by simp, rfl, rfl, rfl, rfl, fun _ => rfl⟩

theorem append {first second : List Line} {scenes scenes' vars vars' : List String}
    (adds : Adds first scenes vars) (adds' : Adds second scenes' vars') :
    Adds (first ++ second) (scenes ++ scenes') (vars ++ vars') where
  code := List.forall_mem_append.mpr ⟨adds.code, adds'.code⟩
  definitions := by rw [sitesOf_append, List.map_append, adds.definitions, adds'.definitions]
  references := by rw [sitesOf_append, adds.references, adds'.references, List.append_nil]
  assignments := by rw [sitesOf_append, List.map_append, adds.assignments, adds'.assignments]
  interpolations := by
    rw [sitesOf_append, adds.interpolations, adds'.interpolations, List.append_nil]
  braces nesting := by rw [List.flatMap_append, List.foldl_append, adds.braces, adds'.braces]

theorem flatMap {names : List String} {block scenes vars : String → List String}
    (each : ∀ name ∈ names, ∀ lines : List Line, lines.map (·.text) = block name →
      Adds lines (scenes name) (vars name))
    {lines : List Line} (texts : lines.map (·.text) = names.flatMap block) :
    Adds lines (names.flatMap scenes) (names.flatMap vars) := by
  induction names generalizing lines with
  | nil =>
    obtain rfl : lines = [] := by simpa using texts
    exact nil
  | cons name rest ih =>
    obtain ⟨own, others⟩ := List.forall_mem_cons.mp each
    obtain ⟨first, second, rfl, ofName, ofRest⟩ := List.map_eq_append_iff.mp texts
    exact (own first ofName).append (ih others ofRest)

end Adds

/-- The second source is the first with lines behind it that define the scenes and assign the
variables. -/
def Grown (source grown : String) (scenes vars : List String) : Prop :=
  ∃ added, Text.lines grown = Text.lines source ++ added ∧ Adds added scenes vars

namespace Grown

variable {source grown : String} {scenes vars : List String}

theorem exists_added (extended : Grown source grown scenes vars) : ∃ added,
    uncommented grown = uncommented source ++ added ∧ codeOf grown = codeOf source ++ added ∧
      Adds added scenes vars := by
  obtain ⟨added, lines, adds⟩ := extended
  have noComment : added.filter (fun line => !isComment line.text) = added :=
    List.filter_eq_self.mpr fun line member => by simp [(adds.code line member).1]
  have noBlank : added.filter (fun line => !Text.isBlank line.text) = added :=
    List.filter_eq_self.mpr fun line member => by simp [(adds.code line member).2]
  have kept : uncommented grown = uncommented source ++ added := by
    rw [uncommented, lines, List.filter_append, noComment, uncommented]
  refine ⟨added, kept, ?_, adds⟩
  rw [codeOf, kept, List.filter_append, noBlank, codeOf]

theorem definitions (extended : Grown source grown scenes vars) : ∃ new,
    (Scenes.ofSource grown).definitions = (Scenes.ofSource source).definitions ++ new ∧
      new.map (·.name) = scenes := by
  obtain ⟨added, kept, -, adds⟩ := extended.exists_added
  refine ⟨_, ?_, adds.definitions⟩
  rw [Scenes.definitions_ofSource, Scenes.definitions_ofSource, kept, sitesOf_append]

theorem references (extended : Grown source grown scenes vars) :
    (Scenes.ofSource grown).references = (Scenes.ofSource source).references := by
  obtain ⟨added, kept, -, adds⟩ := extended.exists_added
  rw [Scenes.references_ofSource, Scenes.references_ofSource, kept, sitesOf_append, adds.references,
    List.append_nil]

theorem assignments (extended : Grown source grown scenes vars) : ∃ new,
    (Variables.ofSource grown).assignments = (Variables.ofSource source).assignments ++ new ∧
      new.map (·.name) = vars := by
  obtain ⟨added, kept, -, adds⟩ := extended.exists_added
  refine ⟨_, ?_, adds.assignments⟩
  rw [Variables.assignments_ofSource, Variables.assignments_ofSource, kept, sitesOf_append]

theorem interpolations (extended : Grown source grown scenes vars) :
    (Variables.ofSource grown).interpolations = (Variables.ofSource source).interpolations := by
  obtain ⟨added, kept, -, adds⟩ := extended.exists_added
  rw [Variables.interpolations_ofSource, Variables.interpolations_ofSource, kept, sitesOf_append,
    adds.interpolations, List.append_nil]

theorem nesting (extended : Grown source grown scenes vars) :
    Nesting.ofBraces (bracesOf grown) = Nesting.ofBraces (bracesOf source) := by
  obtain ⟨added, -, code, adds⟩ := extended.exists_added
  rw [bracesOf, code, List.flatMap_append, Nesting.ofBraces, List.foldl_append, adds.braces]
  rfl

theorem mem_defined_iff (extended : Grown source grown scenes vars) {name : String} :
    name ∈ (Scenes.ofSource grown).defined ↔
      name ∈ (Scenes.ofSource source).defined ∨ name ∈ scenes := by
  obtain ⟨new, whole, rfl⟩ := extended.definitions
  simp [Scenes.defined, namesOf, whole]

theorem mem_assigned_iff (extended : Grown source grown scenes vars) {name : String} :
    name ∈ (Variables.ofSource grown).assigned ↔
      name ∈ (Variables.ofSource source).assigned ∨ name ∈ vars := by
  obtain ⟨new, whole, rfl⟩ := extended.assignments
  simp [Variables.assigned, namesOf, whole]

theorem referenced (extended : Grown source grown scenes vars) :
    (Scenes.ofSource grown).referenced = (Scenes.ofSource source).referenced := by
  rw [Scenes.referenced, extended.references, Scenes.referenced]

theorem interpolated (extended : Grown source grown scenes vars) :
    (Variables.ofSource grown).interpolated = (Variables.ofSource source).interpolated := by
  rw [Variables.interpolated, extended.interpolations, Variables.interpolated]

end Grown

theorem firstSite?_append {name : String} {sites : List Site} (listed : name ∈ namesOf sites)
    (new : List Site) : firstSite? (sites ++ new) name = firstSite? sites name := by
  obtain ⟨site, member, same⟩ := mem_namesOf.mp listed
  rw [firstSite?, firstSite?, List.find?_append]
  refine Option.or_of_isSome (List.find?_isSome.mpr ⟨site, member, ?_⟩)
  simpa using same

/-! ### Missing scenes and undefined variables -/

/-- The added lines define the scenes that were missing and assign the variables that were
undefined. -/
abbrev Completed (source grown : String) : Prop :=
  Grown source grown (Scenes.ofSource source).missing (Variables.ofSource source).undefined

namespace Completed

variable {source grown : String} (completed : Completed source grown)
include completed

theorem missing_eq_nil : (Scenes.ofSource grown).missing = [] := by
  rw [Scenes.missing, completed.referenced]
  exact NameSet.difference_grown fun _ => completed.mem_defined_iff

theorem undefined_eq_nil : (Variables.ofSource grown).undefined = [] := by
  rw [Variables.undefined, completed.interpolated]
  exact NameSet.difference_grown fun _ => completed.mem_assigned_iff

theorem unused_eq : (Variables.ofSource grown).unused = (Variables.ofSource source).unused := by
  rw [Variables.unused, Variables.unused, completed.interpolated]
  exact NameSet.grown_difference (fun _ => completed.mem_assigned_iff) (ascending_namesOf _)
    (ascending_namesOf _)

/-- The entry scene changes only where no scene was defined, and then every scene was missing. -/
theorem unreachable_eq (entry : Option String) :
    (Scenes.ofSource grown).unreachable entry = (Scenes.ofSource source).unreachable entry := by
  have reached : (Scenes.ofSource grown).defined.difference (Scenes.ofSource grown).referenced =
      (Scenes.ofSource source).defined.difference (Scenes.ofSource source).referenced := by
    rw [completed.referenced]
    exact NameSet.grown_difference (fun _ => completed.mem_defined_iff) (ascending_namesOf _)
      (ascending_namesOf _)
  rw [Scenes.unreachable, Scenes.unreachable, reached]
  obtain ⟨new, whole, -⟩ := completed.definitions
  cases defined : (Scenes.ofSource source).definitions with
  | nil =>
    have nothing : (Scenes.ofSource source).defined = [] := by rw [Scenes.defined, defined]; rfl
    rw [nothing]
    rfl
  | cons first rest =>
    have same : (Scenes.ofSource grown).first? = (Scenes.ofSource source).first? := by
      rw [Scenes.first?, Scenes.first?, whole, defined]
      rfl
    rw [same]

theorem duplicates_eq :
    (Scenes.ofSource grown).duplicates = (Scenes.ofSource source).duplicates := by
  obtain ⟨new, whole, names⟩ := completed.definitions
  have distinct : (new.map (·.name)).Nodup := names ▸ (ascending_missing _).nodup
  rw [Scenes.duplicates, whole, Scenes.repeated_append, Scenes.repeated_eq_nil distinct,
    List.append_nil, Scenes.duplicates]
  intro site member old
  have missing : site.name ∈ (Scenes.ofSource source).missing :=
    names ▸ List.mem_map_of_mem member
  rw [Scenes.missing, NameSet.mem_difference, Scenes.defined, mem_namesOf] at missing
  exact missing.2 (by simpa using old)

theorem length_definitions : (Scenes.ofSource grown).definitions.length =
    (Scenes.ofSource source).definitions.length + (Scenes.ofSource source).missing.length := by
  obtain ⟨new, whole, names⟩ := completed.definitions
  rw [whole, List.length_append, ← names, List.length_map]

theorem length_assigned : (Variables.ofSource grown).assigned.length =
    (Variables.ofSource source).assigned.length + (Variables.ofSource source).undefined.length := by
  obtain ⟨new, whole, names⟩ := completed.assignments
  rw [Variables.assigned, namesOf, whole, List.map_append, names]
  refine NameSet.length_ofList_append (ascending_undefined _).nodup fun name undefined old => ?_
  rw [Variables.undefined, NameSet.mem_difference, Variables.assigned, namesOf,
    NameSet.mem_ofList] at undefined
  exact undefined.2 old

end Completed

end StoryScript.Script
