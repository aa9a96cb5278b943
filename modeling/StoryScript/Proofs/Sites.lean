import Mathlib.Data.List.Induction
import Mathlib.Order.Bounds.Defs
import StoryScript.Proofs.NameSets
import StoryScript.Proofs.Positions
import StoryScript.Script.Variables

/-! Where names stand in a source. The sets that are read off a source are said through the lines on
which a name is defined, targeted, assigned or shown, and the first site of a name is on the least
of its lines. -/
namespace StoryScript.Script

/-- A reading finds the name on the line with the number, which is no comment. -/
def NamedAt (marks : String → List Mark) (source name : String) (number : Nat) : Prop :=
  ∃ line ∈ Text.lines source, line.number = number ∧ isComment line.text = false ∧
    ∃ mark ∈ marks line.text, mark.name = name

abbrev DefinedAt := NamedAt fun line => (sceneDefinition? line).toList

/-- The line is a choice that leads to the scene. -/
abbrev TargetedAt := NamedAt fun line => (choiceTarget? line).toList

abbrev AssignedAt := NamedAt fun line => (assignment? line).toList

abbrev ShownAt := NamedAt interpolations

theorem Scenes.definitions_ofSource (source : String) : (Scenes.ofSource source).definitions =
    sitesOf (fun line => (sceneDefinition? line).toList) (uncommented source) := rfl

theorem Scenes.references_ofSource (source : String) : (Scenes.ofSource source).references =
    sitesOf (fun line => (choiceTarget? line).toList) (uncommented source) := rfl

theorem Variables.assignments_ofSource (source : String) : (Variables.ofSource source).assignments =
    sitesOf (fun line => (assignment? line).toList) (uncommented source) := rfl

theorem Variables.interpolations_ofSource (source : String) :
    (Variables.ofSource source).interpolations =
      sitesOf Script.interpolations (uncommented source) := rfl

variable {marks : String → List Mark} {source name : String}

theorem mem_uncommented {line : Line} :
    line ∈ uncommented source ↔ line ∈ Text.lines source ∧ isComment line.text = false := by
  simp [uncommented]

theorem mem_sitesOf {lines : List Line} {site : Site} :
    site ∈ sitesOf marks lines ↔
      ∃ line ∈ lines, ∃ mark ∈ marks line.text, Site.ofMark line.number mark = site := by
  simp [sitesOf]

theorem sitesOf_append (marks : String → List Mark) (first second : List Line) :
    sitesOf marks (first ++ second) = sitesOf marks first ++ sitesOf marks second :=
  List.flatMap_append

theorem namedAt_iff {number : Nat} : NamedAt marks source name number ↔
    ∃ site ∈ sitesOf marks (uncommented source), site.name = name ∧ site.line = number := by
  constructor
  · rintro ⟨line, member, rfl, plain, mark, found, rfl⟩
    exact ⟨.ofMark line.number mark,
      mem_sitesOf.mpr ⟨line, mem_uncommented.mpr ⟨member, plain⟩, mark, found, rfl⟩, rfl, rfl⟩
  · rintro ⟨site, member, rfl, rfl⟩
    obtain ⟨line, kept, mark, found, rfl⟩ := mem_sitesOf.mp member
    obtain ⟨member, plain⟩ := mem_uncommented.mp kept
    exact ⟨line, member, rfl, plain, mark, found, rfl⟩

@[simp] theorem mem_namesOf {sites : List Site} :
    name ∈ namesOf sites ↔ ∃ site ∈ sites, site.name = name := by
  simp [namesOf]

theorem ascending_namesOf (sites : List Site) : (namesOf sites).Ascending :=
  NameSet.ascending_ofList _

theorem mem_namesOf_sitesOf :
    name ∈ namesOf (sitesOf marks (uncommented source)) ↔
      ∃ number, NamedAt marks source name number := by
  simp only [mem_namesOf, namedAt_iff]
  constructor
  · rintro ⟨site, member, named⟩
    exact ⟨site.line, site, member, named, rfl⟩
  · rintro ⟨_, site, member, named, _⟩
    exact ⟨site, member, named⟩

/-! ### Order -/

theorem uncommented_pairwise (source : String) :
    (uncommented source).Pairwise fun a b => a.number < b.number :=
  (Text.lines_pairwise source).filter _

theorem sitesOf_pairwise (marks : String → List Mark) (source : String) :
    (sitesOf marks (uncommented source)).Pairwise fun a b => a.line ≤ b.line := by
  refine List.pairwise_flatMap.mpr ⟨?_, ?_⟩
  · intro line _
    exact List.pairwise_map.mpr (List.pairwise_of_forall fun _ _ => Nat.le_refl _)
  · refine (uncommented_pairwise source).imp ?_
    intro first second less a ofFirst b ofSecond
    obtain ⟨_, _, rfl⟩ := List.mem_map.mp ofFirst
    obtain ⟨_, _, rfl⟩ := List.mem_map.mp ofSecond
    exact Nat.le_of_lt less

theorem filter_sitesOf {line : Line} (member : line ∈ uncommented source) :
    (sitesOf marks (uncommented source)).filter (·.line == line.number) =
      (marks line.text).map (.ofMark line.number) := by
  have ascending := uncommented_pairwise source
  obtain ⟨before, after, split⟩ := List.append_of_mem member
  rw [split] at ascending ⊢
  have others {lines : List Line} (apart : ∀ other ∈ lines, other.number ≠ line.number) :
      (sitesOf marks lines).filter (·.line == line.number) = [] := by
    refine List.filter_eq_nil_iff.mpr fun site found => ?_
    obtain ⟨other, inside, mark, _, rfl⟩ := mem_sitesOf.mp found
    simpa [Site.ofMark] using apart other inside
  have own : (sitesOf marks [line]).filter (·.line == line.number) =
      (marks line.text).map (.ofMark line.number) := by
    simp [sitesOf, Site.ofMark, List.filter_eq_self]
  obtain ⟨-, right, across⟩ := List.pairwise_append.mp ascending
  have right := (List.pairwise_cons.mp right).1
  rw [sitesOf_append, ← List.singleton_append, sitesOf_append, List.filter_append,
    List.filter_append, own,
    others fun other inside => Nat.ne_of_lt (across other inside line List.mem_cons_self),
    others fun other inside => Nat.ne_of_gt (right other inside)]
  simp

/-- A line defines at most one scene. -/
theorem definitions_pairwise (source : String) :
    (Scenes.ofSource source).definitions.Pairwise fun a b => a.line < b.line := by
  refine List.pairwise_flatMap.mpr ⟨?_, ?_⟩
  · intro line _
    refine List.pairwise_map.mpr ?_
    beta_reduce
    cases sceneDefinition? line.text with
    | none => exact List.Pairwise.nil
    | some mark => exact List.pairwise_singleton _ _
  · refine (uncommented_pairwise source).imp ?_
    intro first second less a ofFirst b ofSecond
    obtain ⟨_, _, rfl⟩ := List.mem_map.mp ofFirst
    obtain ⟨_, _, rfl⟩ := List.mem_map.mp ofSecond
    exact less

/-- The first site of a name is on the least line that has the name. -/
theorem firstSite?_isLeast {sites : List Site} (read : sites = sitesOf marks (uncommented source))
    (named : ∃ number, NamedAt marks source name number) :
    ∃ least, (firstSite? sites name).map (·.line) = some least ∧
      IsLeast {number | NamedAt marks source name number} least := by
  subst read
  have ascending := sitesOf_pairwise marks source
  obtain ⟨_, given⟩ := named
  obtain ⟨site, member, same, _⟩ := namedAt_iff.mp given
  cases found : firstSite? (sitesOf marks (uncommented source)) name with
  | none => exact absurd same (by simpa using List.find?_eq_none.mp found site member)
  | some first =>
    obtain ⟨isName, before, after, split, notBefore⟩ := List.find?_eq_some_iff_append.mp found
    rw [split] at ascending
    refine ⟨first.line, rfl, ?_, ?_⟩
    · exact namedAt_iff.mpr ⟨first, List.mem_of_find?_eq_some found, by simpa using isName, rfl⟩
    · rintro number other
      obtain ⟨site, member, same, rfl⟩ := namedAt_iff.mp other
      rw [split] at member
      rcases List.mem_append.mp member with earlier | later
      · exact absurd (notBefore site earlier) (by simp [same])
      · rcases List.mem_cons.mp later with rfl | later
        · exact Nat.le_refl _
        · exact List.rel_of_pairwise_cons (List.pairwise_append.mp ascending).2.1 later

/-! ### Derived sets -/

theorem mem_defined :
    name ∈ (Scenes.ofSource source).defined ↔ ∃ number, DefinedAt source name number := by
  rw [Scenes.defined, Scenes.definitions_ofSource, mem_namesOf_sitesOf]

theorem mem_referenced :
    name ∈ (Scenes.ofSource source).referenced ↔ ∃ number, TargetedAt source name number := by
  rw [Scenes.referenced, Scenes.references_ofSource, mem_namesOf_sitesOf]

theorem mem_assigned :
    name ∈ (Variables.ofSource source).assigned ↔ ∃ number, AssignedAt source name number := by
  rw [Variables.assigned, Variables.assignments_ofSource, mem_namesOf_sitesOf]

theorem mem_interpolated :
    name ∈ (Variables.ofSource source).interpolated ↔ ∃ number, ShownAt source name number := by
  rw [Variables.interpolated, Variables.interpolations_ofSource, mem_namesOf_sitesOf]

theorem mem_missing : name ∈ (Scenes.ofSource source).missing ↔
    (∃ number, TargetedAt source name number) ∧ ¬ ∃ number, DefinedAt source name number := by
  rw [Scenes.missing, NameSet.mem_difference, mem_referenced, mem_defined]

theorem mem_unused : name ∈ (Variables.ofSource source).unused ↔
    (∃ number, AssignedAt source name number) ∧ ¬ ∃ number, ShownAt source name number := by
  rw [Variables.unused, NameSet.mem_difference, mem_assigned, mem_interpolated]

theorem mem_undefined : name ∈ (Variables.ofSource source).undefined ↔
    (∃ number, ShownAt source name number) ∧ ¬ ∃ number, AssignedAt source name number := by
  rw [Variables.undefined, NameSet.mem_difference, mem_interpolated, mem_assigned]

/-- The scene that needs no choice to lead to it: the given one, or else the one defined first. -/
def IsEntry (given : Option String) (source name : String) : Prop :=
  match given with
  | some entry => name = entry
  | none => ∃ number, DefinedAt source name number ∧
      ∀ other later, DefinedAt source other later → number ≤ later

theorem definedAt_iff {number : Nat} : DefinedAt source name number ↔
    ∃ site ∈ (Scenes.ofSource source).definitions, site.name = name ∧ site.line = number := by
  rw [Scenes.definitions_ofSource]
  exact namedAt_iff

theorem first?_eq_some_iff : (Scenes.ofSource source).first? = some name ↔
    ∃ number, DefinedAt source name number ∧
      ∀ other later, DefinedAt source other later → number ≤ later := by
  have ascending := definitions_pairwise source
  simp only [Scenes.first?, definedAt_iff]
  revert ascending
  cases (Scenes.ofSource source).definitions with
  | nil => simp
  | cons first rest =>
    intro ascending
    have below := (List.pairwise_cons.mp ascending).1
    simp only [List.head?_cons, Option.map_some, Option.some.injEq]
    constructor
    · rintro rfl
      refine ⟨first.line, ⟨first, List.mem_cons_self, rfl, rfl⟩, ?_⟩
      rintro _ _ ⟨site, member, rfl, rfl⟩
      rcases List.mem_cons.mp member with rfl | later
      · exact Nat.le_refl _
      · exact Nat.le_of_lt (below site later)
    · rintro ⟨_, ⟨site, member, rfl, rfl⟩, least⟩
      rcases List.mem_cons.mp member with rfl | later
      · rfl
      · have := least _ _ ⟨first, List.mem_cons_self, rfl, rfl⟩
        have := below site later
        omega

theorem mem_unreachable {entry : Option String} :
    name ∈ (Scenes.ofSource source).unreachable entry ↔
      (∃ number, DefinedAt source name number) ∧ (¬ ∃ number, TargetedAt source name number) ∧
        ¬ IsEntry entry source name := by
  have isEntry : some name = entry.or (Scenes.ofSource source).first? ↔
      IsEntry entry source name := by
    cases entry with
    | none => rw [Option.none_or, eq_comm, first?_eq_some_iff, IsEntry]
    | some given => rw [Option.some_or, Option.some.injEq, IsEntry]
  rw [Scenes.unreachable, List.mem_filter, NameSet.mem_difference, mem_defined, mem_referenced,
    bne_iff_ne, ne_eq, isEntry, and_assoc]

theorem ascending_missing (scenes : Scenes) : scenes.missing.Ascending :=
  (ascending_namesOf _).difference _

theorem ascending_unused (vars : Variables) : vars.unused.Ascending :=
  (ascending_namesOf _).difference _

theorem ascending_undefined (vars : Variables) : vars.undefined.Ascending :=
  (ascending_namesOf _).difference _

theorem ascending_unreachable (scenes : Scenes) (entry : Option String) :
    (scenes.unreachable entry).Ascending :=
  ((ascending_namesOf _).difference _).filter _

/-! ### Repeated names -/

namespace Scenes

theorem repeated_congr {seen seen' : List String} (same : ∀ name, name ∈ seen ↔ name ∈ seen')
    (sites : List Site) : repeated seen sites = repeated seen' sites := by
  induction sites generalizing seen seen' with
  | nil => rfl
  | cons site rest ih =>
    have contains : seen.contains site.name = seen'.contains site.name := by
      rw [Bool.eq_iff_iff, List.contains_iff_mem, List.contains_iff_mem, same]
    have later : repeated (site.name :: seen) rest = repeated (site.name :: seen') rest :=
      ih (by simp [same])
    rw [repeated, repeated, contains, ih same, later]

/-- The names of earlier sites count as seen for later ones. -/
theorem repeated_append (seen : List String) (first second : List Site) :
    repeated seen (first ++ second) =
      repeated seen first ++ repeated (first.map (·.name) ++ seen) second := by
  induction first generalizing seen with
  | nil => rfl
  | cons site rest ih =>
    rw [List.cons_append, repeated, repeated]
    split
    · rename_i known
      have known : site.name ∈ seen := by simpa using known
      rw [ih, List.cons_append]
      congr 2
      refine repeated_congr (fun name => ?_) second
      by_cases same : name = site.name <;> simp [same, known]
    · rw [ih]
      congr 1
      refine repeated_congr (fun name => ?_) second
      simp [or_left_comm]

theorem repeated_snoc (sites : List Site) (last : Site) : repeated [] (sites ++ [last]) =
    repeated [] sites ++ if last.name ∈ sites.map (·.name) then [last] else [] := by
  simp [repeated_append, repeated]

theorem repeated_eq_nil {seen : List String} {sites : List Site}
    (distinct : (sites.map (·.name)).Nodup) (fresh : ∀ site ∈ sites, site.name ∉ seen) :
    repeated seen sites = [] := by
  induction sites generalizing seen with
  | nil => rfl
  | cons site rest ih =>
    obtain ⟨once, distinct⟩ := List.nodup_cons.mp distinct
    rw [repeated, if_neg (by simpa using fresh site List.mem_cons_self)]
    refine ih distinct fun other member old => ?_
    rcases List.mem_cons.mp old with same | old
    · exact once (List.mem_map.mpr ⟨other, member, same⟩)
    · exact fresh other (List.mem_cons_of_mem _ member) old

/-- A site is repeated if its name stands on an earlier line as well. -/
theorem mem_repeated {sites : List Site} (ascending : sites.Pairwise fun a b => a.line < b.line)
    {site : Site} : site ∈ repeated [] sites ↔
      site ∈ sites ∧ ∃ earlier ∈ sites, earlier.line < site.line ∧ earlier.name = site.name := by
  induction sites using List.reverseRecOn with
  | nil => simp [repeated]
  | append_singleton sites last ih =>
    obtain ⟨ascending, -, below⟩ := List.pairwise_append.mp ascending
    have below : ∀ site ∈ sites, site.line < last.line :=
      fun site member => below site member last List.mem_cons_self
    rw [repeated_snoc, List.mem_append, ih ascending]
    constructor
    · rintro (⟨member, earlier, before, less, same⟩ | new)
      · exact ⟨by simp [member], earlier, by simp [before], less, same⟩
      · split at new
        · rename_i known
          obtain ⟨earlier, before, same⟩ := List.mem_map.mp known
          obtain rfl := List.mem_singleton.mp new
          exact ⟨by simp, earlier, by simp [before], below earlier before, same⟩
        · cases new
    · rintro ⟨member, earlier, before, less, same⟩
      have older : earlier ∈ sites := by
        rcases List.mem_append.mp before with older | final
        · exact older
        · obtain rfl := List.mem_singleton.mp final
          rcases List.mem_append.mp member with member | final
          · exact absurd less (Nat.lt_asymm (below site member))
          · obtain rfl := List.mem_singleton.mp final
            exact absurd less (Nat.lt_irrefl _)
      rcases List.mem_append.mp member with member | final
      · exact .inl ⟨member, earlier, older, less, same⟩
      · obtain rfl := List.mem_singleton.mp final
        rw [if_pos (List.mem_map.mpr ⟨earlier, older, same⟩)]
        exact .inr List.mem_cons_self

theorem repeated_sublist (seen : List String) (sites : List Site) :
    (repeated seen sites).Sublist sites := by
  induction sites generalizing seen with
  | nil => exact List.Sublist.slnil
  | cons first rest ih =>
    rw [repeated]
    split
    · exact (ih seen).cons_cons first
    · exact (ih _).cons first

theorem length_repeated (sites : List Site) :
    (repeated [] sites).length + (namesOf sites).length = sites.length := by
  induction sites using List.reverseRecOn with
  | nil => rfl
  | append_singleton sites last ih =>
    rw [repeated_snoc, namesOf, List.map_append, List.length_append]
    rw [namesOf] at ih
    split
    · rename_i known
      have old : NameSet.ofList (sites.map (·.name) ++ [last].map (·.name)) =
          NameSet.ofList (sites.map (·.name)) := by
        refine NameSet.ofList_eq_of_mem_iff fun name => ?_
        by_cases same : name = last.name <;> simp_all
      rw [old, List.length_append]
      simp only [List.length_cons, List.length_nil]
      omega
    · rename_i new
      rw [NameSet.length_ofList_append (by simp) (by simpa using new), List.length_append]
      simp only [List.length_map, List.length_cons, List.length_nil]
      omega

end Scenes
end StoryScript.Script
