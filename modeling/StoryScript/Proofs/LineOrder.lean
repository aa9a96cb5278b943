import StoryScript.Proofs.JoinedLines
import StoryScript.Proofs.Sites
import StoryScript.Report.Analysis

/-! What is counted and collected does not depend on the order of the lines. Each measure is taken
line by line, from the text of the line alone, and an empty line adds nothing to it. -/
namespace StoryScript.Script

open Text (texts lineText)

/-! ### Measures of line texts -/

/-- The names that a reading finds on a line, none on a comment. -/
def namesOn (marks : String → List Mark) (text : String) : List String :=
  if isComment text then [] else (marks text).map (·.name)

def isCode (text : String) : Bool := !isComment text && !Text.isBlank text

theorem names_sitesOf (marks : String → List Mark) (source : String) :
    (sitesOf marks (uncommented source)).map (·.name) = (texts source).flatMap (namesOn marks) := by
  unfold uncommented texts
  induction Text.lines source with
  | nil => rfl
  | cons line rest ih =>
    rw [List.map_cons, List.flatMap_cons, ← ih, namesOn]
    cases comment : isComment line.text with
    | true => simp [comment]
    | false => simp [comment, sitesOf, Site.ofMark]

theorem namesOf_sitesOf (marks : String → List Mark) (source : String) :
    namesOf (sitesOf marks (uncommented source)) =
      NameSet.ofList ((texts source).flatMap (namesOn marks)) := by
  rw [namesOf, names_sitesOf]

theorem length_sitesOf (marks : String → List Mark) (source : String) :
    (sitesOf marks (uncommented source)).length =
      ((texts source).flatMap (namesOn marks)).length := by
  rw [← names_sitesOf, List.length_map]

theorem countP_codeOf (holds : String → Bool) (source : String) :
    (codeOf source).countP (fun line => holds line.text) =
      (texts source).countP fun text => holds text && isCode text := by
  simp [codeOf, uncommented, texts, List.countP_filter, List.countP_map, Function.comp_def, isCode,
    Bool.and_comm]

theorem length_codeOf (source : String) :
    (codeOf source).length = (texts source).countP isCode := by
  simpa using countP_codeOf (fun _ => true) source

/-! ### Lines in another order -/

section

variable {first second : List String} (perm : first.Perm second)
  (clean : ∀ line ∈ first, '\n' ∉ line.toList)
include perm clean

theorem filter_texts_perm {keep : String → Bool} (drops : keep "" = false) :
    ((texts ("\n".intercalate first)).filter keep).Perm
      ((texts ("\n".intercalate second)).filter keep) := by
  rw [Text.filter_texts_intercalate clean drops,
    Text.filter_texts_intercalate (fun line member => clean line (perm.mem_iff.mpr member)) drops]
  exact (perm.map lineText).filter keep

theorem countP_texts_perm {keep : String → Bool} (drops : keep "" = false) :
    (texts ("\n".intercalate first)).countP keep =
      (texts ("\n".intercalate second)).countP keep := by
  rw [List.countP_eq_length_filter, List.countP_eq_length_filter]
  exact (filter_texts_perm perm clean drops).length_eq

theorem flatMap_texts_perm {names : String → List String} (nothing : names "" = []) :
    ((texts ("\n".intercalate first)).flatMap names).Perm
      ((texts ("\n".intercalate second)).flatMap names) := by
  have kept (list : List String) :
      list.flatMap names = (list.filter fun text => !(names text).isEmpty).flatMap names := by
    induction list with
    | nil => rfl
    | cons text rest ih =>
      cases found : names text <;> simp [found, ih]
  rw [kept, kept (texts ("\n".intercalate second))]
  exact (filter_texts_perm perm clean (by simp [nothing])).flatMap_right names

theorem names_perm {marks : String → List Mark} (nothing : namesOn marks "" = []) :
    namesOf (sitesOf marks (uncommented ("\n".intercalate first))) =
      namesOf (sitesOf marks (uncommented ("\n".intercalate second))) := by
  rw [namesOf_sitesOf, namesOf_sitesOf]
  exact NameSet.ofList_eq_of_mem_iff fun _ => (flatMap_texts_perm perm clean nothing).mem_iff

theorem defined_perm : (Scenes.ofSource ("\n".intercalate first)).defined =
    (Scenes.ofSource ("\n".intercalate second)).defined := by
  simp only [Scenes.defined, Scenes.definitions_ofSource]
  exact names_perm perm clean rfl

theorem referenced_perm : (Scenes.ofSource ("\n".intercalate first)).referenced =
    (Scenes.ofSource ("\n".intercalate second)).referenced := by
  simp only [Scenes.referenced, Scenes.references_ofSource]
  exact names_perm perm clean rfl

theorem assigned_perm : (Variables.ofSource ("\n".intercalate first)).assigned =
    (Variables.ofSource ("\n".intercalate second)).assigned := by
  simp only [Variables.assigned, Variables.assignments_ofSource]
  exact names_perm perm clean rfl

theorem interpolated_perm : (Variables.ofSource ("\n".intercalate first)).interpolated =
    (Variables.ofSource ("\n".intercalate second)).interpolated := by
  simp only [Variables.interpolated, Variables.interpolations_ofSource]
  exact names_perm perm clean (by simp [namesOn, interpolations, interpolationsFrom])

theorem length_definitions_perm : (Scenes.ofSource ("\n".intercalate first)).definitions.length =
    (Scenes.ofSource ("\n".intercalate second)).definitions.length := by
  simp only [Scenes.definitions_ofSource, length_sitesOf]
  exact (flatMap_texts_perm perm clean rfl).length_eq

theorem countP_codeOf_perm (holds : String → Bool) :
    (codeOf ("\n".intercalate first)).countP (fun line => holds line.text) =
      (codeOf ("\n".intercalate second)).countP (fun line => holds line.text) := by
  rw [countP_codeOf, countP_codeOf]
  exact countP_texts_perm perm clean (by simp [isCode, Text.isBlank])

end

/-- Two sources that do not differ in what is collected from them and counted. -/
structure ReadAlike (a b : String) : Prop where
  defined : (Scenes.ofSource a).defined = (Scenes.ofSource b).defined
  referenced : (Scenes.ofSource a).referenced = (Scenes.ofSource b).referenced
  missing : (Scenes.ofSource a).missing = (Scenes.ofSource b).missing
  assigned : (Variables.ofSource a).assigned = (Variables.ofSource b).assigned
  interpolated : (Variables.ofSource a).interpolated = (Variables.ofSource b).interpolated
  unused : (Variables.ofSource a).unused = (Variables.ofSource b).unused
  undefined : (Variables.ofSource a).undefined = (Variables.ofSource b).undefined
  unreachable : ∀ entry, (Scenes.ofSource a).unreachable (some entry) =
    (Scenes.ofSource b).unreachable (some entry)
  duplicates : (Scenes.ofSource a).duplicates.length = (Scenes.ofSource b).duplicates.length
  complexity : ∀ config, (analyze config a).complexity = (analyze config b).complexity
  codeLines : (Metrics.ofSource a).codeLines = (Metrics.ofSource b).codeLines
  commentLines : (Metrics.ofSource a).commentLines = (Metrics.ofSource b).commentLines

/-- Lines may be put in any order. -/
theorem readAlike_of_perm {first second : List String} (perm : first.Perm second)
    (clean : ∀ line ∈ first, '\n' ∉ line.toList) :
    ReadAlike ("\n".intercalate first) ("\n".intercalate second) := by
  have defined := defined_perm perm clean
  have referenced := referenced_perm perm clean
  have assigned := assigned_perm perm clean
  have interpolated := interpolated_perm perm clean
  have scenes := length_definitions_perm perm clean
  refine ⟨defined, referenced, ?_, assigned, interpolated, ?_, ?_, ?_, ?_, ?_, ?_, ?_⟩
  · rw [Scenes.missing, Scenes.missing, defined, referenced]
  · rw [Variables.unused, Variables.unused, assigned, interpolated]
  · rw [Variables.undefined, Variables.undefined, assigned, interpolated]
  · intro entry
    rw [Scenes.unreachable, Scenes.unreachable, defined, referenced, Option.some_or, Option.some_or]
  · have whole := Scenes.length_repeated (Scenes.ofSource ("\n".intercalate first)).definitions
    have whole' := Scenes.length_repeated (Scenes.ofSource ("\n".intercalate second)).definitions
    rw [← Scenes.defined] at whole whole'
    rw [defined] at whole
    simp only [Scenes.duplicates]
    omega
  · intro config
    have choices := countP_codeOf_perm perm clean isChoice
    have conditionals := countP_codeOf_perm perm clean isConditionalBranch
    simp only [analyze, Structure.ofSource, scenes, choices, conditionals, assigned]
  · simp only [Metrics.ofSource, length_codeOf]
    exact countP_texts_perm perm clean (by simp [isCode, Text.isBlank])
  · have comments (source : String) : (Text.lines source).countP (fun line => isComment line.text) =
        (texts source).countP isComment := by
      rw [texts, List.countP_map]
      rfl
    simp only [Metrics.ofSource, comments]
    exact countP_texts_perm perm clean rfl

/-- A choice whose line ends with a carriage return moves to the end, behind a repeated definition
and an empty line that stood last. -/
theorem readAlike_of_perm_line_ends :
    ["scene a \x7b", "choice \"go\" -> b\r", "scene a \x7b", ""].Perm
      ["scene a \x7b", "scene a \x7b", "", "choice \"go\" -> b\r"] ∧
    ReadAlike ("\n".intercalate ["scene a \x7b", "choice \"go\" -> b\r", "scene a \x7b", ""])
      ("\n".intercalate ["scene a \x7b", "scene a \x7b", "", "choice \"go\" -> b\r"]) :=
  ⟨by decide, readAlike_of_perm (by decide) (by simp)⟩

end StoryScript.Script
