import StoryScript.Proofs.Braces
import StoryScript.Proofs.SceneTiling
import StoryScript.Proofs.StableSorting
import StoryScript.Report.Analysis

/-! A report is exact. Each kind of suggestion has one entry for each name that it concerns, with
the first line on which the name stands, and each kind of warning one entry for each occasion. Both
lists are sorted, and sorting keeps the order of the checks where it does not decide. -/
namespace StoryScript.Report

theorem filter_eq_ite {α κ : Type} [DecidableEq κ] {kindOf : α → κ} {kind wanted : κ}
    {list : List α} (all : ∀ a ∈ list, kindOf a = kind) :
    list.filter (kindOf · == wanted) = if kind = wanted then list else [] := by
  split
  · rename_i same
    refine List.filter_eq_self.mpr fun a member => ?_
    simp [all a member, same]
  · rename_i different
    refine List.filter_eq_nil_iff.mpr fun a member => ?_
    simp [all a member, different]

/-! ### Suggestions -/

open Script (DefinedAt TargetedAt AssignedAt ShownAt IsEntry NameSet Scenes Variables Structure)

/-- The names that suggestions of a kind are about. -/
def Concerns (config : Config) (source name : String) : SuggestionKind → Prop
  | .missingScene =>
    (∃ number, TargetedAt source name number) ∧ ¬ ∃ number, DefinedAt source name number
  | .unusedVariable =>
    (∃ number, AssignedAt source name number) ∧ ¬ ∃ number, ShownAt source name number
  | .undefinedVariable =>
    (∃ number, ShownAt source name number) ∧ ¬ ∃ number, AssignedAt source name number
  | .unreachableScene =>
    (∃ number, DefinedAt source name number) ∧ (¬ ∃ number, TargetedAt source name number) ∧
      ¬ IsEntry config.entryScene source name
  | .addComments => False

/-- The lines on which a name stands in the way that a kind of suggestion points at. -/
def StandsAt (source name : String) : SuggestionKind → Nat → Prop
  | .missingScene => TargetedAt source name
  | .unusedVariable => AssignedAt source name
  | .undefinedVariable => ShownAt source name
  | .unreachableScene => DefinedAt source name
  | .addComments => fun _ => False

/-- The place of a kind in the order of the checks. -/
def SuggestionKind.place : SuggestionKind → Nat
  | .missingScene => 0
  | .unusedVariable => 1
  | .undefinedVariable => 2
  | .unreachableScene => 3
  | .addComments => 4

theorem SuggestionKind.priority_of_place {a b : SuggestionKind} (less : a.place < b.place) :
    a.priority.rank < b.priority.rank ∨ a.priority = b.priority := by
  revert less
  cases a <;> cases b <;> decide

/-- Ordered by priority, then by kind, then by the name that the suggestion is about. -/
def Suggestion.Precedes (a b : Suggestion) : Prop :=
  a.priority.rank < b.priority.rank ∨ a.priority = b.priority ∧
    (a.kind.place < b.kind.place ∨ a.kind = b.kind ∧
      ∃ first second, a.subject = some first ∧ b.subject = some second ∧ first < second)

/-- The suggestions are of one kind, one for each name that it concerns, in order of the names. -/
structure Lists (config : Config) (source : String) (kind : SuggestionKind)
    (suggestions : List Suggestion) : Prop where
  names : ∃ names : NameSet, names.Ascending ∧
    (∀ name, name ∈ names ↔ Concerns config source name kind) ∧
    suggestions.map (·.subject) = names.map some
  entries : ∀ entry ∈ suggestions, entry.kind = kind ∧ entry.priority = kind.priority ∧
    ∃ name least, entry.subject = some name ∧ entry.line = some least ∧
      IsLeast {number | StandsAt source name kind number} least

section

variable {config : Config} {source : String} {kind : SuggestionKind} {suggestions : List Suggestion}

theorem Lists.of_map {names : NameSet} (ascending : names.Ascending)
    (concerns : ∀ name, name ∈ names ↔ Concerns config source name kind)
    {make : String → Suggestion} (kind_eq : ∀ name, (make name).kind = kind)
    (priority_eq : ∀ name, (make name).priority = kind.priority)
    (subject_eq : ∀ name, (make name).subject = some name)
    (line_eq : ∀ name, Concerns config source name kind → ∃ least, (make name).line = some least ∧
      IsLeast {number | StandsAt source name kind number} least) :
    Lists config source kind (names.map make) where
  names := ⟨names, ascending, concerns, by simp [Function.comp_def, subject_eq]⟩
  entries := by
    intro entry member
    obtain ⟨name, listed, rfl⟩ := List.mem_map.mp member
    obtain ⟨least, line, isLeast⟩ := line_eq name ((concerns name).mp listed)
    exact ⟨kind_eq name, priority_eq name, name, least, subject_eq name, line, isLeast⟩

theorem Lists.pairwise (lists : Lists config source kind suggestions) :
    suggestions.Pairwise Suggestion.Precedes := by
  obtain ⟨names, ascending, -, subjects⟩ := lists.names
  have sorted : (suggestions.map (·.subject)).Pairwise fun a b =>
      ∃ first second, a = some first ∧ b = some second ∧ first < second := by
    rw [subjects]
    refine List.pairwise_map.mpr (List.Pairwise.imp ?_ ascending)
    intro first second less
    exact ⟨first, second, rfl, rfl, less⟩
  refine (List.pairwise_map.mp sorted).imp_of_mem ?_
  intro a b memberA memberB less
  obtain ⟨kindA, priorityA, -⟩ := lists.entries a memberA
  obtain ⟨kindB, priorityB, -⟩ := lists.entries b memberB
  exact .inr ⟨priorityA.trans priorityB.symm, .inr ⟨kindA.trans kindB.symm, less⟩⟩

theorem Lists.precedes {later : SuggestionKind} {others : List Suggestion}
    (lists : Lists config source kind suggestions) (lists' : Lists config source later others)
    (less : kind.place < later.place) :
    ∀ a ∈ suggestions, ∀ b ∈ others, Suggestion.Precedes a b := by
  intro a memberA b memberB
  obtain ⟨rfl, priorityA, -⟩ := lists.entries a memberA
  obtain ⟨rfl, priorityB, -⟩ := lists'.entries b memberB
  rw [Suggestion.Precedes, priorityA, priorityB]
  exact (SuggestionKind.priority_of_place less).imp_right fun same => ⟨same, .inl less⟩

variable (config source)

def suggested : SuggestionKind → List Suggestion
  | .missingScene => missingSuggestions (.ofSource source)
  | .unusedVariable => unusedSuggestions (.ofSource source)
  | .undefinedVariable => undefinedSuggestions (.ofSource source)
  | .unreachableScene => unreachableSuggestions config (.ofSource source)
  | .addComments => []

theorem lists_suggested (kind : SuggestionKind) :
    Lists config source kind (suggested config source kind) := by
  cases kind with
  | missingScene =>
    exact .of_map (Script.ascending_missing _) (fun _ => Script.mem_missing) (fun _ => rfl)
      (fun _ => rfl) (fun _ => rfl) fun _ concerns =>
        Script.firstSite?_isLeast (Scenes.references_ofSource source) concerns.1
  | unusedVariable =>
    exact .of_map (Script.ascending_unused _) (fun _ => Script.mem_unused) (fun _ => rfl)
      (fun _ => rfl) (fun _ => rfl) fun _ concerns =>
        Script.firstSite?_isLeast (Variables.assignments_ofSource source) concerns.1
  | undefinedVariable =>
    exact .of_map (Script.ascending_undefined _) (fun _ => Script.mem_undefined) (fun _ => rfl)
      (fun _ => rfl) (fun _ => rfl) fun _ concerns =>
        Script.firstSite?_isLeast (Variables.interpolations_ofSource source) concerns.1
  | unreachableScene =>
    exact .of_map (Script.ascending_unreachable _ _) (fun _ => Script.mem_unreachable)
      (fun _ => rfl) (fun _ => rfl) (fun _ => rfl) fun _ concerns =>
        Script.firstSite?_isLeast (Scenes.definitions_ofSource source) concerns.1
  | addComments =>
    exact ⟨⟨[], List.Pairwise.nil, fun _ => by simp [Concerns], rfl⟩, by simp [suggested]⟩

theorem kind_of_mem_commentSuggestions {metrics : Script.Metrics} {entry : Suggestion}
    (member : entry ∈ commentSuggestions config metrics) :
    entry.kind = .addComments ∧ entry.priority = .low := by
  unfold commentSuggestions at member
  split at member
  · rw [List.mem_singleton.mp member]
    exact ⟨rfl, rfl⟩
  · cases member

theorem length_commentSuggestions (metrics : Script.Metrics) :
    (commentSuggestions config metrics).length ≤ 1 := by
  unfold commentSuggestions
  split
  · exact Nat.le_refl 1
  · exact Nat.zero_le 1

/-- The suggestions about names, in the order of the checks. -/
def findings : List Suggestion := SuggestionKind.all.flatMap (suggested config source)

theorem findings_pairwise : (findings config source).Pairwise Suggestion.Precedes := by
  refine List.pairwise_flatMap.mpr ⟨fun kind _ => (lists_suggested config source kind).pairwise, ?_⟩
  have inOrder : SuggestionKind.all.Pairwise fun a b => a.place < b.place := by decide
  refine inOrder.imp ?_
  intro first second less
  exact (lists_suggested config source first).precedes (lists_suggested config source second) less

theorem filter_findings (kind : SuggestionKind) :
    (findings config source).filter (·.kind == kind) = suggested config source kind := by
  have single (other : SuggestionKind) : (suggested config source other).filter (·.kind == kind) =
      if other = kind then suggested config source other else [] :=
    filter_eq_ite fun entry member => ((lists_suggested config source other).entries entry member).1
  simp only [findings, SuggestionKind.all, List.flatMap_cons, List.flatMap_nil, List.filter_append,
    List.filter_nil, single]
  cases kind <;> simp

/-- The checks come in the order of their priorities, so sorting by priority changes nothing. -/
theorem suggestions_eq : (analyze config source).suggestions =
    findings config source ++ commentSuggestions config (Structure.ofSource source).metrics := by
  have raw : (analyze config source).suggestions = (findings config source ++
      commentSuggestions config (Structure.ofSource source).metrics).mergeSort
        Suggestion.comesFirst := by
    simp [analyze, findings, SuggestionKind.all, suggested]
  rw [raw]
  refine List.mergeSort_of_pairwise (List.pairwise_append.mpr ⟨?_, ?_, ?_⟩)
  · refine (findings_pairwise config source).imp ?_
    intro a b precedes
    rcases precedes with less | ⟨same, -⟩
    · exact decide_eq_true (Nat.le_of_lt less)
    · exact decide_eq_true (Nat.le_of_eq (congrArg Priority.rank same))
  · refine List.pairwise_of_forall_mem_list fun a memberA b memberB => decide_eq_true ?_
    rw [(kind_of_mem_commentSuggestions config memberA).2,
      (kind_of_mem_commentSuggestions config memberB).2]
  · intro a _ b member
    refine decide_eq_true ?_
    rw [(kind_of_mem_commentSuggestions config member).2]
    cases a.priority <;> decide

theorem filter_suggestions {kind : SuggestionKind} (about : kind ≠ .addComments) :
    (analyze config source).suggestions.filter (·.kind == kind) = suggested config source kind := by
  rw [suggestions_eq, List.filter_append, filter_findings, filter_eq_ite fun entry member =>
    (kind_of_mem_commentSuggestions config member).1, if_neg (Ne.symm about), List.append_nil]

theorem countKind_eq {kind : SuggestionKind} (about : kind ≠ .addComments) :
    (analyze config source).countKind kind = (suggested config source kind).length := by
  rw [countKind, List.countP_eq_length_filter, filter_suggestions config source about]

end

/-! ### Warnings -/

def WarningKind.place : WarningKind → Nat
  | .duplicateScene => 0
  | .longScene => 1
  | .deepNesting => 2
  | .malformedStructure => 3
  | .unclosedBlock => 4

def Warning.Precedes (a b : Warning) : Prop :=
  ∃ first second, a.line = some first ∧ b.line = some second ∧
    (first < second ∨ first = second ∧ a.kind.place ≤ b.kind.place)

theorem Warning.comesFirst_iff {a b : Warning} :
    a.comesFirst b ↔ ∀ second, b.line = some second → ∃ first ≤ second, a.line = some first := by
  unfold Warning.comesFirst
  cases a.line <;> cases b.line <;> simp

theorem Warning.comesFirst_trans (a b c : Warning) (ab : a.comesFirst b) (bc : b.comesFirst c) :
    a.comesFirst c := by
  rw [comesFirst_iff] at ab bc ⊢
  intro third lineC
  obtain ⟨second, le, lineB⟩ := bc third lineC
  obtain ⟨first, le', lineA⟩ := ab second lineB
  exact ⟨first, le'.trans le, lineA⟩

theorem Warning.comesFirst_total (a b : Warning) : a.comesFirst b || b.comesFirst a := by
  unfold Warning.comesFirst
  cases a.line with
  | none => simp
  | some first =>
    cases b.line with
    | none => simp
    | some second => simpa using Nat.le_total first second

/-- The scene that the line defines is defined on an earlier line as well. -/
def RepeatedAt (source : String) (number : Nat) : Prop :=
  ∃ name, DefinedAt source name number ∧ ∃ earlier < number, DefinedAt source name earlier

theorem duplicates_pairwise (source : String) :
    (Scenes.ofSource source).duplicates.Pairwise fun a b => a.line < b.line :=
  (Script.definitions_pairwise source).sublist (Scenes.repeated_sublist [] _)

theorem mem_duplicates_lines (source : String) (number : Nat) :
    number ∈ (Scenes.ofSource source).duplicates.map (·.line) ↔ RepeatedAt source number := by
  simp only [List.mem_map, Scenes.duplicates, RepeatedAt, Script.definedAt_iff,
    Scenes.mem_repeated (Script.definitions_pairwise source)]
  constructor
  · rintro ⟨site, ⟨member, earlier, before, less, same⟩, rfl⟩
    exact ⟨site.name, ⟨site, member, rfl, rfl⟩, earlier.line, less, earlier, before, same, rfl⟩
  · rintro ⟨_, ⟨site, member, rfl, rfl⟩, _, less, earlier, before, same, rfl⟩
    exact ⟨site, ⟨member, earlier, before, less, same⟩, rfl⟩

section

variable (config : Config) (source : String)

def checked : WarningKind → List Warning
  | .duplicateScene => duplicateWarnings (.ofSource source)
  | .longScene => lengthWarnings config (Script.sceneSpans source)
  | .deepNesting => nestingWarnings config (.ofSource source)
  | .malformedStructure => unmatchedWarnings (.ofSource source)
  | .unclosedBlock => unclosedWarnings (.ofSource source)

/-- The lines of what a kind of warning is given for. -/
def occasions : WarningKind → List Nat
  | .duplicateScene => (Scenes.ofSource source).duplicates.map (·.line)
  | .longScene =>
    ((Script.sceneSpans source).filter (config.longSceneChars < ·.chars)).map (·.startLine)
  | .deepNesting => ((Structure.ofSource source).openings.filter
      (·.depth == config.maxNestingDepth + 1)).map (·.line)
  | .malformedStructure => (Structure.ofSource source).unmatched
  | .unclosedBlock => (Structure.ofSource source).unclosed.map (·.line)

theorem lines_checked (kind : WarningKind) :
    (checked config source kind).map (·.line) = (occasions config source kind).map some := by
  cases kind <;>
    simp [checked, occasions, duplicateWarnings, lengthWarnings, nestingWarnings, unmatchedWarnings,
      unclosedWarnings]

theorem kind_of_mem_checked {kind : WarningKind} {warning : Warning}
    (member : warning ∈ checked config source kind) : warning.kind = kind := by
  cases kind <;> obtain ⟨_, _, rfl⟩ := List.mem_map.mp member <;> rfl

theorem occasions_pairwise (kind : WarningKind) :
    (occasions config source kind).Pairwise (· ≤ ·) := by
  cases kind with
  | duplicateScene =>
    exact List.pairwise_map.mpr ((duplicates_pairwise source).imp Nat.le_of_lt)
  | longScene =>
    have starts := List.pairwise_map.mpr (Script.definitions_pairwise source)
    rw [← Script.startLine_spansOf (Text.lines source)] at starts
    exact List.pairwise_map.mpr (((List.pairwise_map.mp starts).imp Nat.le_of_lt).filter _)
  | deepNesting => exact List.pairwise_map.mpr ((Script.openings_pairwise source).filter _)
  | malformedStructure => exact Script.unmatched_pairwise source
  | unclosedBlock => exact List.pairwise_map.mpr (Script.unclosed_pairwise source)

theorem checked_pairwise (kind : WarningKind) :
    (checked config source kind).Pairwise fun a b => a.comesFirst b := by
  have lines : ((checked config source kind).map (·.line)).Pairwise fun a b =>
      ∃ first second, a = some first ∧ b = some second ∧ first ≤ second := by
    rw [lines_checked]
    refine List.pairwise_map.mpr ((occasions_pairwise config source kind).imp ?_)
    intro first second le
    exact ⟨first, second, rfl, rfl, le⟩
  refine (List.pairwise_map.mp lines).imp ?_
  rintro a b ⟨first, second, lineA, lineB, le⟩
  simp [Warning.comesFirst, lineA, lineB, le]

theorem exists_line_of_mem_checked {kind : WarningKind} {warning : Warning}
    (member : warning ∈ checked config source kind) : ∃ number, warning.line = some number := by
  have line := List.mem_map_of_mem (f := (·.line)) member
  rw [lines_checked] at line
  obtain ⟨number, -, same⟩ := List.mem_map.mp line
  exact ⟨number, same.symm⟩

def checks : List Warning :=
  [WarningKind.duplicateScene, .longScene, .deepNesting, .malformedStructure,
    .unclosedBlock].flatMap (checked config source)

theorem warnings_eq :
    (analyze config source).warnings = (checks config source).mergeSort Warning.comesFirst := by
  simp [analyze, checks, checked]

theorem checks_pairwise :
    (checks config source).Pairwise fun a b => a.kind.place ≤ b.kind.place := by
  refine List.pairwise_flatMap.mpr ⟨?_, ?_⟩
  · intro kind _
    refine List.pairwise_of_forall_mem_list fun a memberA b memberB => ?_
    rw [kind_of_mem_checked config source memberA, kind_of_mem_checked config source memberB]
  · have inOrder : [WarningKind.duplicateScene, .longScene, .deepNesting, .malformedStructure,
        .unclosedBlock].Pairwise fun a b => a.place ≤ b.place := by decide
    refine inOrder.imp ?_
    intro first second le a memberA b memberB
    rw [kind_of_mem_checked config source memberA, kind_of_mem_checked config source memberB]
    exact le

/-- Sorting leaves the warnings of a kind as their check gives them. -/
theorem filter_warnings (kind : WarningKind) :
    (analyze config source).warnings.filter (·.kind == kind) = checked config source kind := by
  have single (other : WarningKind) : (checked config source other).filter (·.kind == kind) =
      if other = kind then checked config source other else [] :=
    filter_eq_ite fun warning member => kind_of_mem_checked config source member
  have raw : (checks config source).filter (·.kind == kind) = checked config source kind := by
    simp only [checks, List.flatMap_cons, List.flatMap_nil, List.filter_append, List.filter_nil,
      single]
    cases kind <;> simp
  rw [warnings_eq, filter_mergeSort Warning.comesFirst_trans Warning.comesFirst_total, raw,
    List.mergeSort_of_pairwise (checked_pairwise config source kind)]

theorem warnings_pairwise : (analyze config source).warnings.Pairwise Warning.Precedes := by
  rw [warnings_eq]
  have stable := pairwise_mergeSort_stable Warning.comesFirst_trans Warning.comesFirst_total
    (checks_pairwise config source)
  refine stable.imp_of_mem ?_
  rintro a b memberA memberB ⟨first, tie⟩
  have line : ∀ warning ∈ (checks config source).mergeSort Warning.comesFirst,
      ∃ number, warning.line = some number := by
    intro warning member
    obtain ⟨kind, -, member⟩ := List.mem_flatMap.mp (List.mem_mergeSort.mp member)
    exact exists_line_of_mem_checked config source member
  obtain ⟨m, lineA⟩ := line a memberA
  obtain ⟨n, lineB⟩ := line b memberB
  simp only [Warning.comesFirst, lineA, lineB, decide_eq_true_eq] at first tie
  rcases Nat.lt_or_eq_of_le first with less | same
  · exact ⟨m, n, lineA, lineB, .inl less⟩
  · exact ⟨m, n, lineA, lineB, .inr ⟨same, tie (Nat.le_of_eq same.symm)⟩⟩

end

def linesOf (report : Report) (kind : WarningKind) : List (Option Nat) :=
  (report.warnings.filter (·.kind == kind)).map (·.line)

theorem linesOf_analyze (config : Config) (source : String) (kind : WarningKind) :
    (analyze config source).linesOf kind = (occasions config source kind).map some := by
  rw [linesOf, filter_warnings, lines_checked]

/-- A report has exactly the entries that its source calls for. The suggestions about names list,
for each kind, every name that it concerns once, with the least line on which the name stands; they
are ordered by priority, kind and name, and a call for comments may follow them. The warnings have
one entry for each repeated definition, for each scene that is too long, for each block that opens
one level too deep, for each brace that closes nothing and for each block that is not closed,
ordered by line. -/
theorem analyze_exact (config : Config) (source : String) :
    (∃ findings comments, (analyze config source).suggestions = findings ++ comments ∧
      comments.length ≤ 1 ∧ (∀ entry ∈ comments, entry.kind = .addComments) ∧
      (∀ kind, Lists config source kind (findings.filter (·.kind == kind))) ∧
      findings.Pairwise Suggestion.Precedes) ∧
    (∃ repeats : List Nat, repeats.Pairwise (· < ·) ∧
      (∀ number, number ∈ repeats ↔ RepeatedAt source number) ∧
      (analyze config source).linesOf .duplicateScene = repeats.map some) ∧
    (analyze config source).linesOf .longScene =
      ((Script.sceneSpans source).filter (config.longSceneChars < ·.chars)).map (some ·.startLine) ∧
    (analyze config source).linesOf .deepNesting = ((Structure.ofSource source).openings.filter
      (·.depth == config.maxNestingDepth + 1)).map (some ·.line) ∧
    (analyze config source).linesOf .malformedStructure =
      (Structure.ofSource source).unmatched.map some ∧
    (analyze config source).linesOf .unclosedBlock =
      (Structure.ofSource source).unclosed.map (some ·.line) ∧
    (analyze config source).warnings.Pairwise Warning.Precedes := by
  refine ⟨⟨findings config source, _, suggestions_eq config source,
    length_commentSuggestions config _, ?_, ?_, findings_pairwise config source⟩,
    ⟨occasions config source .duplicateScene, ?_, ?_, linesOf_analyze ..⟩, ?_, ?_, ?_, ?_,
    warnings_pairwise config source⟩
  · intro entry member
    exact (kind_of_mem_commentSuggestions config member).1
  · intro kind
    rw [filter_findings]
    exact lists_suggested config source kind
  · exact List.pairwise_map.mpr (duplicates_pairwise source)
  · exact mem_duplicates_lines source
  · simp [linesOf_analyze, occasions]
  · simp [linesOf_analyze, occasions]
  · simp [linesOf_analyze, occasions]
  · simp [linesOf_analyze, occasions]

end StoryScript.Report
