import Mathlib.Logic.Relation
import StoryScript.CommandLine.Printout
import StoryScript.Edit.Replacement
import StoryScript.Proofs.JsonText

/-! Match sets in JSON. A match set can be read back from the form it is written in. The form may also
differ in what a reader passes over: fields under other names, the order of the fields, and whether
an empty list of groups or a missing error is written down. -/
namespace StoryScript

namespace Json

/-- Two ways to write a record that knows the given names. The second has one more field under another
name, two fields the other way round, a field that stands for nothing where the first leaves it out,
or one field whose value is written differently. -/
inductive Respelled (names : List String) (empties : List (String × Json))
    (inner : String → Json → Json → Prop) : Json → Json → Prop
  | foreign (front back : List (String × Json)) {name : String} (value : Json)
      (unknown : name ∉ names) : Respelled names empties inner
        (.object (front ++ back)) (.object (front ++ (name, value) :: back))
  | exchanged (front back : List (String × Json)) {name name' : String} (value value' : Json)
      (different : name ≠ name') : Respelled names empties inner
        (.object (front ++ (name, value) :: (name', value') :: back))
        (.object (front ++ (name', value') :: (name, value) :: back))
  | written (front back : List (String × Json)) {name : String} {value : Json}
      (empty : (name, value) ∈ empties) (absent : (front ++ back).lookup name = none) :
      Respelled names empties inner
        (.object (front ++ back)) (.object (front ++ (name, value) :: back))
  | within (front back : List (String × Json)) {name : String} {value value' : Json}
      (alike : inner name value value') : Respelled names empties inner
        (.object (front ++ (name, value) :: back)) (.object (front ++ (name, value') :: back))

section

variable {names : List String} {empties : List (String × Json)} {inner : String → Json → Json → Prop}
  {a b : Json} {name : String}

theorem lookup_cons_eq (name other : String) (value : Json) (back : List (String × Json)) :
    ((other, value) :: back).lookup name = if name = other then some value else back.lookup name := by
  rw [List.lookup_cons]
  by_cases same : name = other
  · simp [same]
  · rw [if_neg same, beq_eq_false_iff_ne.mpr same]

theorem lookup_append_cons (front back : List (String × Json)) (name other : String) (value : Json) :
    (front ++ (other, value) :: back).lookup name =
      (front.lookup name).or (if name = other then some value else back.lookup name) := by
  rw [List.lookup_append, lookup_cons_eq]

theorem Respelled.field?_cases (respelled : Respelled names empties inner a b) (known : name ∈ names) :
    a.field? name = b.field? name ∨
    (∃ value, (name, value) ∈ empties ∧ a.field? name = none ∧ b.field? name = some value) ∨
    ∃ value value', inner name value value' ∧
      a.field? name = some value ∧ b.field? name = some value' := by
  cases respelled with
  | @foreign front back other value unknown =>
    have different : name ≠ other := fun same => unknown (same ▸ known)
    refine .inl ?_
    rw [field?, field?, lookup_append_cons, if_neg different, List.lookup_append]
  | @exchanged front back first second value value' different =>
    refine .inl ?_
    simp only [field?, lookup_append_cons, lookup_cons_eq]
    by_cases here : name = first
    · rw [if_pos here, if_neg (here ▸ different), if_pos here]
    · rw [if_neg here, if_neg here]
  | @written front back other value empty absent =>
    by_cases same : name = other
    · subst same
      refine .inr (.inl ⟨value, empty, absent, ?_⟩)
      rw [List.lookup_append, Option.or_eq_none_iff] at absent
      rw [field?, lookup_append_cons, absent.1, if_pos rfl, Option.none_or]
    · refine .inl ?_
      rw [field?, field?, lookup_append_cons, if_neg same, List.lookup_append]
  | @within front back other value value' alike =>
    simp only [field?, lookup_append_cons]
    cases earlier : front.lookup name with
    | some found => exact .inl rfl
    | none =>
      by_cases same : name = other
      · subst same
        exact .inr (.inr ⟨value, value', alike, by simp, by simp⟩)
      · exact .inl (by simp [same])

theorem Respelled.required?_eq {α : Type} {decode : Json → Option α}
    (respelled : Respelled names empties inner a b) (known : name ∈ names)
    (needed : ∀ value, (name, value) ∉ empties)
    (alike : ∀ value value', inner name value value' → decode value = decode value') :
    a.required? decode name = b.required? decode name := by
  rw [required?, required?]
  rcases respelled.field?_cases known with same | ⟨value, empty, -⟩ | ⟨_, _, within, found, found'⟩
  · rw [same]
  · exact absurd empty (needed value)
  · rw [found, found', Option.bind_some, Option.bind_some, alike _ _ within]

theorem Respelled.defaulted?_eq {α : Type} {decode : Json → Option α} {otherwise : α}
    (respelled : Respelled names empties inner a b) (known : name ∈ names)
    (nothing : ∀ value, (name, value) ∈ empties → decode value = some otherwise)
    (alike : ∀ value value', inner name value value' → decode value = decode value') :
    a.defaulted? decode otherwise name = b.defaulted? decode otherwise name := by
  rw [defaulted?, defaulted?]
  rcases respelled.field?_cases known with
    same | ⟨value, empty, found, found'⟩ | ⟨_, _, within, found, found'⟩
  · rw [same]
  · rw [found, found']
    exact (nothing value empty).symm
  · rw [found, found']
    exact alike _ _ within

theorem Respelled.optional?_eq {α : Type} {decode : Json → Option α}
    (respelled : Respelled names empties inner a b) (known : name ∈ names)
    (nothing : ∀ value, (name, value) ∈ empties → value = .null)
    (alike : ∀ value value', inner name value value' → value = value') :
    optional? decode (a.field? name) = optional? decode (b.field? name) := by
  rcases respelled.field?_cases known with
    same | ⟨value, empty, found, found'⟩ | ⟨_, _, within, found, found'⟩
  · rw [same]
  · rw [found, found', nothing value empty]
    rfl
  · rw [found, found', alike _ _ within]

theorem Respelled.record?_eq (respelled : Respelled names empties inner a b) (order : List String)
    (least : Nat) : a.record? order least = some a ∧ b.record? order least = some b := by
  cases respelled <;> exact ⟨rfl, rfl⟩

/-! ### What is written is read -/

theorem nat?_ofNat {n : Nat} (fits : n < UInt64.size) : (ofNat n).nat? = some n := if_pos fits

theorem optional?_ofOption (value : Option String) :
    optional? string? (some (ofOption .string value)) = some value := by
  cases value <;> rfl

theorem whole_ofNat {n : Nat} (fits : n < UInt64.size) : (ofNat n).Whole := by
  have size : UInt64.size = 0x10000000000000000 := rfl
  exact .int ⟨by omega, by omega⟩

theorem whole_ofOption (value : Option String) : (ofOption .string value).Whole := by
  cases value with
  | none => exact .null
  | some text => exact .string text

theorem mapM_map {α : Type} {encode : α → Json} {decode : Json → Option α} {values : List α}
    (back : ∀ value ∈ values, decode (encode value) = some value) :
    (values.map encode).mapM decode = some values := by
  induction values with
  | nil => rfl
  | cons value rest ih =>
    obtain ⟨first, others⟩ := List.forall_mem_cons.mp back
    rw [List.map_cons, List.mapM_cons, first, ih others]
    rfl

end

end Json

namespace Search

open Json

/-- No reader of the settings minds which of the two forms it is given. -/
def Options.Respelled : Json → Json → Prop :=
  Json.Respelled ["regex", "case_sensitive", "whole_word"] [] fun _ _ _ => False

/-- An empty list of groups may be left out. -/
def Match.Respelled : Json → Json → Prop :=
  Json.Respelled ["line", "column", "end_column", "matched_text", "line_text", "groups"]
    [("groups", .array [])] fun _ _ _ => False

/-- The settings are written differently, or one of the matches. -/
def MatchSet.PartRespelled (name : String) (a b : Json) : Prop :=
  (name = "options" ∧ Options.Respelled a b) ∨
  (name = "matches" ∧ ∃ front back m m', Match.Respelled m m' ∧
    a = .array (front ++ m :: back) ∧ b = .array (front ++ m' :: back))

def MatchSet.Respelled : Json → Json → Prop :=
  Json.Respelled ["query", "options", "source_hash", "matches", "pattern_error"]
    [("pattern_error", .null)] MatchSet.PartRespelled

section

variable {a b : Json}

theorem Options.Respelled.ofJson?_eq (respelled : Options.Respelled a b) :
    Options.ofJson? a = Options.ofJson? b := by
  have same (name : String) (known : name ∈ ["regex", "case_sensitive", "whole_word"]) :
      a.required? bool? name = b.required? bool? name :=
    respelled.required?_eq known (by simp) (by simp)
  obtain ⟨first, second⟩ := respelled.record?_eq ["regex", "case_sensitive", "whole_word"] 3
  simp only [Options.ofJson?, first, second, Option.bind_eq_bind, Option.bind_some]
  rw [same "regex" (by simp), same "case_sensitive" (by simp), same "whole_word" (by simp)]

theorem Match.Respelled.ofJson?_eq (respelled : Match.Respelled a b) :
    Match.ofJson? a = Match.ofJson? b := by
  have same {α : Type} (decode : Json → Option α) (name : String)
      (known : name ∈ ["line", "column", "end_column", "matched_text", "line_text"]) :
      a.required? decode name = b.required? decode name := by
    refine respelled.required?_eq (List.mem_append_left ["groups"] known) (fun value empty => ?_) (by simp)
    obtain ⟨rfl, -⟩ : name = "groups" ∧ _ := by simpa using empty
    simp at known
  have groups : a.defaulted? (list? fun group => optional? string? (some group)) [] "groups" =
      b.defaulted? (list? fun group => optional? string? (some group)) [] "groups" :=
    respelled.defaulted?_eq (by simp) (by simp [list?]) (by simp)
  obtain ⟨first, second⟩ := respelled.record?_eq
    ["line", "column", "end_column", "matched_text", "line_text", "groups"] 5
  simp only [Match.ofJson?, first, second, Option.bind_eq_bind, Option.bind_some]
  rw [same nat? "line" (by simp), same nat? "column" (by simp), same nat? "end_column" (by simp),
    same string? "matched_text" (by simp), same string? "line_text" (by simp), groups]

/-- Matches are read one by one, so it does not matter which form one of them has. -/
theorem Match.Respelled.list?_eq (respelled : Match.Respelled a b) (front back : List Json) :
    list? Match.ofJson? (.array (front ++ a :: back)) =
      list? Match.ofJson? (.array (front ++ b :: back)) := by
  simp only [list?, List.mapM_append, List.mapM_cons, respelled.ofJson?_eq]

/-- Every reading of a match set, also a failed one, is the same for both forms. -/
theorem MatchSet.Respelled.ofJson?_eq (respelled : MatchSet.Respelled a b) :
    MatchSet.ofJson? a = MatchSet.ofJson? b := by
  have same {α : Type} (decode : Json → Option α) (name : String)
      (known : name ∈ ["query", "options", "source_hash", "matches"])
      (alike : ∀ value value', PartRespelled name value value' → decode value = decode value') :
      a.required? decode name = b.required? decode name := by
    refine respelled.required?_eq (List.mem_append_left ["pattern_error"] known)
      (fun value empty => ?_) alike
    obtain ⟨rfl, -⟩ : name = "pattern_error" ∧ _ := by simpa using empty
    simp at known
  have query := same string? "query" (by simp) (by simp [PartRespelled])
  have options := same Options.ofJson? "options" (by simp) fun value value' part => by
    rcases part with ⟨-, respelled⟩ | ⟨other, -⟩
    · exact respelled.ofJson?_eq
    · simp at other
  have hash := same nat? "source_hash" (by simp) (by simp [PartRespelled])
  have found := same (list? Match.ofJson?) "matches" (by simp) fun value value' part => by
    rcases part with ⟨other, -⟩ | ⟨-, front, back, m, m', respelled, rfl, rfl⟩
    · simp at other
    · exact respelled.list?_eq front back
  have error : optional? string? (a.field? "pattern_error") =
      optional? string? (b.field? "pattern_error") :=
    respelled.optional?_eq (by simp) (by simp) (by simp [PartRespelled])
  obtain ⟨first, second⟩ := respelled.record?_eq
    ["query", "options", "source_hash", "matches", "pattern_error"] 5
  simp only [MatchSet.ofJson?, first, second, Option.bind_eq_bind, Option.bind_some]
  rw [query, options, hash, found, error]

/-! ### Match sets that are read back -/

structure Match.InWords (m : Match) : Prop where
  line : m.line < UInt64.size
  column : m.column < UInt64.size
  endColumn : m.endColumn < UInt64.size

theorem Options.ofJson?_toJson (options : Options) : Options.ofJson? options.toJson = some options := by
  simp [Options.toJson, Options.ofJson?, record?, required?, field?, lookup_cons_eq, bool?]

theorem Match.groups_toJson (m : Match) :
    m.toJson.defaulted? (list? fun group => optional? string? (some group)) [] "groups" =
      some m.groups := by
  have written : list? (fun group => optional? string? (some group))
      (ofList (ofOption .string) m.groups) = some m.groups :=
    mapM_map fun group _ => optional?_ofOption group
  cases groups : m.groups with
  | nil => simp [Match.toJson, defaulted?, field?, lookup_cons_eq, groups]
  | cons group others =>
    rw [groups] at written
    simpa [Match.toJson, defaulted?, field?, lookup_cons_eq, groups] using written

theorem Match.ofJson?_toJson {m : Match} (fits : m.InWords) : Match.ofJson? m.toJson = some m := by
  have record (names : List String) (least : Nat) : m.toJson.record? names least = some m.toJson := rfl
  have line : m.toJson.required? nat? "line" = some m.line := by
    simp [Match.toJson, required?, field?, nat?_ofNat fits.line]
  have column : m.toJson.required? nat? "column" = some m.column := by
    simp [Match.toJson, required?, field?, lookup_cons_eq, nat?_ofNat fits.column]
  have endColumn : m.toJson.required? nat? "end_column" = some m.endColumn := by
    simp [Match.toJson, required?, field?, lookup_cons_eq, nat?_ofNat fits.endColumn]
  have matchedText : m.toJson.required? string? "matched_text" = some m.matchedText := by
    simp [Match.toJson, required?, field?, lookup_cons_eq, string?]
  have lineText : m.toJson.required? string? "line_text" = some m.lineText := by
    simp [Match.toJson, required?, field?, lookup_cons_eq, string?]
  simp only [Match.ofJson?, record, line, column, endColumn, matchedText, lineText, m.groups_toJson,
    Option.bind_eq_bind, Option.bind_some, Option.pure_def]

theorem MatchSet.ofJson?_toJson {set : MatchSet} (fits : ∀ m ∈ set.found, m.InWords) :
    MatchSet.ofJson? set.toJson = some set := by
  have found : list? Match.ofJson? (ofList Match.toJson set.found) = some set.found :=
    mapM_map fun m member => Match.ofJson?_toJson (fits m member)
  have hash : (ofNat set.sourceHash.toNat).nat? = some set.sourceHash.toNat :=
    nat?_ofNat set.sourceHash.toNat_lt
  simp [MatchSet.toJson, MatchSet.ofJson?, record?, required?, field?, lookup_cons_eq, string?,
    Options.ofJson?_toJson, found, hash, optional?_ofOption]

theorem Match.whole_toJson {m : Match} (fits : m.InWords) : m.toJson.Whole := by
  have groups : ∀ group ∈ m.groups.map (ofOption Json.string), group.Whole := by
    rintro _ member
    obtain ⟨group, -, rfl⟩ := List.mem_map.mp member
    exact whole_ofOption group
  refine .object fun field member => ?_
  rcases List.mem_append.mp member with known | last
  · simp only [List.mem_cons, List.not_mem_nil, or_false] at known
    rcases known with rfl | rfl | rfl | rfl | rfl
    · exact whole_ofNat fits.line
    · exact whole_ofNat fits.column
    · exact whole_ofNat fits.endColumn
    · exact .string m.matchedText
    · exact .string m.lineText
  · split at last
    · simp at last
    · obtain rfl := List.mem_singleton.mp last
      exact .array groups

theorem MatchSet.whole_toJson {set : MatchSet} (fits : ∀ m ∈ set.found, m.InWords) :
    set.toJson.Whole := by
  have options : set.options.toJson.Whole := by
    refine .object fun field member => ?_
    simp only [List.mem_cons, List.not_mem_nil, or_false] at member
    rcases member with rfl | rfl | rfl
    all_goals exact .bool _
  have found : ∀ m ∈ set.found.map Match.toJson, m.Whole := by
    rintro _ member
    obtain ⟨m, inside, rfl⟩ := List.mem_map.mp member
    exact Match.whole_toJson (fits m inside)
  refine .object fun field member => ?_
  simp only [List.mem_cons, List.not_mem_nil, or_false] at member
  rcases member with rfl | rfl | rfl | rfl | rfl
  · exact .string set.query
  · exact options
  · exact whole_ofNat set.sourceHash.toNat_lt
  · exact .array found
  · exact whole_ofOption set.patternError

theorem MatchSet.ofJson?_eq_of_eqvGen (alike : Relation.EqvGen MatchSet.Respelled a b) :
    MatchSet.ofJson? a = MatchSet.ofJson? b := by
  induction alike with
  | rel _ _ respelled => exact respelled.ofJson?_eq
  | refl => rfl
  | symm _ _ _ ih => exact ih.symm
  | trans _ _ _ _ _ ih ih' => exact ih.trans ih'

/-- A match set survives being written. It is read back from its JSON value and from the text that is
printed of it. Whether a form has fields nobody knows, or leaves out what stands for nothing, makes no
difference to any reading, so every plan made from what was read is the plan of the set. -/
theorem MatchSet.survives_json (set : MatchSet) (fits : ∀ m ∈ set.found, m.InWords) :
    MatchSet.ofJson? set.toJson = some set ∧
    (Json.parse? (CommandLine.matchText true set)).bind MatchSet.ofJson? = some set ∧
    (∀ first second, MatchSet.Respelled first second →
      MatchSet.ofJson? first = MatchSet.ofJson? second) ∧
    ∀ json, Relation.EqvGen MatchSet.Respelled set.toJson json →
      ∃ decoded, MatchSet.ofJson? json = some decoded ∧ decoded = set ∧
        (∀ replacement, Edit.planAll decoded replacement = Edit.planAll set replacement) ∧
        ∀ index replacement,
          Edit.planOne decoded index replacement = Edit.planOne set index replacement := by
  have back := MatchSet.ofJson?_toJson fits
  refine ⟨back, ?_, fun _ _ respelled => respelled.ofJson?_eq, fun json alike => ?_⟩
  · have newline : Blank "\n".toList := by simp [Blank]
    rw [CommandLine.matchText, if_pos rfl, (MatchSet.whole_toJson fits).parse?_pretty 0 newline,
      Option.bind_some, back]
  · rw [MatchSet.ofJson?_eq_of_eqvGen alike] at back
    exact ⟨set, back, rfl, fun _ => rfl, fun _ _ => rfl⟩

/-- A match with a group that took no part, and one without groups. -/
def twoMatches : MatchSet where
  query := "(é)|(x)|y"
  options := ⟨true, false, true⟩
  sourceHash := 0xFFFFFFFFFFFFFFFF
  found := [⟨1, 2, 3, "é", "\"é\"\t", [some "é", none]⟩, ⟨7, 1, 2, "y", "y", []⟩]
  patternError := none

/-- Its error is left out, the empty groups of its second match are written, and two fields are added. -/
def twoMatchesOtherwise : Json := .object [
  ("query", .string "(é)|(x)|y"),
  ("options", .object [("theme", .array [.null]), ("regex", .bool true),
    ("case_sensitive", .bool false), ("whole_word", .bool true)]),
  ("source_hash", .int 0xFFFFFFFFFFFFFFFF),
  ("seen", .bool true),
  ("matches", .array [
    .object [("line", .int 1), ("column", .int 2), ("end_column", .int 3),
      ("matched_text", .string "é"), ("line_text", .string "\"é\"\t"),
      ("groups", .array [.string "é", .null])],
    .object [("line", .int 7), ("column", .int 1), ("end_column", .int 2),
      ("matched_text", .string "y"), ("line_text", .string "y"), ("groups", .array [])]])]

theorem MatchSet.survives_json_twoMatches :
    (∀ m ∈ twoMatches.found, m.InWords) ∧
    (Json.parse? (CommandLine.matchText true twoMatches)).bind MatchSet.ofJson? = some twoMatches ∧
    MatchSet.ofJson? twoMatchesOtherwise = some twoMatches := by
  have fits : ∀ m ∈ twoMatches.found, m.InWords := by
    intro m member
    simp only [twoMatches, List.mem_cons, List.not_mem_nil, or_false] at member
    rcases member with rfl | rfl
    all_goals exact ⟨by decide, by decide, by decide⟩
  obtain ⟨-, printed, -, forms⟩ := MatchSet.survives_json twoMatches fits
  have alike : Relation.EqvGen MatchSet.Respelled twoMatches.toJson twoMatchesOtherwise := by
    refine .trans _ _ _ ?_ (.rel _ _ (.foreign [_, _, _] [_] (.bool true) (by simp)))
    refine .trans _ _ _ ?_ (.rel _ _ (.within [_] [_, _]
      (.inl ⟨rfl, .foreign [] [_, _, _] (.array [.null]) (by simp)⟩)))
    refine .trans _ _ _ ?_ (.rel _ _ (.within [_, _, _] []
      (.inr ⟨rfl, [_], [], _, _, .written [_, _, _, _, _] [] (by simp) (by decide), rfl, rfl⟩)))
    exact .symm _ _ (.rel _ _ (.written [_, _, _, _] [] (by simp [twoMatches, ofOption]) (by decide)))
  obtain ⟨decoded, read, rfl, -⟩ := forms twoMatchesOtherwise alike
  exact ⟨fits, printed, read⟩

end

end Search

end StoryScript
