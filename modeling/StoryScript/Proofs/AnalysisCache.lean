import StoryScript.Report.Cache

/-! The engine's memory of its last report, over runs of calls. As long as fingerprints tell the
sources of a run apart, the remembered report is that of the source analyzed last, and so the memory
only shows in the numbers of hits and misses. -/
namespace StoryScript.Engine

inductive Call where
  | analyze (source : String)
  | cached (source : String)
  | invalidate
  deriving DecidableEq, Repr

namespace Call

def source? : Call → Option String
  | .analyze source | .cached source => some source
  | .invalidate => none

def isAnalyze : Call → Bool
  | .analyze _ => true
  | _ => false

/-- Looking a report up leaves the engine as it is. -/
def isCached : Call → Bool
  | .cached _ => true
  | _ => false

end Call

def perform (engine : Engine) : Call → Engine
  | .analyze source => (engine.analyze source).2
  | .cached _ => engine
  | .invalidate => engine.invalidate

def run (engine : Engine) (calls : List Call) : Engine := calls.foldl perform engine

def sources (calls : List Call) : List String := calls.filterMap Call.source?

/-- The most recent call that was not a lookup. -/
def latest (calls : List Call) : Option Call := calls.reverse.find? (!·.isCached)

/-- The fingerprints of different sources in the list are different. -/
def ToldApart (sources : List String) : Prop :=
  ∀ a ∈ sources, ∀ b ∈ sources, Fingerprint.ofText a = Fingerprint.ofText b → a = b

instance (sources : List String) : Decidable (ToldApart sources) :=
  inferInstanceAs (Decidable (∀ a ∈ sources, ∀ b ∈ sources, _ → _))

theorem ToldApart.of_append {first last : List Call} (apart : ToldApart (sources (first ++ last))) :
    ToldApart (sources first) := by
  intro a memberA b memberB
  have sub : sources first ⊆ sources (first ++ last) := by
    rw [sources, sources, List.filterMap_append]
    exact List.subset_append_left ..
  exact apart a (sub memberA) b (sub memberB)

theorem ToldApart.earlier {past later : List Call} {call : Call} {source : String}
    (apart : ToldApart (sources (past ++ call :: later))) (about : call.source? = some source) :
    ∀ last ∈ sources past, Fingerprint.ofText last = Fingerprint.ofText source → last = source := by
  intro last given
  refine apart last ?_ source ?_
  · rw [sources, List.filterMap_append]
    exact List.mem_append_left _ given
  · exact List.mem_filterMap.mpr ⟨call, by simp, about⟩

theorem latest_snoc (calls : List Call) (call : Call) :
    latest (calls ++ [call]) = if call.isCached then latest calls else some call := by
  rw [latest, List.reverse_append]
  cases isCached : call.isCached <;> simp [isCached, latest]

theorem mem_of_latest {calls : List Call} {call : Call} (last : latest calls = some call) :
    call ∈ calls :=
  List.mem_reverse.mp (List.mem_of_find?_eq_some last)

/-- What the slot holds after a run, given the run's latest call. -/
def remembered (config : Report.Config) : Option Call → Option (Fingerprint × Report)
  | some (.analyze source) => some (.ofText source, StoryScript.analyze config source)
  | _ => none

structure Remembers (engine : Engine) (config : Report.Config) (past : List Call) : Prop where
  configured : engine.config = config
  slot : engine.slot = remembered config (latest past)

section

variable {engine : Engine} {config : Report.Config} {past : List Call}

/-- The memory answers for the source that was analyzed last, and for no other. -/
theorem Remembers.cached?_eq (remembers : engine.Remembers config past) {source : String}
    (apart : ∀ last ∈ sources past, Fingerprint.ofText last = Fingerprint.ofText source →
      last = source) :
    engine.cached? source =
      if latest past = some (.analyze source) then some (StoryScript.analyze config source)
      else none := by
  rw [cached?, remembers.slot]
  cases last : latest past with
  | none => simp [remembered]
  | some call =>
    cases call with
    | cached other => simp [remembered]
    | invalidate => simp [remembered]
    | analyze other =>
      have given : other ∈ sources past :=
        List.mem_filterMap.mpr ⟨_, mem_of_latest last, rfl⟩
      by_cases same : other = source
      · simp [remembered, same]
      · simp [remembered, same, mt (apart other given) same]

theorem Remembers.analyze_eq (remembers : engine.Remembers config past) {source : String}
    (apart : ∀ last ∈ sources past, Fingerprint.ofText last = Fingerprint.ofText source →
      last = source) :
    engine.analyze source = (StoryScript.analyze config source,
      if latest past = some (.analyze source) then { engine with hits := engine.hits + 1 }
      else { engine with
        slot := some (.ofText source, StoryScript.analyze config source)
        misses := engine.misses + 1 }) := by
  rw [analyze, remembers.cached?_eq apart, remembers.configured]
  by_cases again : latest past = some (.analyze source)
  · rw [if_pos again, if_pos again]
  · rw [if_neg again, if_neg again]

theorem Remembers.perform (remembers : engine.Remembers config past) (call : Call)
    (apart : ToldApart (sources (past ++ [call]))) :
    (engine.perform call).Remembers config (past ++ [call]) := by
  cases call with
  | cached source => exact ⟨remembers.configured, by rw [latest_snoc]; exact remembers.slot⟩
  | invalidate => exact ⟨remembers.configured, by rw [latest_snoc]; rfl⟩
  | analyze source =>
    rw [Engine.perform, remembers.analyze_eq (apart.earlier rfl)]
    split
    · rename_i again
      refine ⟨remembers.configured, ?_⟩
      rw [latest_snoc]
      exact remembers.slot.trans (by rw [again]; rfl)
    · exact ⟨remembers.configured, by rw [latest_snoc]; rfl⟩

theorem Remembers.run (remembers : engine.Remembers config past) (calls : List Call)
    (apart : ToldApart (sources (past ++ calls))) :
    (engine.run calls).Remembers config (past ++ calls) := by
  induction calls generalizing engine past with
  | nil => simpa [Engine.run] using remembers
  | cons call later ih =>
    rw [List.append_cons] at apart ⊢
    exact ih (remembers.perform call apart.of_append) apart

end

theorem hits_add_misses_run (engine : Engine) (calls : List Call) :
    (engine.run calls).hits + (engine.run calls).misses =
      engine.hits + engine.misses + calls.countP Call.isAnalyze := by
  induction calls generalizing engine with
  | nil => rfl
  | cons call later ih =>
    have counted : (engine.perform call).hits + (engine.perform call).misses =
        engine.hits + engine.misses + if call.isAnalyze then 1 else 0 := by
      cases call with
      | cached source => rfl
      | invalidate => rfl
      | analyze source =>
        simp only [perform, analyze, Call.isAnalyze, if_true]
        split <;> dsimp only <;> omega
    rw [run, List.foldl_cons, List.countP_cons]
    have rest := ih (engine.perform call)
    rw [run] at rest
    omega

/-- The memory is not seen in the reports. An analysis is a hit, and a lookup gives the report,
exactly if the most recent other call analyzed the same source. -/
theorem run_transparent (config : Report.Config) (calls : List Call)
    (apart : ToldApart (sources calls)) :
    (∀ past source later, calls = past ++ .analyze source :: later →
      let engine := (new config).run past
      let (report, next) := engine.analyze source
      report = StoryScript.analyze config source ∧
      (next.hits, next.misses) =
        if latest past = some (.analyze source) then (engine.hits + 1, engine.misses)
        else (engine.hits, engine.misses + 1)) ∧
    (∀ past source later, calls = past ++ .cached source :: later →
      ((new config).run past).cached? source =
        if latest past = some (.analyze source) then some (StoryScript.analyze config source)
        else none) ∧
    ((new config).run calls).hits + ((new config).run calls).misses =
      calls.countP Call.isAnalyze := by
  have start : (new config).Remembers config [] := ⟨rfl, rfl⟩
  refine ⟨?_, ?_, ?_⟩
  · rintro past source later rfl
    have remembers := start.run past apart.of_append
    dsimp only
    rw [List.nil_append] at remembers
    rw [remembers.analyze_eq (apart.earlier rfl)]
    refine ⟨rfl, ?_⟩
    split <;> rfl
  · rintro past source later rfl
    exact (start.run past apart.of_append).cached?_eq (apart.earlier rfl)
  · have counted := hits_add_misses_run (new config) calls
    simpa [new] using counted

/-- A lookup of another source does not make the engine forget; being told to forget does. -/
theorem run_transparent_forgetting :
    let first : List Call := [.analyze "scene a {}", .cached "scene b {}"]
    let more : List Call := [.analyze "scene a {}", .invalidate]
    let engine := (new .default).run first
    let later := (new .default).run (first ++ more)
    ToldApart (sources (first ++ more ++ [.analyze "scene a {}"])) ∧
    (engine.analyze "scene a {}").2.hits = engine.hits + 1 ∧
    (later.analyze "scene a {}").1 = StoryScript.analyze .default "scene a {}" ∧
    (later.analyze "scene a {}").2.misses = later.misses + 1 := by
  intro first more engine later
  have apart : ToldApart (sources (first ++ more ++ [.analyze "scene a {}"])) := by decide +kernel
  have transparent := (run_transparent .default _ apart).1
  have again := (transparent first "scene a {}" [.invalidate, .analyze "scene a {}"] rfl).2
  have forgotten := transparent (first ++ more) "scene a {}" [] rfl
  exact ⟨apart, congrArg Prod.fst again, forgotten.1, congrArg Prod.snd forgotten.2⟩

end StoryScript.Engine
