import StoryScript.Report.Analysis

/-! An analysis engine that remembers its last report, by the fingerprint of the source. -/
namespace StoryScript

structure Engine where
  config : Report.Config
  /-- The last report and the fingerprint of its source. -/
  slot : Option (Fingerprint × Report)
  hits : Nat
  misses : Nat

namespace Engine

def new (config : Report.Config) : Engine := ⟨config, none, 0, 0⟩

def cached? (engine : Engine) (source : String) : Option Report :=
  match engine.slot with
  | some (hash, report) => if hash = Fingerprint.ofText source then some report else none
  | none => none

/-- The report of a source, remembered or computed and then remembered. -/
def analyze (engine : Engine) (source : String) : Report × Engine :=
  match engine.cached? source with
  | some report => (report, { engine with hits := engine.hits + 1 })
  | none =>
    let report := StoryScript.analyze engine.config source
    (report, { engine with
      slot := some (Fingerprint.ofText source, report)
      misses := engine.misses + 1 })

def invalidate (engine : Engine) : Engine := { engine with slot := none }

end Engine

end StoryScript
