import StoryScript.Report.Analysis
import StoryScript.Search.MatchSet
import StoryScript.Toml.Reader

/-! The settings of a configuration file: a table for the analysis and one for the search. Every
setting can be left out, and unknown ones are passed over. -/
namespace StoryScript

open Toml

def Toml.setting {α : Type} (fields : List (String × Toml)) (name : String)
    (decode : Toml → Option α) (otherwise : α) : Option α :=
  match fields.lookup name with
  | none => some otherwise
  | some value => decode value

def Report.Config.ofToml? (toml : Toml) : Option Config := do
  let fields ← toml.group? ["long_scene_chars", "max_nesting_depth", "entry_scene",
    "min_comment_ratio", "comment_check_min_lines"]
  return ⟨
    ← setting fields "long_scene_chars" nat? default.longSceneChars,
    ← setting fields "max_nesting_depth" nat? default.maxNestingDepth,
    ← setting fields "entry_scene" (fun value => value.string?.map some) default.entryScene,
    ← setting fields "min_comment_ratio" float? default.minCommentRatio,
    ← setting fields "comment_check_min_lines" nat? default.commentCheckMinLines⟩

def Search.Options.ofToml? (toml : Toml) : Option Options := do
  let fields ← toml.group? ["regex", "case_sensitive", "whole_word"]
  return ⟨
    ← setting fields "regex" bool? false,
    ← setting fields "case_sensitive" bool? false,
    ← setting fields "whole_word" bool? false⟩

def Search.Options.either (a b : Options) : Options :=
  ⟨a.regex || b.regex, a.caseSensitive || b.caseSensitive, a.wholeWord || b.wholeWord⟩

namespace CommandLine

structure Settings where
  report : Report.Config
  search : Search.Options

namespace Settings

def default : Settings := ⟨.default, .default⟩

def ofToml? (toml : Toml) : Option Settings := do
  let fields ← toml.group? ["analyzer", "search"]
  return ⟨
    ← setting fields "analyzer" Report.Config.ofToml? default.report,
    ← setting fields "search" Search.Options.ofToml? default.search⟩

def parse? (text : String) : Option Settings := (Toml.parse? text).bind ofToml?

end Settings

end CommandLine

end StoryScript
