import StoryScript.CommandLine.Arguments

/-! What the program says about itself. -/
namespace StoryScript.CommandLine

def versionText : String := "scenekit 0.1.0\n"

def summary : Option Verb → String
  | none => "Search, rewrite and analyze interactive story scripts"
  | some .find => "List every match of a query"
  | some .replace => "Replace every match of a query"
  | some .analyze => "Report missing scenes, unused variables and structure warnings"

def usage : Option Verb → String
  | none => "Usage: scenekit [OPTIONS] <COMMAND>"
  | some .find => "Usage: scenekit find [OPTIONS] <FILE> <QUERY>"
  | some .replace => "Usage: scenekit replace [OPTIONS] <FILE> <QUERY> <REPLACEMENT>"
  | some .analyze => "Usage: scenekit analyze [OPTIONS] <FILE>"

def searchFlagLines : List String := [
  "      --regex            Treat the query as a regular expression",
  "      --case-sensitive   Match case exactly",
  "      --whole-word       Match whole words only (ignored with --regex)"]

def details : Option Verb → List String
  | none => [
    "Commands:",
    "  find     List every match of a query",
    "  replace  Replace every match of a query",
    "  analyze  Report missing scenes, unused variables and structure warnings",
    "  help     Print this message or the help of the given subcommand(s)",
    "",
    "Options:"]
  | some .find => [
    "Arguments:",
    "  <FILE>   Story script to search",
    "  <QUERY>  Text or pattern to find",
    "",
    "Options:"] ++ searchFlagLines ++ [
    "      --json             Print matches as JSON"]
  | some .replace => [
    "Arguments:",
    "  <FILE>         Story script to rewrite",
    "  <QUERY>        Text or pattern to find",
    "  <REPLACEMENT>  Replacement text (`$1`, `$&` and `$$` expand in regex mode)",
    "",
    "Options:"] ++ searchFlagLines ++ [
    "      --write            Write the result back to FILE instead of printing it"]
  | some .analyze => [
    "Arguments:",
    "  <FILE>  Story script to analyze",
    "",
    "Options:",
    "      --json             Print the report as JSON"]

def commonFlagLines : List String := [
  "      --config <CONFIG>  TOML config file with [analyzer] and [search] tables",
  "  -v, --verbose          Log debug output to stderr",
  "  -h, --help             Print help"]

def helpText (verb : Option Verb) : String :=
  let versionLines := if verb.isNone then ["  -V, --version          Print version"] else []
  "\n".intercalate
    ([summary verb, "", usage verb, ""] ++ details verb ++ commonFlagLines ++ versionLines) ++ "\n"

end StoryScript.CommandLine
