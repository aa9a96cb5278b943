import StoryScript.Search.MatchSet

/-! The arguments of the program. Options can stand before and after the words; those before the
command are the ones that every command takes. After two dashes all arguments are words. -/
namespace StoryScript.CommandLine

inductive Verb where
  | find | replace | analyze
  deriving DecidableEq, Repr

namespace Verb

def name : Verb → String
  | .find => "find"
  | .replace => "replace"
  | .analyze => "analyze"

def all : List Verb := [.find, .replace, .analyze]

def ofName? (name : String) : Option Verb := all.find? (·.name == name)

def arity : Verb → Nat
  | .find => 2
  | .replace => 3
  | .analyze => 1

def searchFlags : List String := ["regex", "case-sensitive", "whole-word"]

def flags : Verb → List String
  | .find => searchFlags ++ ["json"]
  | .replace => searchFlags ++ ["write"]
  | .analyze => ["json"]

end Verb

inductive Command where
  | find (file query : String) (options : Search.Options) (json : Bool)
  | replace (file query replacement : String) (options : Search.Options) (write : Bool)
  | analyze (file : String) (json : Bool)
  deriving DecidableEq, Repr

inductive Request where
  | run (config : Option String) (command : Command)
  | help (verb : Option Verb)
  | version
  /-- The arguments make no sense. -/
  | refused
  deriving DecidableEq, Repr

structure Given where
  verb : Option Verb
  /-- Flags, without those before the verb. -/
  flags : List String
  /-- The configuration file named before the verb. -/
  outerConfig : Option String
  /-- The configuration file named where the reading is: before or after the verb. -/
  config : Option String
  /-- The next argument is the name of the configuration file. -/
  awaiting : Bool
  /-- All arguments that follow are words. -/
  closed : Bool
  /-- The first word was `help`; what follows names a verb. -/
  helping : Bool
  words : List String
  deriving DecidableEq, Repr

namespace Given

def start : Given := ⟨none, [], none, none, false, false, false, []⟩

/-- A flag that is allowed here and was not given yet. -/
def addFlag (given : Given) (flag : String) : Except Request Given :=
  let allowed := match given.verb with
    | some verb => verb.flags
    | none => []
  if flag ∈ "verbose" :: allowed ∧ flag ∉ given.flags then
    .ok { given with flags := flag :: given.flags }
  else .error .refused

def setConfig (given : Given) (path : String) : Except Request Given :=
  if path.isEmpty ∨ given.config.isSome then .error .refused
  else .ok { given with config := some path, awaiting := false }

/-- The version can only be asked for before a verb. -/
def versionRequest (given : Given) : Request :=
  if given.verb.isNone then .version else .refused

/-- An option of two dashes, after them: a name and perhaps a value behind an equals sign. -/
def addLong (given : Given) (option : List Char) : Except Request Given :=
  let name := String.ofList (option.takeWhile (· ≠ '='))
  match option.dropWhile (· ≠ '=') with
  | _ :: value =>
    if name = "config" then given.setConfig (String.ofList value) else .error .refused
  | [] =>
    if name = "config" then
      if given.config.isSome then .error .refused else .ok { given with awaiting := true }
    else if name = "help" then .error (.help given.verb)
    else if name = "version" then .error given.versionRequest
    else given.addFlag name

/-- One-letter options behind one dash. -/
def addShort (given : Given) : List Char → Except Request Given
  | [] => .ok given
  | 'v' :: rest => do (← given.addFlag "verbose").addShort rest
  | 'h' :: _ => .error (.help given.verb)
  | 'V' :: _ => .error given.versionRequest
  | _ => .error .refused

/-- The first word is the verb; the first word behind it names a file and is not empty. -/
def addWord (given : Given) (word : String) : Except Request Given :=
  match given.verb with
  | none =>
    if given.closed then .error .refused
    else if word = "help" then .ok { given with helping := true }
    else match Verb.ofName? word with
      | some verb =>
        .ok { given with verb := some verb, flags := [], outerConfig := given.config, config := none }
      | none => .error .refused
  | some verb =>
    if verb.arity ≤ given.words.length ∨ (given.words.isEmpty ∧ word.isEmpty) then .error .refused
    else .ok { given with words := given.words ++ [word] }

def addTopic (given : Given) (name : String) : Except Request Given :=
  if given.words.isEmpty ∧ (name = "help" ∨ (Verb.ofName? name).isSome) then
    .ok { given with words := [name] }
  else .error .refused

def add (given : Given) (argument : String) : Except Request Given :=
  if given.helping then given.addTopic argument
  else if given.closed then given.addWord argument
  else match argument.toList with
    | ['-', '-'] =>
      if given.awaiting then .error .refused else .ok { given with closed := true }
    | '-' :: '-' :: option => if given.awaiting then .error .refused else given.addLong option
    | '-' :: c :: rest => if given.awaiting then .error .refused else given.addShort (c :: rest)
    | _ => if given.awaiting then given.setConfig argument else given.addWord argument

def hasFlag (given : Given) (flag : String) : Bool := given.flags.contains flag

def searchOptions (given : Given) : Search.Options :=
  ⟨given.hasFlag "regex", given.hasFlag "case-sensitive", given.hasFlag "whole-word"⟩

/-- The command, if all of its words are there. -/
def command? (given : Given) : Option Command :=
  match given.verb, given.words with
  | some .find, [file, query] =>
    some (.find file query given.searchOptions (given.hasFlag "json"))
  | some .replace, [file, query, replacement] =>
    some (.replace file query replacement given.searchOptions (given.hasFlag "write"))
  | some .analyze, [file] => some (.analyze file (given.hasFlag "json"))
  | _, _ => none

/-- What all the arguments ask for. The configuration file named last counts, and `configured` is
the one to use when none is named. -/
def request (given : Given) (configured : Option String) : Request :=
  if given.helping then .help (given.words.head?.bind Verb.ofName?)
  else if given.awaiting ∨ configured = some "" then .refused
  else match given.command? with
    | some command => .run (given.config <|> given.outerConfig <|> configured) command
    | none => .refused

end Given

def Request.ofArguments (configured : Option String) (arguments : List String) : Request :=
  match arguments.foldlM Given.add Given.start with
  | .ok given => given.request configured
  | .error request => request

end StoryScript.CommandLine
