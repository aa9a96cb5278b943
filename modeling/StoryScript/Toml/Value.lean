/-! TOML values, and how a document builds its tables. A table can be named several times, but its
origin decides what may still be added to it. -/
namespace StoryScript

inductive Toml.Origin where
  /-- By a header of its own. -/
  | opened
  /-- As a part of the way to the table of a longer header. -/
  | implied
  /-- As a part of a dotted key. -/
  | dotted
  /-- Between braces; nothing can be added to it. -/
  | braced
  deriving DecidableEq, Repr

inductive Toml where
  | string (value : String)
  | int (value : Int)
  | float (value : Float)
  | bool (value : Bool)
  /-- A date, a time of day or both. -/
  | time
  | array (items : List Toml)
  | table (origin : Toml.Origin) (fields : List (String × Toml))
  /-- The tables of the headers in double brackets that share a name. -/
  | tables (items : List Toml)

namespace Toml

/-- A table apart from the value that it is. -/
structure Section where
  origin : Origin
  fields : List (String × Toml)

namespace Section

def toToml (s : Section) : Toml := .table s.origin s.fields

def root : Section := ⟨.opened, []⟩

def find? (s : Section) (name : String) : Option Toml := s.fields.lookup name

/-- The fields with the one of the given name set, in its old place if it has one. -/
def setField (name : String) (value : Toml) : List (String × Toml) → List (String × Toml)
  | [] => [(name, value)]
  | field :: rest =>
    if field.1 = name then (name, value) :: rest else field :: setField name value rest

def put (s : Section) (name : String) (value : Toml) : Section :=
  { s with fields := setField name value s.fields }

/-- Changes the table that a header leads to. What is missing on the way is implied; of several
tables in double brackets the last one is meant. -/
def changeAt (change : Section → Option Section) : List String → Section → Option Section
  | [], s => change s
  | name :: path, s =>
    match s.find? name with
    | none => do return s.put name (← changeAt change path ⟨.implied, []⟩).toToml
    | some (.table origin fields) =>
      if origin = .braced then none
      else do return s.put name (← changeAt change path ⟨origin, fields⟩).toToml
    | some (.tables items) =>
      match items.getLast? with
      | some (.table origin fields) => do
        let last ← changeAt change path ⟨origin, fields⟩
        return s.put name (.tables (items.dropLast ++ [last.toToml]))
      | _ => none
    | some _ => none

/-- A header in single brackets: the table is new, or was only implied so far. -/
def openTable (name : String) (s : Section) : Option Section :=
  match s.find? name with
  | none => some (s.put name (.table .opened []))
  | some (.table .implied fields) => some (s.put name (.table .opened fields))
  | some _ => none

/-- A header in double brackets: one more table of the name. -/
def openNext (name : String) (s : Section) : Option Section :=
  match s.find? name with
  | none => some (s.put name (.tables [.table .opened []]))
  | some (.tables items) => some (s.put name (.tables (items ++ [.table .opened []])))
  | some _ => none

/-- A key that is not there yet. -/
def define (name : String) (value : Toml) (s : Section) : Option Section :=
  if (s.find? name).isSome then none else some (s.put name value)

/-- A key after at least one dot: it can only be added to a table made by dotted keys. -/
def defineDotted (name : String) (value : Toml) : List String → Section → Option Section
  | [], s => if s.origin = .dotted then s.define name value else none
  | part :: path, s =>
    match s.find? part with
    | none => do return s.put part (← defineDotted name value path ⟨.dotted, []⟩).toToml
    | some (.table origin fields) =>
      if origin = .implied ∨ origin = .dotted then do
        return s.put part (← defineDotted name value path ⟨origin, fields⟩).toToml
      else none
    | some (.tables items) =>
      match items.getLast? with
      | some (.table origin fields) => do
        let last ← defineDotted name value path ⟨origin, fields⟩
        return s.put part (.tables (items.dropLast ++ [last.toToml]))
      | _ => none
    | some _ => none

/-- Sets a key, given by its parts: the ones before the last, and the last. -/
def assign (path : List String) (name : String) (value : Toml) (s : Section) : Option Section :=
  match path with
  | [] => s.define name value
  | _ => s.defineDotted name value path

end Section

/-! Reading values out of TOML; `none` for a value of another form. -/

def bool? : Toml → Option Bool
  | .bool value => some value
  | _ => none

def string? : Toml → Option String
  | .string value => some value
  | _ => none

def nat? : Toml → Option Nat
  | .int (.ofNat n) => some n
  | _ => none

/-- A number; whole ones count as well. -/
def float? : Toml → Option Float
  | .float value => some value
  | .int value => some (Float.ofInt value)
  | _ => none

/-- The settings of a group by their names. A list gives them in order, without the names. -/
def group? (names : List String) : Toml → Option (List (String × Toml))
  | .table _ fields => some fields
  | .array items => some (names.zip items)
  | .tables items => some (names.zip items)
  | _ => none

end Toml

end StoryScript
