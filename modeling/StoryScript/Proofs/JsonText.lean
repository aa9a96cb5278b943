import Mathlib.Data.List.DropRight
import StoryScript.Proofs.JsonScalars

/-! Texts of JSON values: which text spells which value, that a reader takes a text for the value it
spells, and that a printer spells. So a printed value is read back. -/
namespace StoryScript.Json

/-! ### Spelled values -/

/-- The text spells the name of a field, with white space around it. -/
inductive SpellsName : List Char → String → Prop
  | mk {before after : List Char} (blank : Blank before) (blank' : Blank after) (name : String) :
      SpellsName (before ++ ((quote name).toList ++ after)) name

mutual

inductive Spells : List Char → Json → Prop
  | null : Spells "null".toList .null
  | yes : Spells "true".toList (.bool true)
  | no : Spells "false".toList (.bool false)
  | int {n : Int} (fits : InWord n) : Spells (intText n).toList (.int n)
  | string (text : String) : Spells (quote text).toList (.string text)
  | noItems {white : List Char} (blank : Blank white) : Spells ('[' :: (white ++ [']'])) (.array [])
  | items {text : List Char} {items : List Json} (spelled : SpellsItems text items) :
      Spells ('[' :: (text ++ [']'])) (.array items)
  | noFields {white : List Char} (blank : Blank white) : Spells ('{' :: (white ++ ['}'])) (.object [])
  | fields {text : List Char} {fields : List (String × Json)} (spelled : SpellsFields text fields) :
      Spells ('{' :: (text ++ ['}'])) (.object fields)

/-- The text spells the value, with white space around it. -/
inductive SpellsPart : List Char → Json → Prop
  | mk {before text after : List Char} {value : Json} (blank : Blank before) (blank' : Blank after)
      (spelled : Spells text value) : SpellsPart (before ++ (text ++ after)) value

inductive SpellsItems : List Char → List Json → Prop
  | last {text : List Char} {item : Json} (spelled : SpellsPart text item) : SpellsItems text [item]
  | more {text rest : List Char} {item : Json} {others : List Json} (spelled : SpellsPart text item)
      (further : SpellsItems rest others) : SpellsItems (text ++ ',' :: rest) (item :: others)

inductive SpellsFields : List Char → List (String × Json) → Prop
  | last {nameText text : List Char} {name : String} {value : Json} (named : SpellsName nameText name)
      (spelled : SpellsPart text value) : SpellsFields (nameText ++ ':' :: text) [(name, value)]
  | more {nameText text rest : List Char} {name : String} {value : Json}
      {others : List (String × Json)} (named : SpellsName nameText name)
      (spelled : SpellsPart text value) (further : SpellsFields rest others) :
      SpellsFields (nameText ++ ':' :: (text ++ ',' :: rest)) ((name, value) :: others)

end

/-! ### Steps of the reader -/

theorem skip_skip (text : List Char) : skip (skip text) = skip text :=
  List.dropWhile_idempotent _ _

theorem value?_of_skip_eq {text text' : List Char} (same : skip text = skip text') (fuel : Nat) :
    value? fuel text = value? fuel text' := by
  cases fuel with
  | zero => simp [value?]
  | succ fuel => simp only [value?, same]

theorem items?_skip (read : List Json) (fuel : Nat) (text : List Char) :
    items? read fuel (skip text) = items? read fuel text := by
  cases fuel with
  | zero => simp [items?]
  | succ fuel => simp only [items?, value?_of_skip_eq (skip_skip text)]

theorem fields?_skip (read : List (String × Json)) (fuel : Nat) (text : List Char) :
    fields? read fuel (skip text) = fields? read fuel text := by
  cases fuel with
  | zero => simp [fields?]
  | succ fuel => simp only [fields?, skip_skip]

theorem value?_number {c : Char} (sign : c = '-' ∨ Text.isDigit c = true) (fuel : Nat)
    (rest : List Char) : value? (fuel + 1) (c :: rest) = number? (c :: rest) := by
  rw [value?, skip_cons (solid_of_sign sign)]
  simp [ne_of_sign sign '"' (by decide), ne_of_sign sign '[' (by decide),
    ne_of_sign sign '{' (by decide), ne_of_sign sign 't' (by decide),
    ne_of_sign sign 'f' (by decide), ne_of_sign sign 'n' (by decide)]

theorem value?_array {c : Char} {text tail : List Char} (first : skip text = c :: tail)
    (filled : c ≠ ']') (fuel : Nat) : value? (fuel + 1) ('[' :: text) = items? [] fuel text := by
  rw [← items?_skip, first, value?, skip_cons (by decide)]
  simp [first, filled]

theorem value?_object {c : Char} {text tail : List Char} (first : skip text = c :: tail)
    (filled : c ≠ '}') (fuel : Nat) : value? (fuel + 1) ('{' :: text) = fields? [] fuel text := by
  rw [← fields?_skip, first, value?, skip_cons (by decide)]
  simp [first, filled]

theorem items?_more {item : Json} {text left rest : List Char} {fuel : Nat}
    (read : List Json) (value : value? fuel text = some (item, left)) (comma : skip left = ',' :: rest) :
    items? read (fuel + 1) text = items? (item :: read) fuel rest := by
  simp [items?, value, comma]

theorem items?_last {item : Json} {text left rest : List Char} {fuel : Nat}
    (read : List Json) (value : value? fuel text = some (item, left)) (close : skip left = ']' :: rest) :
    items? read (fuel + 1) text = some (.array (read.reverse ++ [item]), rest) := by
  simp [items?, value, close]

theorem SpellsName.read {nameText : List Char} {name : String} (named : SpellsName nameText name)
    (text : List Char) : ∃ tail left, skip (nameText ++ ':' :: text) = '"' :: tail ∧
      afterQuote? [] (tail.length + 1) tail = some (name, left) ∧ skip left = ':' :: text := by
  cases named with
  | @mk before after blank blank' =>
    obtain ⟨tail, quoted⟩ : ∃ tail, '"' :: tail = (quote name).toList ++ (after ++ ':' :: text) := by
      simp [quote_toList]
    refine ⟨tail, after ++ ':' :: text, ?_, afterQuote?_quote name quoted, ?_⟩
    · rw [List.append_assoc, List.append_assoc, skip_append blank, ← quoted, skip_cons (by decide)]
    · rw [skip_append blank', skip_cons (by decide)]

theorem fields?_more {nameText text left rest : List Char} {name : String} {value : Json} {fuel : Nat}
    (read : List (String × Json)) (named : SpellsName nameText name)
    (given : value? fuel text = some (value, left)) (comma : skip left = ',' :: rest) :
    fields? read (fuel + 1) (nameText ++ ':' :: text) = fields? ((name, value) :: read) fuel rest := by
  obtain ⟨tail, after, first, quoted, colon⟩ := named.read text
  simp [fields?, first, quoted, colon, given, comma]

theorem fields?_last {nameText text left rest : List Char} {name : String} {value : Json} {fuel : Nat}
    (read : List (String × Json)) (named : SpellsName nameText name)
    (given : value? fuel text = some (value, left)) (close : skip left = '}' :: rest) :
    fields? read (fuel + 1) (nameText ++ ':' :: text) =
      some (.object (read.reverse ++ [(name, value)]), rest) := by
  obtain ⟨tail, after, first, quoted, colon⟩ := named.read text
  simp [fields?, first, quoted, colon, given, close]

/-! ### Reading what is spelled -/

/-- A value starts with neither white space nor a closing bracket. -/
theorem Spells.head {text : List Char} {json : Json} (spelled : Spells text json) :
    ∃ c tail, text = c :: tail ∧ Solid c ∧ c ≠ ']' := by
  cases spelled with
  | @int n fits =>
    obtain ⟨c, tail, starts, sign⟩ := intText_head n
    exact ⟨c, tail, starts, solid_of_sign sign, ne_of_sign sign ']' (by decide)⟩
  | string text => exact ⟨'"', _, quote_toList text, by decide, by decide⟩
  | _ => exact ⟨_, _, rfl, by decide, by decide⟩

theorem SpellsPart.skip_eq {text : List Char} {json : Json} (spelled : SpellsPart text json)
    (rest : List Char) : ∃ c tail, skip (text ++ rest) = c :: tail ∧ c ≠ ']' := by
  obtain ⟨blank, -, spelled⟩ := spelled
  obtain ⟨c, tail, rfl, solid, other⟩ := spelled.head
  rw [List.append_assoc, skip_append blank, List.cons_append, List.cons_append, skip_cons solid]
  exact ⟨c, _, rfl, other⟩

theorem SpellsItems.skip_eq {text : List Char} {items : List Json} (spelled : SpellsItems text items)
    (rest : List Char) : ∃ c tail, skip (text ++ rest) = c :: tail ∧ c ≠ ']' := by
  cases spelled with
  | last spelled => exact spelled.skip_eq rest
  | more spelled further =>
    rw [List.append_assoc]
    exact spelled.skip_eq _

theorem SpellsFields.skip_eq {text : List Char} {fields : List (String × Json)}
    (spelled : SpellsFields text fields) (rest : List Char) :
    ∃ tail, skip (text ++ rest) = '"' :: tail := by
  cases spelled with
  | last named spelled | more named spelled further =>
    rw [List.append_assoc, List.cons_append]
    obtain ⟨tail, _, first, -⟩ := named.read _
    exact ⟨tail, first⟩

-- Brackets and commas each take one from the fuel; a part hands all of its own to its value.
mutual

theorem Spells.value? {text : List Char} {json : Json} (spelled : Spells text json) {fuel : Nat}
    {rest : List Char} (enough : 2 * text.length ≤ fuel) (stops : Stops rest) :
    Json.value? fuel (text ++ rest) = some (json, rest) := by
  obtain ⟨fuel, rfl⟩ : ∃ n, fuel = n + 1 := by
    obtain ⟨c, tail, rfl, -⟩ := spelled.head
    exact ⟨fuel - 1, by rw [List.length_cons] at enough; omega⟩
  cases spelled with
  | null => exact word?_append "null" .null rest
  | yes => exact word?_append "true" (.bool true) rest
  | no => exact word?_append "false" (.bool false) rest
  | @int n fits =>
    obtain ⟨c, tail, starts, sign⟩ := intText_head n
    rw [← number?_intText fits stops, starts, List.cons_append, value?_number sign]
  | string text =>
    obtain ⟨tail, quoted⟩ : ∃ tail, '"' :: tail = (quote text).toList ++ rest := by
      simp [quote_toList]
    rw [← quoted, Json.value?, skip_cons (by decide)]
    simp [afterQuote?_quote text quoted]
  | @noItems white blank =>
    have close : skip (white ++ ']' :: rest) = ']' :: rest := by
      rw [skip_append blank, skip_cons (by decide)]
    rw [List.cons_append, List.append_assoc, Json.value?, skip_cons (by decide)]
    simp [close]
  | items spelled =>
    obtain ⟨c, tail, first, filled⟩ := spelled.skip_eq (']' :: rest)
    rw [List.cons_append, List.append_assoc, List.singleton_append, value?_array first filled]
    exact spelled.items? [] rest (by simp at enough; omega)
  | @noFields white blank =>
    have close : skip (white ++ '}' :: rest) = '}' :: rest := by
      rw [skip_append blank, skip_cons (by decide)]
    rw [List.cons_append, List.append_assoc, Json.value?, skip_cons (by decide)]
    simp [close]
  | fields spelled =>
    obtain ⟨tail, first⟩ := spelled.skip_eq ('}' :: rest)
    rw [List.cons_append, List.append_assoc, List.singleton_append, value?_object first (by decide)]
    exact spelled.fields? [] rest (by simp at enough; omega)
termination_by (fuel, 0)

theorem SpellsPart.value? {text : List Char} {json : Json} (spelled : SpellsPart text json)
    {fuel : Nat} (enough : 2 * text.length ≤ fuel) {rest : List Char} (stops : Stops rest) :
    ∃ left, Json.value? fuel (text ++ rest) = some (json, left) ∧ skip left = skip rest := by
  cases spelled with
  | @mk before text after _ blank blank' spelled =>
    refine ⟨after ++ rest, ?_, skip_append blank' rest⟩
    rw [List.append_assoc, List.append_assoc, value?_of_skip_eq (skip_append blank _)]
    exact spelled.value? (by simp at enough; omega) (stops.append blank')
termination_by (fuel, 1)

theorem SpellsItems.items? {text : List Char} {items : List Json} (spelled : SpellsItems text items)
    (read : List Json) {fuel : Nat} (rest : List Char) (enough : 2 * text.length < fuel) :
    Json.items? read fuel (text ++ ']' :: rest) = some (.array (read.reverse ++ items), rest) := by
  obtain ⟨fuel, rfl⟩ : ∃ n, fuel = n + 1 := ⟨fuel - 1, by omega⟩
  cases spelled with
  | last spelled =>
    have room : 2 * text.length ≤ fuel := by omega
    obtain ⟨left, value, close⟩ := spelled.value? room (Stops.cons ']' (by decide) rest)
    exact items?_last read value close
  | @more text more item others spelled further =>
    simp only [List.length_append, List.length_cons] at enough
    have room : 2 * text.length ≤ fuel := by omega
    obtain ⟨left, value, comma⟩ := spelled.value? room
      (Stops.cons ',' (by decide) (more ++ ']' :: rest))
    rw [List.append_assoc, List.cons_append, items?_more read value comma,
      further.items? (item :: read) rest (by omega)]
    simp
termination_by (fuel, 0)

theorem SpellsFields.fields? {text : List Char} {fields : List (String × Json)}
    (spelled : SpellsFields text fields) (read : List (String × Json)) {fuel : Nat}
    (rest : List Char) (enough : 2 * text.length < fuel) :
    Json.fields? read fuel (text ++ '}' :: rest) = some (.object (read.reverse ++ fields), rest) := by
  obtain ⟨fuel, rfl⟩ : ∃ n, fuel = n + 1 := ⟨fuel - 1, by omega⟩
  cases spelled with
  | @last nameText text name value named spelled =>
    simp only [List.length_append, List.length_cons] at enough
    have room : 2 * text.length ≤ fuel := by omega
    obtain ⟨left, given, close⟩ := spelled.value? room (Stops.cons '}' (by decide) rest)
    rw [List.append_assoc, List.cons_append, fields?_last read named given close]
  | @more nameText text more name value others named spelled further =>
    simp only [List.length_append, List.length_cons] at enough
    have room : 2 * text.length ≤ fuel := by omega
    obtain ⟨left, given, comma⟩ := spelled.value? room
      (Stops.cons ',' (by decide) (more ++ '}' :: rest))
    rw [List.append_assoc, List.cons_append, List.append_assoc, List.cons_append,
      fields?_more read named given comma, further.fields? ((name, value) :: read) rest (by omega)]
    simp
termination_by (fuel, 0)

end

/-- A text that spells a value is read as that value. -/
theorem SpellsPart.parse? {text : String} {json : Json} (spelled : SpellsPart text.toList json) :
    Json.parse? text = some json := by
  have stops : Stops [] := by rintro c ⟨⟩
  obtain ⟨left, value, ended⟩ := spelled.value? (Nat.le_add_right _ 2) stops
  rw [List.append_nil] at value
  have empty : (skip left).isEmpty = true := by rw [ended]; rfl
  simp [Json.parse?, value, empty]

/-! ### Printed values -/

/-- A value with no doubles in it, and whose whole numbers fit. -/
inductive Whole : Json → Prop
  | null : Whole .null
  | bool (value : Bool) : Whole (.bool value)
  | int {n : Int} (fits : InWord n) : Whole (.int n)
  | string (text : String) : Whole (.string text)
  | array {items : List Json} (whole : ∀ item ∈ items, Whole item) : Whole (.array items)
  | object {fields : List (String × Json)} (whole : ∀ field ∈ fields, Whole field.2) :
      Whole (.object fields)

theorem prettyAll_eq_map (depth : Nat) (items : List Json) :
    prettyAll depth items = items.map (pretty depth) := by
  induction items with
  | nil => rfl
  | cons item items ih => rw [prettyAll, ih, List.map_cons]

theorem prettyFields_eq_map (depth : Nat) (fields : List (String × Json)) :
    prettyFields depth fields =
      fields.map fun field => quote field.1 ++ ": " ++ pretty depth field.2 := by
  induction fields with
  | nil => rfl
  | cons field fields ih => rw [prettyFields, ih, List.map_cons]

theorem blank_newline_indent (depth : Nat) : Blank ('\n' :: (indent depth).toList) := by
  intro c member
  rw [indent, String.toList_ofList, List.mem_cons] at member
  rcases member with rfl | space
  · rfl
  · rw [List.eq_of_mem_replicate space]
    rfl

/-- What stands between the brackets around parts on lines of their own. -/
def laidOut (depth : Nat) (parts : List String) : List Char :=
  '\n' :: (",\n".intercalate (parts.map (indent (depth + 1) ++ ·))).toList ++
    '\n' :: (indent depth).toList

theorem layOut_nil_toList (opening closing : String) (depth : Nat) :
    (layOut opening closing depth []).toList = opening.toList ++ ([] ++ closing.toList) := by
  simp [layOut]

theorem layOut_cons_toList (opening closing : String) (depth : Nat) (part : String)
    (parts : List String) : (layOut opening closing depth (part :: parts)).toList =
      opening.toList ++ (laidOut depth (part :: parts) ++ closing.toList) := by
  simp [layOut, laidOut]

theorem laidOut_singleton (depth : Nat) (part : String) : laidOut depth [part] =
    '\n' :: (indent (depth + 1)).toList ++ (part.toList ++ '\n' :: (indent depth).toList) := by
  simp [laidOut]

theorem laidOut_cons_cons (depth : Nat) (part next : String) (parts : List String) :
    laidOut depth (part :: next :: parts) = '\n' :: (indent (depth + 1)).toList ++
      (part.toList ++ []) ++ ',' :: laidOut depth (next :: parts) := by
  simp [laidOut, String.toList_intercalate, List.intercalate]

/-- Parts on lines of their own are parts divided by commas, with white space around them. -/
theorem laidOut_divided {α : Type} {Divided : List Char → List α → Prop} {text : α → String}
    {part : α} {parts : List α} (depth : Nat)
    (last : ∀ {before after : List Char}, Blank before → Blank after → ∀ x ∈ part :: parts,
      Divided (before ++ ((text x).toList ++ after)) [x])
    (more : ∀ {before after rest : List Char} {others : List α}, Blank before → Blank after →
      ∀ x ∈ part :: parts, Divided rest others →
      Divided (before ++ ((text x).toList ++ after) ++ ',' :: rest) (x :: others)) :
    Divided (laidOut depth ((part :: parts).map text)) (part :: parts) := by
  induction parts generalizing part with
  | nil =>
    rw [List.map_singleton, laidOut_singleton]
    exact last (blank_newline_indent _) (blank_newline_indent depth) part List.mem_cons_self
  | cons next parts ih =>
    rw [List.map_cons, List.map_cons, laidOut_cons_cons]
    have others : Divided (laidOut depth ((next :: parts).map text)) (next :: parts) :=
      ih (fun blank blank' x member => last blank blank' x (List.mem_cons_of_mem part member))
        (fun blank blank' x member => more blank blank' x (List.mem_cons_of_mem part member))
    exact more (blank_newline_indent _) blank_nil part List.mem_cons_self others

/-- A field as it is printed: its name, a colon and a space, and its value. -/
theorem field_toList (name text : String) (before after : List Char) :
    before ++ ((quote name ++ ": " ++ text).toList ++ after) =
      before ++ ((quote name).toList ++ []) ++ ':' :: ([' '] ++ (text.toList ++ after)) := by
  simp

theorem Whole.spells_pretty {json : Json} (whole : Whole json) (depth : Nat) :
    Spells (pretty depth json).toList json := by
  induction whole generalizing depth with
  | null => exact .null
  | bool value =>
    cases value with
    | false => exact .no
    | true => exact .yes
  | int fits => exact .int fits
  | string text => exact .string text
  | @array items whole ih =>
    rw [pretty, prettyAll_eq_map]
    cases items with
    | nil =>
      rw [List.map_nil, layOut_nil_toList]
      exact .noItems blank_nil
    | cons item items =>
      have divided : SpellsItems (laidOut depth ((item :: items).map (pretty (depth + 1))))
          (item :: items) :=
        laidOut_divided depth
          (fun blank blank' item member => .last (.mk blank blank' (ih item member (depth + 1))))
          (fun blank blank' item member others =>
            .more (.mk blank blank' (ih item member (depth + 1))) others)
      rw [List.map_cons, layOut_cons_toList]
      exact .items divided
  | @object fields whole ih =>
    rw [pretty, prettyFields_eq_map]
    cases fields with
    | nil =>
      rw [List.map_nil, layOut_nil_toList]
      exact .noFields blank_nil
    | cons field fields =>
      have space : Blank [' '] := by simp [Blank]
      have divided : SpellsFields (laidOut depth ((field :: fields).map fun field =>
          quote field.1 ++ ": " ++ pretty (depth + 1) field.2)) (field :: fields) := by
        refine laidOut_divided depth (fun blank blank' field member => ?_)
          (fun blank blank' field member others => ?_)
        · rw [field_toList]
          exact .last (.mk blank blank_nil field.1) (.mk space blank' (ih field member (depth + 1)))
        · rw [field_toList, List.append_assoc, List.cons_append]
          exact .more (.mk blank blank_nil field.1)
            (.mk space blank' (ih field member (depth + 1))) others
      rw [List.map_cons, layOut_cons_toList]
      exact .fields divided

/-- A printed value is read back, also with white space after it. -/
theorem Whole.parse?_pretty {json : Json} (whole : Whole json) (depth : Nat) {after : String}
    (blank : Blank after.toList) : parse? (pretty depth json ++ after) = some json := by
  apply SpellsPart.parse?
  rw [String.toList_append]
  exact .mk blank_nil blank (whole.spells_pretty depth)

end StoryScript.Json
